import AlertBridge.Text.Blank
import AlertBridge.Text.Casing
import AlertBridge.Text.CharRef
import AlertBridge.Text.Percent

/-!
# Links

The parts of a link: the label between square brackets, the destination, which may stand in angle
brackets, and the title in quotes or parentheses; and the table of reference definitions, in which
a label is found whatever its case and spacing.

The readers take the characters from a position on and give what they read with the rest.
-/

namespace AlertBridge.Markdown

/-- The 32 punctuation characters of ASCII. -/
def isPunctuation (c : Char) : Bool :=
  let n := c.toNat
  (33 ≤ n && n ≤ 47) || (58 ≤ n && n ≤ 64) || (91 ≤ n && n ≤ 96) || (123 ≤ n && n ≤ 126)

/-- The white space that separates the parts of a link. -/
def isLinkSpace (c : Char) : Bool :=
  c = ' ' || c = '\t' || c = '\n' || c = '\r' || c = '\x0c'

/-- A space or a tab. -/
def isIndent (c : Char) : Bool := c = ' ' || c = '\t'

/-- The text with each escaped punctuation character without its backslash. -/
def unescape : List Char → List Char
  | '\\' :: c :: rest =>
    if isPunctuation c then c :: unescape rest else '\\' :: unescape (c :: rest)
  | c :: rest => c :: unescape rest
  | [] => []

/-- The characters that stay as they are in a destination, besides the unreserved ones. -/
def destinationSafe : List Char := ":/?#@!$&()*+,;=%".toList

/-- A destination as an address: character references decoded, then percent-encoded. -/
def toAddress (destination : List Char) : String :=
  String.ofList (percentEncode destinationSafe (CharRef.decodeReferences destination))

/-- What a link leads to. -/
structure Target where
  url : String
  title : Option String

/-- The form in which labels are compared: words in one case with single spaces between them. -/
def labelKey (label : List Char) : String :=
  upperCase (lowerCase (joinWith " " ((wordsBy isBlank label).map String.ofList)))

/-- The definitions of a document, by the key of their label. -/
abbrev References := List (String × Target)

/-- The longest label. -/
def maxLabel : Nat := 999

/-- A label of at most `units` characters or escapes and its closing bracket. -/
def readLabelUnits? : (units : Nat) → List Char → Option (List Char × List Char)
  | _, ']' :: rest => some ([], rest)
  | n + 1, '\\' :: c :: rest =>
    if c = '\n' then none
    else (readLabelUnits? n rest).map fun (label, after) => ('\\' :: c :: label, after)
  | n + 1, c :: rest =>
    if c = '[' || c = '\\' then none
    else (readLabelUnits? n rest).map fun (label, after) => (c :: label, after)
  | _, _ => none

/-- A label and its closing bracket; a bracket has to stand among the next thousand characters. -/
def readLabel? (cs : List Char) : Option (List Char × List Char) :=
  if (cs.take (maxLabel + 1)).contains ']' then readLabelUnits? maxLabel cs else none

/-- Spaces and tabs, and at most one line end between them. -/
def skipToDestination (cs : List Char) : List Char :=
  match cs.dropWhile isIndent with
  | '\r' :: '\n' :: rest => rest.dropWhile isIndent
  | '\r' :: rest => rest.dropWhile isIndent
  | '\n' :: rest => rest.dropWhile isIndent
  | rest => rest

/-- The rest of a destination in angle brackets. -/
def readAngled? : List Char → Option (List Char × List Char)
  | [] => none
  | '>' :: rest => some ([], rest)
  | '\\' :: c :: rest =>
    if isPunctuation c then
      (readAngled? rest).map fun (href, after) => ('\\' :: c :: href, after)
    else (readAngled? (c :: rest)).map fun (href, after) => ('\\' :: href, after)
  | c :: rest =>
    if c = '<' || c = '\n' || c = '\r' || c = '\x00' then none
    else (readAngled? rest).map fun (href, after) => (c :: href, after)

/-- The deepest nesting of parentheses in a destination, of containers and of inline content. -/
def maxNesting : Nat := 20

/-- The rest of a bare destination inside `level` open parentheses: it ends at white space or at
an unmatched closing parenthesis. -/
def readBare? (level : Nat) : List Char → Option (List Char × List Char)
  | [] => if level = 0 then some ([], []) else none
  | '\\' :: c :: rest =>
    if isPunctuation c then
      (readBare? level rest).map fun (href, after) => ('\\' :: c :: href, after)
    else (readBare? level (c :: rest)).map fun (href, after) => ('\\' :: href, after)
  | c :: rest =>
    if isLinkSpace c then if level = 0 then some ([], c :: rest) else none
    else if c.toNat < 32 || c = '\x7f' then none
    else if c = '(' then
      if level ≥ maxNesting then none
      else (readBare? (level + 1) rest).map fun (href, after) => (c :: href, after)
    else if c = ')' then
      match level with
      | 0 => some ([], c :: rest)
      | n + 1 => (readBare? n rest).map fun (href, after) => (c :: href, after)
    else (readBare? level rest).map fun (href, after) => (c :: href, after)

/-- A destination. In a definition it may not be left out. -/
def readDestination? (definition : Bool) (cs : List Char) : Option (List Char × List Char) :=
  match skipToDestination cs with
  | [] => none
  | '<' :: rest => readAngled? rest
  | c :: rest =>
    if definition && isLinkSpace c then none else readBare? 0 (c :: rest)

/-- After a line end, a blank line follows. -/
def startsBlankLine (cs : List Char) : Bool :=
  match cs.dropWhile isIndent with
  | '\n' :: _ => true
  | _ => false

/-- The rest of a title that ends at `closer`. -/
def readTitleRest? (closer : Char) : List Char → Option (List Char × List Char)
  | [] => none
  | '\\' :: c :: rest =>
    if isPunctuation c then
      (readTitleRest? closer rest).map fun (title, after) => ('\\' :: c :: title, after)
    else (readTitleRest? closer (c :: rest)).map fun (title, after) => ('\\' :: title, after)
  | c :: rest =>
    if c = '\x00' || (closer = ')' && c = '(') || (c = '\n' && startsBlankLine rest) then none
    else if c = closer then some ([], rest)
    else (readTitleRest? closer rest).map fun (title, after) => (c :: title, after)

/-- A title with the white space in front of it. -/
def readTitle? (cs : List Char) : Option (String × List Char) :=
  match cs with
  | [] => none
  | c :: _ =>
    if !isLinkSpace c then none
    else
      let found := match cs.dropWhile isLinkSpace with
        | '\'' :: rest => readTitleRest? '\'' rest
        | '"' :: rest => readTitleRest? '"' rest
        | '(' :: rest => readTitleRest? ')' rest
        | _ => none
      found.map fun (title, after) => (String.ofList (unescape title), after)

/-- A title that is not empty. -/
def presentTitle (title : Option String) : Option String := title.filter (· ≠ "")

/-- The destination and title of a link in parentheses, after the opening one. -/
def readInlineTarget? (cs : List Char) : Option (Target × List Char) := do
  let (href, rest) ← readDestination? false cs
  let (title, rest) := match readTitle? rest with
    | some (title, after) => (some title, after)
    | none => (none, rest)
  match rest.dropWhile isLinkSpace with
  | ')' :: after => some (⟨toAddress (unescape href), presentTitle title⟩, after)
  | _ => none

end AlertBridge.Markdown
