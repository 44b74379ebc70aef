import AlertBridge.Text.Blank

/-!
# HTML tags

The grammar of one HTML tag: its name, attributes with optional values, and the closing bracket.
An unquoted value may hold white space other than the space itself, so that where a value ends is
settled only by what follows; `Tag.attributes` tries the longest value first.
-/

namespace AlertBridge.Markdown.Tag

/-- A letter of ASCII, a digit or a hyphen. -/
def isNameChar (c : Char) : Bool := c.isAlphanum || c = '-'

/-- A tag's name and what follows it. -/
def readName? (cs : List Char) : Option (List Char × List Char) :=
  match cs with
  | [] => none
  | c :: rest =>
    if c.isAlpha then
      let more := rest.takeWhile isNameChar
      some (c :: more, rest.drop more.length)
    else none

/-- A character with which an attribute's name may go on. -/
def isAttributeChar (c : Char) : Bool :=
  c.isAlphanum || c = '_' || c = '.' || c = ':' || c = '-'

/-- A character of an unquoted value. -/
def isValueChar (c : Char) : Bool :=
  !(c = ' ' || c = '!' || c = '"' || c = '\'' || c = '=' || c = '<' || c = '>' || c = '`')

/-- What may follow an attribute's value that starts here, the longest value first. -/
def afterBareValue (cs : List Char) : List (List Char) :=
  let value := cs.takeWhile isValueChar
  let unquoted := (List.range value.length).map fun i => cs.drop (value.length - i)
  let quoted (mark : Char) : List Char → List (List Char)
    | c :: rest =>
      if c = mark then
        match rest.dropWhile (· ≠ mark) with
        | _ :: after => [after]
        | [] => []
      else []
    | [] => []
  unquoted ++ quoted '\'' cs ++ quoted '"' cs

/-- What may follow an attribute's value, behind white space that may be left out. White space
other than the space itself can be a value too, if no value behind it will do. -/
def afterValue (cs : List Char) : List (List Char) :=
  let blanks := cs.takeWhile isBlank
  let blankValues := (List.range blanks.length).filterMap fun i =>
    let taken := blanks.take (blanks.length - i)
    if taken.getLast?.all isValueChar then some (cs.drop taken.length) else none
  afterBareValue (cs.drop blanks.length) ++ blankValues

/-- What may follow one attribute, with the white space in front of it. -/
def afterAttribute (cs : List Char) : List (List Char) :=
  match cs with
  | [] => []
  | b :: _ =>
    if !isBlank b then []
    else match cs.dropWhile isBlank with
      | [] => []
      | c :: rest =>
        if c.isAlpha || c = '_' || c = ':' then
          let rest := rest.dropWhile isAttributeChar
          match rest.dropWhile isBlank with
          | '=' :: value => afterValue value ++ [rest]
          | _ => [rest]
        else []

/-- What `close` makes of the text after any number of attributes, as many as possible first. -/
def attributes {α : Type} (close : List Char → Option α) (cs : List Char) : Option α :=
  let found := (afterAttribute cs).attach.findSome? fun ⟨rest, _⟩ =>
    if rest.length < cs.length then attributes close rest else none
  found.orElse fun _ => close cs
termination_by cs.length

/-- The end of an opening tag: it may close itself. -/
def closeOpening (cs : List Char) : Option (List Char) :=
  match cs.dropWhile isBlank with
  | '>' :: rest => some rest
  | '/' :: '>' :: rest => some rest
  | _ => none

/-- What follows the tag at the start of the text, which stands after its opening bracket. -/
def read? (cs : List Char) : Option (List Char) :=
  match cs with
  | '/' :: rest => do
    let (_, after) ← readName? rest
    match after.dropWhile isBlank with
    | '>' :: after => some after
    | _ => none
  | _ => do
    let (_, after) ← readName? cs
    attributes closeOpening after

end AlertBridge.Markdown.Tag
