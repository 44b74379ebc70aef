import AlertBridge.Yaml.Unquoted

/-!
# Tokens of a YAML text

A token is an indicator, a scalar, or a property of a node. `Piece.read?` reads those tokens whose
extent does not depend on the layout of the text.
-/

namespace AlertBridge.Yaml

/-- A tag as it is written: its handle, unless it is written in full, and the rest. -/
structure TagText where
  handle : Option String
  suffix : String
  deriving DecidableEq

/-- What a directive says. -/
inductive Directive where
  | version (major : Nat)
  | tag (handle beginning : String)
  | other

/-- A token. -/
inductive Token where
  | directive (directive : Directive)
  | documentStart
  | documentEnd
  | blockSequenceStart
  | blockMappingStart
  | blockEnd
  | flowSequenceStart
  | flowSequenceEnd
  | flowMappingStart
  | flowMappingEnd
  | flowEntry
  | blockEntry
  | key
  | value
  | alias (name : String)
  | anchor (name : String)
  | tag (tag : TagText)
  | scalar (plain : Bool) (text : String)

namespace Piece

/-- The character can stand in a name. -/
def isNameChar (c : Char) : Bool := c.isAlphanum || c = '-' || c = '_'

/-- A name, which is not empty. -/
def name? (c : Cursor) : Option (String × Cursor) :=
  match c.readWhile isNameChar with
  | ([], _) => none
  | (cs, c) => some (String.ofList cs, c)

/-- The name of an anchor or an alias, behind its indicator. -/
def anchorName? (c : Cursor) : Option (String × Cursor) := do
  let (name, c) ← name? c
  if c.isFree 0 || c.meets ("?:,]\x7d%@`".toList.contains ·) then return (name, c) else none

/-! ### Tags -/

/-- The character can stand in a tag. -/
def isTagChar (c : Char) : Bool := c.isAlphanum || "-;/?:@&=+$,_.!~*'()[]%".toList.contains c

/-- The bytes of percent-encoded characters. -/
def escapedBytes? : List Char → Option (List UInt8)
  | '%' :: a :: b :: rest => do
    let x ← hexDigit? a
    let y ← hexDigit? b
    return UInt8.ofNat (x * 16 + y) :: (← escapedBytes? rest)
  | '%' :: _ => none
  | c :: rest => do return (String.singleton c).toUTF8.toList ++ (← escapedBytes? rest)
  | [] => some []

/-- The suffix of a tag, which is not empty. -/
def tagSuffix? (c : Cursor) : Option (String × Cursor) :=
  match c.readWhile isTagChar with
  | ([], _) => none
  | (cs, c) => do
    let bytes ← escapedBytes? cs
    return (← String.fromUTF8? ⟨bytes.toArray⟩, c)

/-- The handle of a tag: an exclamation mark, or a name between two. -/
def tagHandle? (c : Cursor) : Option (String × Cursor) :=
  if !c.isAt '!' then none
  else
    let (name, c') := c.advance.readWhile isNameChar
    if c'.isAt '!' then some (String.ofList ('!' :: name ++ ['!']), c'.advance)
    else if c.ahead? 1 = some ' ' then some ("!", c.advance)
    else none

/-- The characters up to the next blank hold a second exclamation mark. -/
def hasHandle (c : Cursor) : Bool :=
  (c.advance.rest.takeWhile fun x => !(x = ' ' || isBreak x)).contains '!'

/-- A tag. -/
def tag? (c : Cursor) : Option (TagText × Cursor) := do
  let (tag, c) ←
    if c.ahead? 1 = some '<' then do
      let (suffix, c) ← tagSuffix? (c.skip 2)
      if c.isAt '>' then pure (⟨none, suffix⟩, c.advance) else none
    else if c.isFree 1 then pure (⟨none, "!"⟩, c.advance)
    else do
      let (handle, c) ← if hasHandle c then tagHandle? c else pure ("!", c.advance)
      let (suffix, c) ← tagSuffix? c
      pure ((⟨some handle, suffix⟩ : TagText), c)
  if c.isClosed then return (tag, c) else none

/-! ### Directives -/

/-- A number, whose first character is a digit. -/
def number? (c : Cursor) : Option (Nat × Cursor) :=
  match c.readWhile (fun x => '0' ≤ x && x ≤ '9') with
  | ([], _) => none
  | (cs, c) => some (decimalValue cs, c)

/-- What the directive of a version says. -/
def version? (c : Cursor) : Option (Directive × Cursor) := do
  let (major, c) ← number? (c.skipWhile (· = ' '))
  if !c.isAt '.' then none
  let (_, c) ← number? c.advance
  if c.isClosed then return (.version major, c) else none

/-- What the directive of a tag says. -/
def tagDirective? (c : Cursor) : Option (Directive × Cursor) := do
  let (handle, c) ← tagHandle? (c.skipWhile (· = ' '))
  if !c.isAt ' ' then none
  let (beginning, c) ← tagSuffix? (c.skipWhile (· = ' '))
  if c.isClosed then return (.tag handle beginning, c) else none

/-- A directive, behind its indicator, with its line. -/
def directive? (c : Cursor) : Option (Directive × Cursor) := do
  let (name, c) ← name? c
  if !c.isClosed then none
  let (directive, c) ←
    if name = "YAML" then version? c
    else if name = "TAG" then tagDirective? c
    else pure (.other, c.skipWhile (!isBreak ·))
  return (directive, ← c.skipRestOfLine?)

end Piece

end AlertBridge.Yaml
