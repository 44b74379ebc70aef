/-!
# Positions in a YAML text

A cursor is what is left of a text, with the line and the column where that starts. Line ends are
line feeds, next lines, and the separators of lines and paragraphs; the first two count as one
character when they are part of a text.
-/

namespace AlertBridge.Yaml

/-- The character ends a line. -/
def isBreak (c : Char) : Bool :=
  c = '\n' || c.toNat = 0x85 || c.toNat = 0x2028 || c.toNat = 0x2029

/-- The character is a space or a tab. -/
def isSpace (c : Char) : Bool := c = ' ' || c = '\t'

/-- The byte order mark. -/
def byteOrderMark : Char := Char.ofNat 0xFEFF

/-- Where a text is being read. -/
structure Cursor where
  rest : List Char
  /-- The number of characters in front. -/
  index : Nat
  line : Nat
  column : Nat

namespace Cursor

/-- The start of a text. -/
def start (cs : List Char) : Cursor := ⟨cs, 0, 0, 0⟩

/-- The next character. -/
def next? (c : Cursor) : Option Char := c.rest.head?

/-- The character some places ahead. -/
def ahead? (c : Cursor) (n : Nat) : Option Char := c.rest[n]?

/-- The position behind the next character. A byte order mark takes no column. -/
def advance (c : Cursor) : Cursor :=
  match c.rest with
  | [] => c
  | x :: rest =>
    if isBreak x then ⟨rest, c.index + 1, c.line + 1, 0⟩
    else ⟨rest, c.index + 1, c.line, if x = byteOrderMark then c.column else c.column + 1⟩

/-- The position behind some characters. -/
def skip : Nat → Cursor → Cursor
  | 0, c => c
  | n + 1, c => skip n c.advance

/-- The characters up to the first that does not satisfy `p`, and the position behind them. -/
def readWhile (p : Char → Bool) (c : Cursor) : List Char × Cursor :=
  let found := c.rest.takeWhile p
  (found, c.skip found.length)

/-- The position behind the characters that satisfy `p`. -/
def skipWhile (p : Char → Bool) (c : Cursor) : Cursor := (c.readWhile p).2

/-- The line end at the position as it counts in a text, and the position behind it. -/
def break? (c : Cursor) : Option (Char × Cursor) :=
  match c.next? with
  | some x =>
    if !isBreak x then none
    else some (if x.toNat = 0x2028 || x.toNat = 0x2029 then x else '\n', c.advance)
  | none => none

/-- The next character is the given one. -/
def isAt (c : Cursor) (x : Char) : Bool := c.next? == some x

/-- The next character satisfies `p`. -/
def meets (c : Cursor) (p : Char → Bool) : Bool := c.next?.any p

/-- The text ends some places ahead, or a blank or a line end stands there. -/
def isFree (c : Cursor) (n : Nat) : Bool :=
  match c.ahead? n with
  | none => true
  | some x => isSpace x || isBreak x

/-- The text ends at the position, or a space or a line end stands there. -/
def isClosed (c : Cursor) : Bool :=
  match c.next? with
  | none => true
  | some x => x = ' ' || isBreak x

/-- The line ends at the position. -/
def atLineEnd (c : Cursor) : Bool :=
  match c.next? with
  | none => true
  | some x => isBreak x

/-- Three equal characters with nothing attached to them: the mark of a document's start or
end. -/
def isMark (c : Cursor) (x : Char) : Bool := c.rest.take 3 = [x, x, x] && c.isFree 3

/-- The mark of a document's start or end. -/
def isDocumentMark (c : Cursor) : Bool := c.isMark '-' || c.isMark '.'

/-- The position behind a comment, if there is one. -/
def skipComment (c : Cursor) : Cursor :=
  if c.isAt '#' then c.skipWhile (!isBreak ·) else c

/-- The position behind spaces, a comment and the line end, which have to be all that is left of
the line. -/
def skipRestOfLine? (c : Cursor) : Option Cursor :=
  let c := (c.skipWhile (· = ' ')).skipComment
  if c.atLineEnd then some ((c.break?.map Prod.snd).getD c) else none

end Cursor

end AlertBridge.Yaml
