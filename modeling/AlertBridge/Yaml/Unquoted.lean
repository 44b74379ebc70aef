import AlertBridge.Yaml.Quoted

/-!
# Plain and block scalars

A plain scalar ends where the structure of the document goes on, and may run over several lines
that are indented enough. A block scalar is all that is indented below its indicator, with its
line ends kept or folded; another sign says what becomes of the last ones.
-/

namespace AlertBridge.Yaml

/-! ### Plain scalars -/

/-- The character has a meaning inside of flow collections. -/
def isFlowIndicator (c : Char) : Bool :=
  c = ',' || c = '[' || c = ']' || c = '\x7b' || c = '\x7d'

/-- A plain scalar in a flow collection, or outside of any, ends in front of these characters. -/
def endsPlain (inFlow : Bool) : List Char → Bool
  | [] => true
  | x :: rest =>
    isSpace x || isBreak x || (inFlow && (isFlowIndicator x || x = '?'))
      || (x = ':' && match rest with
        | [] => true
        | y :: _ => isSpace y || isBreak y || (inFlow && isFlowIndicator y))

/-- The characters of a plain scalar up to the next blank or its end. -/
def plainWord (inFlow : Bool) : List Char → List Char
  | [] => []
  | x :: rest => if endsPlain inFlow (x :: rest) then [] else x :: plainWord inFlow rest

/-- The line ends at a position and the spaces between them; none for the line ends if a mark of a
document follows one of them. -/
def plainBreaks (c : Cursor) : Option (List Char) × Cursor :=
  let c' := c.skipWhile (· = ' ')
  match c'.break? with
  | none => (some [], c')
  | some (x, c'') =>
    if c''.isDocumentMark then (none, c'')
    else if c''.rest.length < c.rest.length then
      let (xs, last) := plainBreaks c''
      (xs.map (x :: ·), last)
    else (none, c'')
termination_by c.rest.length

/-- What follows a word of a plain scalar. -/
structure PlainGap where
  /-- What the gap counts for if the scalar goes on. -/
  text : List Char
  /-- There was a line end. -/
  broken : Bool
  cursor : Cursor

/-- What follows a word of a plain scalar. -/
def plainGap (c : Cursor) : PlainGap :=
  let (spaces, c) := c.readWhile (· = ' ')
  match c.break? with
  | none => ⟨spaces, false, c⟩
  | some (first, c) =>
    if c.isDocumentMark then ⟨[], true, c⟩
    else match plainBreaks c with
      | (none, c) => ⟨[], true, c⟩
      | (some others, c) => ⟨foldBreaks first others, true, c⟩

/-- A plain scalar as it has been read. -/
structure PlainScalar where
  text : List Char
  /-- A line end follows the scalar, so that a key may start there. -/
  broken : Bool
  cursor : Cursor

/-- The rest of a plain scalar, where `gap` is what is in front of the next word. Lines of the
scalar are indented by at least `indent`. -/
def readPlain (inFlow : Bool) (indent : Int) (gap : List Char) (broken : Bool) (c : Cursor) :
    PlainScalar :=
  let word := if c.isAt '#' then [] else plainWord inFlow c.rest
  if word.isEmpty then ⟨[], broken, c⟩
  else
    let next := plainGap (c.skip word.length)
    if next.text.isEmpty || (!inFlow && (next.cursor.column : Int) < indent) then
      ⟨gap ++ word, next.broken, next.cursor⟩
    else if next.cursor.rest.length < c.rest.length then
      let rest := readPlain inFlow indent next.text next.broken next.cursor
      { rest with text := gap ++ word ++ rest.text }
    else ⟨gap ++ word, next.broken, next.cursor⟩
termination_by c.rest.length

/-! ### Block scalars -/

/-- What becomes of the line ends at the end of a block scalar. -/
inductive Chomping where
  | clip
  | strip
  | keep
  deriving DecidableEq

/-- The sign for what becomes of the last line ends. -/
def chomping? (c : Char) : Option Chomping := [('+', Chomping.keep), ('-', Chomping.strip)].lookup c

/-- A decimal digit, which must not be zero. -/
def increment? (c : Char) : Option Nat :=
  if '1' ≤ c && c ≤ '9' then some (c.toNat - 48) else none

/-- What is said in front of a block scalar: what becomes of the last line ends, and by how much it
is indented. -/
structure BlockHeader where
  chomping : Chomping
  increment : Option Nat
  cursor : Cursor

/-- A sign or a digit at a position. -/
def readSign (c : Cursor) : Option Chomping × Cursor :=
  match c.next?.bind chomping? with
  | some chomping => (some chomping, c.advance)
  | none => (none, c)

/-- A digit at a position. -/
def readIncrement (c : Cursor) : Option Nat × Cursor :=
  match c.next?.bind increment? with
  | some n => (some n, c.advance)
  | none => (none, c)

/-- What is said in front of a block scalar, in either order. -/
def readHeader? (c : Cursor) : Option BlockHeader :=
  let (sign, c) := readSign c
  let (increment, c) := readIncrement c
  let (sign, c) := if sign.isNone then readSign c else (sign, c)
  if c.isClosed then
    c.skipRestOfLine?.map fun c => ⟨sign.getD .clip, increment, c⟩
  else none

/-- The empty lines at a position, and the greatest column of the spaces in them. -/
def blockIndentation (deepest : Nat) (c : Cursor) : List Char × Nat × Cursor :=
  let c' := c.skipWhile (· = ' ')
  let deepest := max deepest c'.column
  match c'.break? with
  | none => ([], deepest, c')
  | some (x, c'') =>
    if c''.rest.length < c.rest.length then
      let (xs, found, last) := blockIndentation deepest c''
      (x :: xs, found, last)
    else ([], deepest, c'')
termination_by c.rest.length

/-- The position behind the spaces in front of a column. -/
def skipIndent (indent : Nat) (c : Cursor) : Cursor :=
  c.skip ((c.rest.take (indent - c.column)).takeWhile (· = ' ')).length

/-- The empty lines at a position, where spaces up to a column are left out. -/
def blockBreaks (indent : Nat) (c : Cursor) : List Char × Cursor :=
  let c' := skipIndent indent c
  match c'.break? with
  | none => ([], c')
  | some (x, c'') =>
    if c''.rest.length < c.rest.length then
      let (xs, last) := blockBreaks indent c''
      (x :: xs, last)
    else ([], c'')
termination_by c.rest.length

/-- What stands between two lines of a block scalar. -/
def blockJoin (folded : Bool) (lineBreak : List Char) (breaks : List Char)
    (spaced : Bool) : List Char :=
  if folded && lineBreak = ['\n'] && !spaced then
    (if breaks.isEmpty then [' '] else []) ++ breaks
  else lineBreak ++ breaks

/-- What stands behind the last line of a block scalar. -/
def blockEnd (chomping : Chomping) (lineBreak breaks : List Char) : List Char :=
  match chomping with
  | .strip => []
  | .clip => lineBreak
  | .keep => lineBreak ++ breaks

/-- The lines of a block scalar at a column. -/
def blockLines (folded : Bool) (chomping : Chomping) (indent : Nat) (c : Cursor) :
    List Char × Cursor :=
  let (line, c₁) := c.readWhile (!isBreak ·)
  let (lineBreak, c₂) := match c₁.break? with
    | some (x, c₂) => ([x], c₂)
    | none => ([], c₁)
  let (breaks, c₃) := blockBreaks indent c₂
  if c₃.rest.length < c.rest.length ∧ c₃.column = indent ∧ c₃.next?.isSome then
    let spaced := c.meets isSpace || c₃.meets isSpace
    let (rest, last) := blockLines folded chomping indent c₃
    (line ++ blockJoin folded lineBreak breaks spaced ++ rest, last)
  else (line ++ blockEnd chomping lineBreak breaks, c₃)
termination_by c.rest.length
decreasing_by omega

/-- The text of a block scalar behind its indicator, where `parent` is the indentation of what it
belongs to. -/
def readBlock? (folded : Bool) (parent : Int) (c : Cursor) : Option (List Char × Cursor) := do
  let header ← readHeader? c
  let least := (max (parent + 1) 1).toNat
  let (breaks, indent, c) := match header.increment with
    | none =>
      let (breaks, deepest, c) := blockIndentation 0 header.cursor
      (breaks, max least deepest, c)
    | some n =>
      let indent := least + n - 1
      let (breaks, c) := blockBreaks indent header.cursor
      (breaks, indent, c)
  if c.column = indent && c.next?.isSome then
    let (text, c) := blockLines folded header.chomping indent c
    return (breaks ++ text, c)
  else return (blockEnd header.chomping [] breaks, c)

end AlertBridge.Yaml
