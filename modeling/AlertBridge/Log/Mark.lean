import AlertBridge.Text.Integer

/-!
# Marks in messages

A mark starts with a percent sign and ends with a letter, which says how an argument is shown. In
between it may have the name of the argument in parentheses, flags, a width, a precision behind a
point, and a letter for a size, which means nothing; a width or a precision may be an argument
itself. `pieces` takes a message apart. A mark that is cut off has no letter.
-/

namespace AlertBridge.LogMessage

/-- The name of the argument of a mark. -/
inductive MarkName where
  | absent
  | given (name : String)
  /-- The parentheses are not closed. -/
  | unclosed

/-- A number in a mark. -/
inductive Count where
  | absent
  | given (n : Nat)
  /-- The number is an argument. -/
  | argument

/-- What stands for an argument. -/
structure Mark where
  name : MarkName
  flags : List Char
  width : Count
  precision : Count
  letter? : Option Char

/-- A part of a message. -/
inductive Piece where
  | char (c : Char)
  | mark (m : Mark)

/-- What stands in front of the parenthesis that closes the innermost one of `depth` open ones and
those around it, and what follows. -/
def splitClosing? (depth : Nat) : List Char → Option (List Char × List Char)
  | [] => none
  | c :: rest =>
    let depth := if c = '(' then depth + 1 else if c = ')' then depth - 1 else depth
    if depth = 0 then some ([], rest)
    else (splitClosing? depth rest).map fun (inner, after) => (c :: inner, after)

/-- The name of a mark, and what follows. -/
def readName : List Char → MarkName × List Char
  | '(' :: rest => match splitClosing? 1 rest with
    | some (name, after) => (.given (String.ofList name), after)
    | none => (.unclosed, [])
  | cs => (.absent, cs)

/-- A number of a mark, and what follows. -/
def readCount : List Char → Count × List Char
  | '*' :: rest => (.argument, rest)
  | cs => match cs.takeWhile Char.isDigit with
    | [] => (.absent, cs)
    | digits => (.given (decimalValue digits), cs.dropWhile Char.isDigit)

/-- The precision of a mark, which is zero if nothing stands behind its point, and what follows. -/
def readPrecision : List Char → Count × List Char
  | '.' :: rest => match readCount rest with
    | (.absent, after) => (.given 0, after)
    | found => found
  | cs => (.absent, cs)

/-- The text behind the letter of a size. -/
def skipSize : List Char → List Char
  | [] => []
  | c :: rest => if c = 'h' || c = 'l' || c = 'L' then rest else c :: rest

/-- A flag of a mark. -/
def isFlag (c : Char) : Bool := c = '-' || c = '+' || c = ' ' || c = '#' || c = '0'

/-- The mark behind a percent sign, and what follows. -/
def Mark.read (cs : List Char) : Mark × List Char :=
  let (name, cs) := readName cs
  let flags := cs.takeWhile isFlag
  let (width, cs) := readCount (cs.dropWhile isFlag)
  let (precision, cs) := readPrecision cs
  match skipSize cs with
  | [] => (⟨name, flags, width, precision, none⟩, [])
  | letter :: rest => (⟨name, flags, width, precision, some letter⟩, rest)

/-- The parts of a message, of which the first `skip` characters belong to the mark in front. -/
def piecesFrom : (skip : Nat) → List Char → List Piece
  | _, [] => []
  | skip + 1, _ :: rest => piecesFrom skip rest
  | 0, c :: rest =>
    if c = '%' then
      match rest with
      | '%' :: _ => .char '%' :: piecesFrom 1 rest
      | _ =>
        let (mark, after) := Mark.read rest
        .mark mark :: piecesFrom (rest.length - after.length) rest
    else .char c :: piecesFrom 0 rest

/-- The parts of a message. -/
def pieces (message : List Char) : List Piece := piecesFrom 0 message

end AlertBridge.LogMessage
