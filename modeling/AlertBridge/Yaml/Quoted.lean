import AlertBridge.Text.Integer
import AlertBridge.Yaml.Cursor

/-!
# Quoted scalars

A scalar in single quotes knows one escape, the doubled quote; one in double quotes has escapes
that start with a backslash. Either may go over several lines: a line end is a space, and empty
lines are kept.
-/

namespace AlertBridge.Yaml

/-- The character that an escape of one letter stands for. -/
def escaped? (c : Char) : Option Char :=
  [('0', 0), ('a', 7), ('b', 8), ('t', 9), ('\t', 9), ('n', 10), ('v', 11), ('f', 12), ('r', 13),
    ('e', 27), (' ', 32), ('"', 34), ('\\', 92), ('/', 47), ('N', 0x85), ('_', 0xA0),
    ('L', 0x2028), ('P', 0x2029)].lookup c |>.map Char.ofNat

/-- The number of digits of an escape by number. -/
def escapeWidth? (c : Char) : Option Nat := [('x', 2), ('u', 4), ('U', 8)].lookup c

/-- The character that hexadecimal digits denote. -/
def escapedNumber? (digits : List Char) (width : Nat) : Option Char :=
  let n := hexValue digits
  if digits.length = width && digits.all (fun c => (hexDigit? c).isSome) && n < 0x110000 then
    some (Char.ofNat n)
  else none

/-- The line ends at a position, with the blanks between them left out. A mark of a document may
not stand there. -/
def quotedBreaks? (c : Cursor) : Option (List Char × Cursor) :=
  if c.isDocumentMark then none
  else
    let c' := c.skipWhile isSpace
    match c'.break? with
    | none => some ([], c')
    | some (x, c'') =>
      if c''.rest.length < c.rest.length then
        (quotedBreaks? c'').map fun (xs, last) => (x :: xs, last)
      else none
termination_by c.rest.length

/-- The line ends after one that has been read: that one counts as a space if it is alone. -/
def foldBreaks (first : Char) (others : List Char) : List Char :=
  if first ≠ '\n' then first :: others else if others.isEmpty then [' '] else others

/-- The text of the blanks at a position: themselves, or what the line ends among them make. -/
def quotedSpaces? (c : Cursor) : Option (List Char × Cursor) :=
  let (blanks, c) := c.readWhile isSpace
  match c.next? with
  | none => none
  | some _ => match c.break? with
    | none => some (blanks, c)
    | some (first, c) => do
      let (others, c) ← quotedBreaks? c
      return (foldBreaks first others, c)

/-- The character or the line ends that an escape stands for, behind its backslash. -/
def readEscape? (c : Cursor) : Option (List Char × Cursor) := do
  let letter ← c.next?
  match escaped? letter with
  | some x => return ([x], c.advance)
  | none => match escapeWidth? letter with
    | some width =>
      let digits := c.advance.rest.take width
      return ([← escapedNumber? digits width], c.advance.skip width)
    | none => do
      let (_, c) ← c.break?
      quotedBreaks? c

/-- The text of one step through a quoted scalar, and the position behind it; none for the text
at the closing quote. -/
def quotedStep? (double : Bool) (c : Cursor) : Option (Option (List Char) × Cursor) :=
  match c.next? with
  | none => none
  | some x =>
    if isSpace x || isBreak x then (quotedSpaces? c).map fun (cs, c) => (some cs, c)
    else if double && x = '\\' then (readEscape? c.advance).map fun (cs, c) => (some cs, c)
    else if !double && x = '\'' && c.ahead? 1 = some '\'' then some (some ['\''], c.skip 2)
    else if x = (if double then '"' else '\'') then some (none, c.advance)
    else some (some [x], c.advance)

/-- The text of a quoted scalar behind its opening quote, and the position behind its closing
one. -/
def readQuoted? (double : Bool) (c : Cursor) : Option (List Char × Cursor) :=
  match quotedStep? double c with
  | none => none
  | some (none, c') => some ([], c')
  | some (some cs, c') =>
    if c'.rest.length < c.rest.length then
      (readQuoted? double c').map fun (rest, last) => (cs ++ rest, last)
    else none
termination_by c.rest.length

end AlertBridge.Yaml
