import AlertBridge.Markdown.Link
import AlertBridge.Text.Substring

/-!
# Lines and indentation

A line keeps its line end, if it has one. A tab reaches to the next multiple of four columns.
-/

namespace AlertBridge.Markdown

/-- The first line with its line end, and the rest. -/
def takeLine : List Char → List Char × List Char
  | [] => ([], [])
  | c :: cs =>
    if c = '\n' then ([c], cs)
    else let (line, rest) := takeLine cs; (c :: line, rest)

theorem length_takeLine (cs : List Char) :
    (takeLine cs).1.length + (takeLine cs).2.length = cs.length := by
  induction cs with
  | nil => rfl
  | cons c cs ih =>
    unfold takeLine
    split <;> simp_all <;> omega

theorem length_rest_takeLine (c : Char) (cs : List Char) :
    (takeLine (c :: cs)).2.length < (c :: cs).length := by
  have := length_takeLine cs
  unfold takeLine
  split <;> simp
  omega

/-- The first line without its line end. -/
def lineText (cs : List Char) : List Char := cs.takeWhile (· ≠ '\n')

/-- What follows the first line and its line end. -/
def afterLine (cs : List Char) : List Char := (takeLine cs).2

/-- The lines of a text, each changed on its own. -/
def mapLines (f : List Char → List Char) (cs : List Char) : List Char :=
  (List.intersperse ['\n'] ((splitChars '\n' cs).map f)).flatten

/-- `n` spaces. -/
def spaces (n : Nat) : List Char := List.replicate n ' '

/-- The number of spaces in front. -/
def leadingSpaces (cs : List Char) : Nat := (cs.takeWhile (· = ' ')).length

/-- The text after at most `most` spaces, with their number; none if there are more. -/
def dedent? (most : Nat) (cs : List Char) : Option (Nat × List Char) :=
  let n := leadingSpaces cs
  if n ≤ most then some (n, cs.drop n) else none

/-- A line whose tab after at most three spaces becomes as many spaces as `fill` says. -/
def expandTabAfter (fill : Nat → Nat) (line : List Char) : List Char :=
  let n := leadingSpaces line
  match line.drop n with
  | '\t' :: rest => if n ≤ 3 then spaces (n + fill n) ++ rest else line
  | _ => line

/-- A line whose tab after at most three spaces fills up to a width. -/
def fillTab (width : Nat) (line : List Char) : List Char := expandTabAfter (width - ·) line

/-- A line whose tab after at most three spaces counts as four. -/
def widenTab (line : List Char) : List Char := expandTabAfter (fun _ => 4) line

/-- The line with the tabs in its indentation turned into spaces, where it starts at a column. -/
def expandIndent (column : Nat) : List Char → List Char
  | ' ' :: rest => ' ' :: expandIndent (column + 1) rest
  | '\t' :: rest =>
    spaces (4 - column % 4) ++ expandIndent (column + (4 - column % 4)) rest
  | cs => cs

/-- The indentation of a line reaches a column. -/
def reaches (columns : Nat) (cs : List Char) : Bool :=
  go 0 cs
where
  go (width : Nat) : List Char → Bool
    | ' ' :: rest => width + 1 ≥ columns || go (width + 1) rest
    | '\t' :: rest =>
      width + (4 - width % 4) ≥ columns || go (width + (4 - width % 4)) rest
    | _ => false

/-- The column that the indentation reaches with at most `columns` of it taken, and the rest. -/
def takeIndent (columns : Nat) (width : Nat) (cs : List Char) : Nat × List Char :=
  if width < columns then
    match cs with
    | ' ' :: rest => takeIndent columns (width + 1) rest
    | '\t' :: rest => takeIndent columns (width + (4 - width % 4)) rest
    | _ => (width, cs)
  else (width, cs)
termination_by cs.length

/-- The line without `columns` of its indentation. Spaces left of a tab that was cut are kept,
and tabs behind them are expanded. -/
def stripIndent (columns : Nat) (line : List Char) : List Char :=
  let (width, rest) := takeIndent columns 0 line
  if width < columns then []
  else
    let kept := spaces (width - columns)
    match rest with
    | [] => kept
    | c :: _ =>
      if (c = ' ' && !rest.contains '\t') || (c ≠ ' ' && c ≠ '\t') then kept ++ rest
      else kept ++ expandIndent width rest

/-- A blank of a blank line. -/
def isLineBlank (c : Char) : Bool := c = ' ' || c = '\t' || c = '\x0b' || c = '\x0c'

/-- What follows a blank line at the start of the text; a blank line has a line end. -/
def afterBlankLine? (cs : List Char) : Option (List Char) :=
  match cs.dropWhile isLineBlank with
  | '\n' :: rest => some rest
  | _ => none

theorem length_of_afterBlankLine? {cs rest : List Char} (h : afterBlankLine? cs = some rest) :
    rest.length < cs.length := by
  unfold afterBlankLine? at h
  have hs : (cs.dropWhile isLineBlank).length ≤ cs.length := (List.dropWhile_sublist _).length_le
  split at h
  · rename_i hd
    rw [hd, List.length_cons] at hs
    rw [← Option.some.inj h]
    omega
  · simp at h

/-- What follows the blank lines at the start of the text. -/
def skipBlankLines (cs : List Char) : List Char :=
  match _h : afterBlankLine? cs with
  | some rest => skipBlankLines rest
  | none => cs
termination_by cs.length
decreasing_by exact length_of_afterBlankLine? (by assumption)

/-- The lines up to the next blank one, the first of them in any case, and the rest. -/
def untilBlankLine (cs : List Char) : List Char × List Char :=
  match cs with
  | [] => ([], [])
  | c :: cs =>
    let line := (takeLine (c :: cs)).1
    let rest := (takeLine (c :: cs)).2
    if (afterBlankLine? rest).isSome then (line, rest)
    else
      let (more, after) := untilBlankLine rest
      (line ++ more, after)
termination_by cs.length
decreasing_by exact length_rest_takeLine ..

/-- The line holds indented code: four spaces, or spaces and a tab, and something after them. -/
def isIndentedCode (line : List Char) : Bool :=
  let text := lineText line
  let n := leadingSpaces text
  (n ≥ 4 && text.length > 4) ||
    match text.drop n with
    | '\t' :: _ :: _ => true
    | _ => false

/-- The lines of indented code and blank lines from here on, and the rest. -/
def takeIndentedCode (cs : List Char) : List Char × List Char :=
  match cs with
  | [] => ([], [])
  | c :: cs =>
    let line := (takeLine (c :: cs)).1
    if isIndentedCode line || allBlank line then
      let (more, after) := takeIndentedCode (takeLine (c :: cs)).2
      (line ++ more, after)
    else ([], c :: cs)
termination_by cs.length
decreasing_by exact length_rest_takeLine ..

/-- The code of indented lines. -/
def indentedCode (cs : List Char) : List Char :=
  let unindent (line : List Char) : List Char := line.drop (min 4 (leadingSpaces line))
  trimBoth (· = '\n') (mapLines unindent (mapLines (fillTab 4) cs))

/-- The text without blank lines at its end. -/
def trimLineEnds (cs : List Char) : List Char :=
  let solid := dropTail isBlank cs
  let tail := cs.drop solid.length
  if tail.contains '\n' then solid ++ tail.takeWhile (· ≠ '\n') ++ ['\n'] else cs

end AlertBridge.Markdown
