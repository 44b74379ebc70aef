import AlertBridge.Binary64.Rounded
import AlertBridge.Log.Mark
import AlertBridge.Log.Value

/-!
# Messages with arguments

A log message may have marks for its arguments. Texts are shown as they are (`%s`), in the notation
of values (`%r`) or in that notation without characters beyond ASCII (`%a`), numbers as integers of
base ten, eight or sixteen (`%d`, `%o`, `%x`), with decimals (`%f`), with an exponent (`%e`) or with
whichever is shorter (`%g`), and characters by their number (`%c`); `%%` is a percent sign. A width
pads with blanks or zeros.

The marks and the arguments have to be as many. An argument that is alone and has values under names
may be asked for these instead. A message without arguments is taken as it is.
-/

namespace AlertBridge.LogMessage

/-! ## Arguments -/

/-- The arguments that are left while a message is filled. -/
structure Supply where
  /-- The values under names, if there are any. -/
  named? : Option (List (String × LogValue))
  left : List LogValue

/-- The arguments of a call. -/
def Supply.ofArguments (arguments : List LogValue) : Supply :=
  match arguments with
  | [v] => ⟨v.named?, [v]⟩
  | _ => ⟨none, arguments⟩

/-- A part of filling a message. -/
abbrev Filling := StateT Supply (Except Fault)

/-- The next argument. -/
def nextArgument : Filling LogValue := do
  let supply ← get
  match supply.left with
  | [] => throw .misfitArguments
  | v :: left =>
    set { supply with left }
    return v

/-- The argument of a name becomes the only one that is left. -/
def selectArgument : MarkName → Filling Unit
  | .absent => return
  | name => do
    let supply ← get
    match supply.named?, name with
    | none, _ => throw .misfitArguments
    | some fields, .given name => match fields.lookup name with
      | some v => set { supply with left := [v] }
      | none => throw (.missing name)
    | some _, _ => throw .malformedMessage

/-- The greatest width. -/
def maxWidth : Int := 0x7fffffffffffffff

/-- The greatest precision. -/
def maxPrecision : Int := 0x7fffffff

/-- A number of a mark, within bounds. -/
def resolveCount (most : Int) : Count → Filling (Option Int)
  | .absent => return none
  | .given n => if n ≤ most then return some n else throw .malformedMessage
  | .argument => do
    let n ← (← nextArgument).count
    if -most - 1 ≤ n && n ≤ most then return some n else throw .tooLarge

/-! ## Figures -/

/-- An argument as it stands in a message, without what pads it. -/
structure Figure where
  /-- The sign of a number, if it shows one. -/
  sign : List Char := []
  /-- What tells the base of a number. -/
  base : List Char := []
  body : List Char
  /-- Zeros may stand in front of the body. -/
  isNumber : Bool := false

/-- The sign of a number. -/
def signOf (flags : List Char) (negative : Bool) : List Char :=
  if negative then ['-']
  else if flags.contains '+' then ['+']
  else if flags.contains ' ' then [' ']
  else []

/-- A figure padded to a width. -/
def Figure.padded (figure : Figure) (flags : List Char) (width : Nat) : List Char :=
  let front := figure.sign ++ figure.base
  let missing := width - (front.length + figure.body.length)
  if flags.contains '-' then front ++ figure.body ++ List.replicate missing ' '
  else if figure.isNumber && flags.contains '0' then
    front ++ List.replicate missing '0' ++ figure.body
  else List.replicate missing ' ' ++ front ++ figure.body

/-- The figure of a text, of which the precision leaves the beginning. -/
def textFigure (precision : Option Nat) (cs : List Char) : Figure :=
  { body := match precision with
      | some n => cs.take n
      | none => cs }

/-- The figure of an integer, whose digits the precision makes more. -/
def integerFigure (flags : List Char) (precision : Option Nat) (base : List Char)
    (digits : Nat → List Char) (n : Int) : Figure :=
  { sign := signOf flags (n < 0)
    base := if flags.contains '#' then base else []
    body := Binary64.zeroPadded (precision.getD 0) (digits n.natAbs)
    isNumber := true }

/-- The figure of a double, with six digits unless the precision tells their number. -/
def doubleFigure (flags : List Char) (precision : Option Nat) (form : Binary64.Form)
    (x : Binary64) : Figure :=
  let (negative, body) := x.inForm form (flags.contains '#') (precision.getD 6)
  { sign := signOf flags negative, body, isNumber := true }

/-- A figure in capitals. -/
def Figure.upper (figure : Figure) : Figure :=
  { figure with base := figure.base.map Char.toUpper, body := figure.body.map Char.toUpper }

/-- An argument as a letter shows it. -/
def figureOf (letter : Char) (flags : List Char) (precision : Option Nat) (v : LogValue) :
    Except Fault Figure :=
  let integer (base : List Char) (digits : Nat → List Char) : Except Fault Figure :=
    v.index.map (integerFigure flags precision base digits)
  let double (form : Binary64.Form) : Except Fault Figure :=
    v.real.map (doubleFigure flags precision form)
  match letter with
  | 's' => v.text.map (textFigure precision ·.toList)
  | 'r' => v.quoted.map (textFigure precision ·.toList)
  | 'a' => v.quoted.map (textFigure precision ∘ asciiChars)
  | 'c' => v.char.map fun c => { body := [c] }
  | 'd' | 'i' | 'u' => do
    let n ← v.whole
    if isShortNumeral n then return integerFigure flags precision [] (Nat.toDigits 10) n
    else throw .notANumeral
  | 'o' => integer ['0', 'o'] (Nat.toDigits 8)
  | 'x' => integer ['0', 'x'] (Nat.toDigits 16)
  | 'X' => (integer ['0', 'x'] (Nat.toDigits 16)).map Figure.upper
  | 'f' => double .fixed
  | 'F' => (double .fixed).map Figure.upper
  | 'e' => double .exponent
  | 'E' => (double .exponent).map Figure.upper
  | 'g' => double .general
  | 'G' => (double .general).map Figure.upper
  | _ => .error .malformedMessage

/-! ## Messages -/

/-- What a mark becomes. A negative width pads behind the figure. -/
def fillMark (mark : Mark) : Filling (List Char) := do
  selectArgument mark.name
  let width ← resolveCount maxWidth mark.width
  let precision ← resolveCount maxPrecision mark.precision
  match mark.letter? with
  | none => throw .malformedMessage
  | some letter =>
    let width := width.getD 0
    let flags := if width < 0 then '-' :: mark.flags else mark.flags
    let figure ← figureOf letter mark.flags (precision.map Int.toNat) (← nextArgument)
    return figure.padded flags width.natAbs

/-- A message whose parts are filled one after the other. Where arguments have names, each mark has
to use up what it selects. -/
def fill : List Piece → Filling (List Char)
  | [] => return []
  | .char c :: rest => return c :: (← fill rest)
  | .mark mark :: rest => do
    let shown ← fillMark mark
    let supply ← get
    if supply.named?.isSome && !supply.left.isEmpty then throw .misfitArguments
    return shown ++ (← fill rest)

/-- A message with its arguments. -/
def filled (message : String) (arguments : List LogValue) : Except Fault String := do
  if arguments.isEmpty then return message
  let (shown, supply) ← (fill (pieces message.toList)).run (Supply.ofArguments arguments)
  if supply.named?.isSome || supply.left.isEmpty then return String.ofList shown
  else throw .misfitArguments

/-- A message without arguments is not looked into. -/
@[simp] theorem filled_nil (message : String) : filled message [] = .ok message := rfl

/-- A message with values of documents as its arguments. -/
def format (message : String) (arguments : List Json) : Except Fault String :=
  filled message (arguments.map .value)

end AlertBridge.LogMessage
