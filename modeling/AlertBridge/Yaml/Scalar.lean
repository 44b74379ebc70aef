import AlertBridge.Json.Basic
import AlertBridge.Text.Integer
import AlertBridge.Text.Substring

/-!
# What plain scalars denote

A plain scalar is null, a truth value, an integer or a double if it has the form of one, and a
text otherwise. Integers may be binary, octal, hexadecimal or sexagesimal, doubles sexagesimal,
and digits may have underscores among them.
-/

namespace AlertBridge.Yaml

/-- What a plain scalar is by its form. -/
inductive ScalarKind where
  | null
  | bool
  | int
  | float
  /-- The key that merges another mapping. -/
  | merge
  /-- The key of a default value. -/
  | default
  | text
  deriving DecidableEq

/-- The words for null. -/
def nullWords : List String := ["", "~", "null", "Null", "NULL"]

/-- The words for true. -/
def trueWords : List String := ["yes", "Yes", "YES", "true", "True", "TRUE", "on", "On", "ON"]

/-- The words for false. -/
def falseWords : List String := ["no", "No", "NO", "false", "False", "FALSE", "off", "Off", "OFF"]

/-- A decimal digit. -/
def isDecimal (c : Char) : Bool := '0' ≤ c && c ≤ '9'

/-- A decimal digit or an underscore. -/
def isLooseDecimal (c : Char) : Bool := isDecimal c || c = '_'

/-- The text without a sign in front. -/
def dropSign : List Char → List Char
  | '+' :: rest => rest
  | '-' :: rest => rest
  | cs => cs

/-- The text has a minus sign in front. -/
def isNegative : List Char → Bool
  | '-' :: _ => true
  | _ => false

/-- Some characters, all of which satisfy `p`. -/
def isSome (p : Char → Bool) (cs : List Char) : Bool := !cs.isEmpty && cs.all p

/-- A digit from zero to five, and a digit, or a digit alone. -/
def isSixty : List Char → Bool
  | [a, b] => ('0' ≤ a && a ≤ '5') && isDecimal b
  | [a] => isDecimal a
  | _ => false

/-- A number without leading zeros. -/
def isPlainNumber : List Char → Bool
  | c :: rest => '1' ≤ c && c ≤ '9' && rest.all isLooseDecimal
  | [] => false

/-- The form of an integer without its sign. -/
def isIntegerBody (cs : List Char) : Bool :=
  match cs with
  | '0' :: 'b' :: digits => isSome (fun c => c = '0' || c = '1' || c = '_') digits
  | '0' :: 'x' :: digits => isSome (fun c => (hexDigit? c).isSome || c = '_') digits
  | ['0'] => true
  | '0' :: digits => isSome (fun c => ('0' ≤ c && c ≤ '7') || c = '_') digits
  | cs => match splitChars ':' cs with
    | first :: parts => isPlainNumber first && parts.all isSixty
    | [] => false

/-- The form of an exponent, which has a sign. -/
def isExponent : List Char → Bool
  | [] => true
  | e :: sign :: digits =>
    (e = 'e' || e = 'E') && (sign = '+' || sign = '-') && isSome isDecimal digits
  | _ => false

/-- The digits behind a point, and an exponent. -/
def isFraction (cs : List Char) : Bool := isExponent (cs.dropWhile isLooseDecimal)

/-- Digits in front of a point. -/
def isWhole : List Char → Bool
  | c :: rest => isDecimal c && rest.all isLooseDecimal
  | [] => false

/-- The form of a double with digits in front of the point. -/
def isPointed (cs : List Char) : Bool :=
  match cs.takeWhile (· ≠ '.'), cs.dropWhile (· ≠ '.') with
  | whole, '.' :: fraction =>
    match splitChars ':' whole with
    | [whole] => isWhole whole && isFraction fraction
    | whole :: parts => isWhole whole && parts.all isSixty && fraction.all isLooseDecimal
    | [] => false
  | _, _ => false

/-- The words for infinity and for what is not a number. -/
def infinityWords : List String := [".inf", ".Inf", ".INF"]

/-- The words for what is not a number. -/
def nanWords : List String := [".nan", ".NaN", ".NAN"]

/-- The form of a double. -/
def isFloat (text : String) : Bool :=
  let cs := text.toList
  nanWords.contains text || infinityWords.contains (String.ofList (dropSign cs))
    || isPointed (dropSign cs)
    || match cs with
      | '.' :: c :: rest => isDecimal c && isFraction rest
      | _ => false

/-- What a plain scalar is by its form. -/
def ScalarKind.ofText (text : String) : ScalarKind :=
  if nullWords.contains text then .null
  else if trueWords.contains text || falseWords.contains text then .bool
  else if isFloat text then .float
  else if isIntegerBody (dropSign text.toList) then .int
  else if text = "<<" then .merge
  else if text = "=" then .default
  else .text

/-! ### Values -/

/-- The number that digits of a base denote, none where there are none or one is no digit. -/
def digitsOf? (base : Nat) (cs : List Char) : Option Nat := do
  if cs.isEmpty then none
  let digits ← cs.mapM fun c => (hexDigit? c).filter (· < base)
  return ofDigits base digits

/-- The value of sexagesimal digits, the most significant first. -/
def sixties? (parts : List (List Char)) : Option Nat := do
  return ofDigits 60 (← parts.mapM (digitsOf? 10))

/-- The value of an integer's text without sign and underscores. -/
def integerBody? : List Char → Option Nat
  | ['0'] => some 0
  | '0' :: 'b' :: digits => digitsOf? 2 digits
  | '0' :: 'x' :: digits => digitsOf? 16 digits
  | '0' :: digits => digitsOf? 8 ('0' :: digits)
  | cs => sixties? (splitChars ':' cs)

/-- The value of an integer's text, none if it is none. -/
def integer? (text : String) : Option Int :=
  let cs := text.toList.filter (· ≠ '_')
  (integerBody? (dropSign cs)).map fun n => if isNegative cs then -(n : Int) else n

/-- An exponent behind a number. -/
def exponentOf? (cs : List Char) : Option Int :=
  match cs with
  | [] => some 0
  | e :: digits =>
    if e = 'e' || e = 'E' then
      (digitsOf? 10 (dropSign digits)).map fun n => if isNegative digits then -(n : Int) else n
    else none

/-- The double that a decimal number with a point or an exponent denotes. -/
def decimal? (negative : Bool) (cs : List Char) : Option Binary64 := do
  let whole := cs.takeWhile isDecimal
  let rest := cs.dropWhile isDecimal
  let (fraction, rest) := match rest with
    | '.' :: rest => (rest.takeWhile isDecimal, rest.dropWhile isDecimal)
    | rest => ([], rest)
  let digits ← digitsOf? 10 (whole ++ fraction)
  return .ofDecimal negative digits ((← exponentOf? rest) - fraction.length)

/-- The double that sexagesimal digits denote, the most significant first, of which the last may
have a fraction. -/
def sixtiesFloat? (negative : Bool) (parts : List (List Char)) : Option Binary64 := do
  let last ← decimal? negative (← parts.getLast?)
  let n ← sixties? parts.dropLast
  return last.add (.ofInt (if negative then -(n * 60 : Int) else n * 60))

/-- The value of a double's text, none if it is none. -/
def float? (text : String) : Option Binary64 :=
  let cs := text.toList.filter (· ≠ '_')
  let body := dropSign cs
  let word := String.ofList (body.map Char.toLower)
  if word = ".inf" then some (.infinite (isNegative cs))
  else if word = ".nan" then some .nan
  else match splitChars ':' body with
    | [_] => decimal? (isNegative cs) body
    | parts => sixtiesFloat? (isNegative cs) parts

/-- The truth value of a word in letters of either case. -/
def bool? (text : String) : Option Bool :=
  let word := text.map Char.toLower
  if ["yes", "true", "on"].contains word then some true
  else if ["no", "false", "off"].contains word then some false
  else none

end AlertBridge.Yaml
