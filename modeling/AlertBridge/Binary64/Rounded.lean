import AlertBridge.Binary64

/-!
# Doubles with a given number of digits

A double is rounded to a number of decimals or of significant digits, the exact value to the nearest
decimal and a half to the even one, and laid out with a point, with an exponent, or with whichever
is shorter. The sign is left to the caller.
-/

namespace AlertBridge.Binary64

/-- Digits with zeros in front up to a number of them. -/
def zeroPadded (count : Nat) (digits : List Char) : List Char :=
  List.replicate (count - digits.length) '0' ++ digits

/-- Digits around a point, which stands at the end only if it is kept there. -/
def withPoint (keepPoint : Bool) (whole fraction : List Char) : List Char :=
  whole ++ if fraction.isEmpty && !keepPoint then [] else '.' :: fraction

/-- A ratio with a number of decimals. -/
def fixedForm (keepPoint : Bool) (decimals num den : Nat) : List Char :=
  let n := roundHalfEven (num * tenTo decimals) den
  let digits := zeroPadded (decimals + 1) (Nat.toDigits 10 n)
  let split := digits.length - decimals
  withPoint keepPoint (digits.take split) (digits.drop split)

/-- The significant digits of a ratio, and the place of the point behind the first of them. Zero has
zeros and its point behind the first one. -/
def significant (count num den : Nat) : List Char × Int :=
  if num = 0 then (List.replicate count '0', 1)
  else
    let place := pointPlace num den
    let shift := (count : Int) - place
    let n := roundHalfEven (num * tenTo shift.toNat) (den * tenTo (-shift).toNat)
    if n = tenTo count then (Nat.toDigits 10 (tenTo (count - 1)), place + 1)
    else (Nat.toDigits 10 n, place)

/-- Digits with the point behind the first one, and an exponent of at least two digits. -/
def exponentForm (keepPoint : Bool) (digits : List Char) (exponent : Int) : List Char :=
  withPoint keepPoint (digits.take 1) (digits.drop 1) ++
    'e' :: (if exponent < 0 then '-' else '+') :: zeroPadded 2 (Nat.toDigits 10 exponent.natAbs)

/-- Digits with the point at a place. -/
def pointForm (keepPoint : Bool) (digits : List Char) (place : Int) : List Char :=
  if place ≤ 0 then
    withPoint keepPoint ['0'] (List.replicate (-place).toNat '0' ++ digits)
  else
    let whole := digits.take place.toNat
    withPoint keepPoint (whole ++ List.replicate (place.toNat - whole.length) '0')
      (digits.drop place.toNat)

/-- A ratio with significant digits, the last ones without zeros unless the point is kept, and with
an exponent if the point is far from them. -/
def generalForm (keepPoint : Bool) (count num den : Nat) : List Char :=
  let count := max count 1
  let (digits, place) := significant count num den
  let digits := if keepPoint then digits
    else if num = 0 then ['0']
    else (digits.reverse.dropWhile (· = '0')).reverse
  if place ≤ -4 || place > count then exponentForm keepPoint digits (place - 1)
  else pointForm keepPoint digits place

/-- How the digits of a double are laid out. -/
inductive Form where
  | fixed
  | exponent
  | general

/-- A double without its sign, and whether it has one. What is not finite has no digits. -/
def inForm (form : Form) (keepPoint : Bool) (digits : Nat) : Binary64 → Bool × List Char
  | .finite negative m e =>
    let (num, den) := ratio m e
    (negative, match form with
      | .fixed => fixedForm keepPoint digits num den
      | .exponent =>
        let (ds, place) := significant (digits + 1) num den
        exponentForm keepPoint ds (place - 1)
      | .general => generalForm keepPoint digits num den)
  | .infinite negative => (negative, ['i', 'n', 'f'])
  | .nan => (false, ['n', 'a', 'n'])

/-- The exact value of a half is rounded to the even digit. -/
example : ([.fixed, .exponent, .general].map fun form =>
      String.ofList (inForm form false 1 (.finite false 5 (-2))).2) = ["1.2", "1.2e+00", "1"] := by
  decide +kernel

end AlertBridge.Binary64
