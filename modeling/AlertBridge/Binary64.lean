/-!
# Double precision numbers

A number with a fraction or an exponent is kept as the double nearest to it: a sign, a mantissa
`m` and an exponent `e` for `m · 2^e`, infinity, or not a number. All arithmetic is exact on
natural numbers. `Binary64.text` writes the fewest digits that read back as the same double, the
nearest of those where there are several.
-/

namespace AlertBridge

/-- A double: `(-1)^negative · mantissa · 2^exponent`, infinity of either sign, or not a number.
A finite one has a mantissa below `2^53`, and of at least `2^52` unless the exponent is the
least, `-1074`. -/
inductive Binary64 where
  | finite (negative : Bool) (mantissa : Nat) (exponent : Int)
  | infinite (negative : Bool)
  | nan
  deriving DecidableEq, Inhabited

namespace Binary64

/-- The least exponent. -/
def minExponent : Int := -1074

/-- The greatest exponent. -/
def maxExponent : Int := 971

/-- The power `2^n`. -/
def twoTo (n : Nat) : Nat := Nat.pow 2 n

/-- The power `10^n`. -/
def tenTo (n : Nat) : Nat := Nat.pow 10 n

/-- The quotient rounded to the nearest natural number, a half to the even one. -/
def roundHalfEven (num den : Nat) : Nat :=
  let q := num / den
  let r := num % den
  if 2 * r < den then q else if 2 * r > den then q + 1 else q + q % 2

/-- The pair `num · 2^(-e)`, `den` with a negative power moved below. -/
def scaleDown (num den : Nat) (e : Int) : Nat × Nat :=
  if e < 0 then (num * twoTo (-e).toNat, den) else (num, den * twoTo e.toNat)

/-- The double nearest to `num / den`, a tie to the even mantissa. -/
def ofRatio (negative : Bool) (num den : Nat) : Binary64 :=
  if num = 0 then .finite negative 0 minExponent
  else
    let guess : Int := (Nat.log2 num : Int) - (Nat.log2 den : Int) - 52
    let (a, b) := scaleDown num den guess
    let e := max minExponent (if a < twoTo 52 * b then guess - 1 else guess)
    let (a, b) := scaleDown num den e
    let m := roundHalfEven a b
    let (m, e) := if m = twoTo 53 then (twoTo 52, e + 1) else (m, e)
    if e > maxExponent then .infinite negative else .finite negative m e

/-- The double nearest to `digits · 10^exponent`. A value certainly above every double is
infinite and one certainly below half the least double is zero, whatever its exponent. -/
def ofDecimal (negative : Bool) (digits : Nat) (exponent : Int) : Binary64 :=
  let bits : Int := Nat.log2 digits
  if digits = 0 || bits / 3 + 1 + exponent < -330 then .finite negative 0 minExponent
  else if bits / 4 + exponent > 310 then .infinite negative
  else ofRatio negative (digits * tenTo exponent.toNat) (tenTo (-exponent).toNat)

/-- The ratio `mantissa · 2^exponent`. -/
def ratio (mantissa : Nat) (exponent : Int) : Nat × Nat :=
  if exponent < 0 then (mantissa, twoTo (-exponent).toNat) else (mantissa * twoTo exponent.toNat, 1)

/-- Not a number and infinity have no place in a document. -/
def isFinite : Binary64 → Bool
  | .finite .. => true
  | _ => false

/-- Either zero. -/
def isZero : Binary64 → Bool
  | .finite _ 0 _ => true
  | _ => false

/-- The whole number that is left when the fraction is cut off. -/
def truncate? : Binary64 → Option Int
  | .finite negative m e =>
    let (a, b) := ratio m e
    some (if negative then -((a / b : Nat) : Int) else ((a / b : Nat) : Int))
  | _ => none

/-- How a double compares with an integer; not a number compares with none. -/
def compareInt? (x : Binary64) (n : Int) : Option Ordering :=
  match x with
  | .finite negative m e =>
    let (a, b) := ratio m e
    let signed : Int := if negative then -(a : Int) else a
    some (compare signed (n * b))
  | .infinite negative => some (if negative then .lt else .gt)
  | .nan => none

/-- How two doubles compare; not a number compares with none. -/
def compare? : Binary64 → Binary64 → Option Ordering
  | .nan, _ => none
  | _, .nan => none
  | .infinite s, .infinite t => some (compare t.toNat s.toNat)
  | .infinite s, .finite .. => some (if s then .lt else .gt)
  | .finite .., .infinite t => some (if t then .gt else .lt)
  | .finite s m e, .finite t n f =>
    let (a, b) := ratio m e
    let (c, d) := ratio n f
    some (compare ((if s then -(a : Int) else a) * d) ((if t then -(c : Int) else c) * b))

/-- The sum of two doubles, rounded. -/
def add : Binary64 → Binary64 → Binary64
  | .finite s m e, .finite t n f =>
    let low := min e f
    let value (negative : Bool) (m : Nat) (e : Int) : Int :=
      (if negative then -1 else 1) * (m * twoTo (e - low).toNat : Nat)
    let sum := value s m e + value t n f
    if sum = 0 then .finite (s && t) 0 minExponent
    else
      let (a, b) := ratio sum.natAbs low
      ofRatio (sum < 0) a b
  | .infinite s, .infinite t => if s = t then .infinite s else .nan
  | .nan, _ => .nan
  | _, .nan => .nan
  | .infinite s, _ => .infinite s
  | _, .infinite t => .infinite t

/-- The double nearest to an integer. -/
def ofInt (n : Int) : Binary64 := ofRatio (n < 0) n.natAbs 1

/-! ## The shortest decimal that reads back -/

/-- The reals that round to `mantissa · 2^exponent`, as numerators over one denominator: the
lower end, the value, the upper end and the denominator. -/
structure Interval where
  low : Nat
  value : Nat
  high : Nat
  den : Nat
  /-- The ends themselves round to the value. -/
  closed : Bool

/-- The interval of a finite double. Below a power of two the next double is half as far. -/
def interval (mantissa : Nat) (exponent : Int) : Interval :=
  let narrow := mantissa = twoTo 52 && exponent > minExponent
  let (value, den) := ratio (4 * mantissa) exponent
  let unit := value / mantissa / 4
  let (unit, value, den) := if exponent < 0 then (1, 4 * mantissa, den) else (unit, value, den)
  { low := value - (if narrow then unit else 2 * unit), value, high := value + 2 * unit,
    den := 4 * den, closed := mantissa % 2 = 0 }

/-- The number of decimal places before the point of a positive ratio: the least `k` with
`num / den < 10^k`. Below one it is read off the inverse ratio, since `den / num ≥ 10^j` exactly
when `num / den ≤ 10^(-j)`. -/
def pointPlace (num den : Nat) : Int :=
  if num ≥ den then ((Nat.toDigits 10 (num / den)).length : Int)
  else
    let j := (Nat.toDigits 10 (den / num)).length - 1
    if num * tenTo j = den then 1 - (j : Int) else -(j : Int)

/-- The decimals `n · 10^(place - digits)` next to the value that round to it, the nearer first. -/
def candidate? (i : Interval) (place : Int) (digits : Nat) : Option Nat :=
  let shift := (digits : Int) - place
  let scale (n : Nat) : Nat := n * tenTo shift.toNat
  let den := i.den * tenTo (-shift).toNat
  let below := scale i.value / den
  let fits (n : Nat) : Bool :=
    if i.closed then scale i.low ≤ n * den && n * den ≤ scale i.high
    else scale i.low < n * den && n * den < scale i.high
  let above := below + 1
  match fits below, fits above with
  | true, true =>
    let r := scale i.value % den
    some (if 2 * r < den || (2 * r = den && below % 2 = 0) then below else above)
  | true, false => some below
  | false, true => some above
  | false, false => none

/-- The first count of digits, from `digits` on, at which a candidate exists. -/
def searchDigits (i : Interval) (place : Int) (digits : Nat) : Nat → Nat × Nat
  | 0 => (i.value / i.den, digits)
  | fuel + 1 =>
    match candidate? i place digits with
    | some n => (n, digits)
    | none => searchDigits i place (digits + 1) fuel

/-- The shortest digits of a positive finite double without final zeros, and the place of the
decimal point: the value is `0.d₁d₂… · 10^place`. -/
def shortestDigits (mantissa : Nat) (exponent : Int) : List Char × Int :=
  let i := interval mantissa exponent
  let place := pointPlace i.value i.den
  let (n, digits) := searchDigits i place 1 17
  let ds := Nat.toDigits 10 n
  let place := place + ((ds.length : Int) - (digits : Int))
  ((ds.reverse.dropWhile (· = '0')).reverse, place)

/-- Digits with a point at `place`, with an exponent of at least two digits if the point lies
more than sixteen places right or more than three left of the first digit. -/
def layout (digits : List Char) (place : Int) : List Char :=
  if place > 16 || place ≤ -4 then
    let e := place - 1
    let es := Nat.toDigits 10 e.natAbs
    let es := if es.length < 2 then '0' :: es else es
    let mantissa := match digits with
      | d :: (r :: rs) => d :: '.' :: r :: rs
      | ds => ds
    mantissa ++ 'e' :: (if e < 0 then '-' else '+') :: es
  else if place ≤ 0 then
    '0' :: '.' :: (List.replicate (-place).toNat '0' ++ digits)
  else
    let whole := digits.take place.toNat
    let whole := whole ++ List.replicate (place.toNat - whole.length) '0'
    let fraction := digits.drop place.toNat
    whole ++ '.' :: (if fraction.isEmpty then ['0'] else fraction)

/-- The written form of a finite double; that of the others is given. -/
def textWith (infinity notANumber : String) : Binary64 → String
  | .finite negative m e =>
    let digits := if m = 0 then ['0', '.', '0']
      else let (ds, place) := shortestDigits m e; layout ds place
    String.ofList (if negative then '-' :: digits else digits)
  | .infinite negative => if negative then "-" ++ infinity else infinity
  | .nan => notANumber

end Binary64

end AlertBridge
