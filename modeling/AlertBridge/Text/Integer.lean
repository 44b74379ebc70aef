import AlertBridge.Text.Blank
import AlertBridge.Text.Digit

/-!
# Written integers

An integer is written as an optional sign and decimal digits of any script, with single
underscores between digits if one likes, and blanks around the whole. A numeral of more than
4300 digits is refused.
-/

namespace AlertBridge

/-- The digits of a numeral, whose underscores each stand between two digits. -/
def numeralDigits? : List Char → Option (List Nat)
  | [] => none
  | [c] => (decimalDigit? c).map ([·])
  | c :: '_' :: rest => do return (← decimalDigit? c) :: (← numeralDigits? rest)
  | c :: rest => do return (← decimalDigit? c) :: (← numeralDigits? rest)

/-- The number that decimal digits denote, the most significant first. -/
def ofDigits (base : Nat) (digits : List Nat) : Nat :=
  digits.foldl (fun n d => n * base + d) 0

/-- The most digits a numeral may have. -/
def maxNumeralDigits : Nat := 4300

/-- The value of a numeral without a sign. -/
def readNatural? (cs : List Char) : Option Nat := do
  let digits ← numeralDigits? cs
  if digits.length ≤ maxNumeralDigits then some (ofDigits 10 digits) else none

/-- The value of a written integer. -/
def readInteger? (s : String) : Option Int :=
  match trimBoth isBlank s.toList with
  | '-' :: digits => (readNatural? digits).map (- Int.ofNat ·)
  | '+' :: digits => (readNatural? digits).map Int.ofNat
  | digits => (readNatural? digits).map Int.ofNat

/-- The number that ASCII decimal digits denote. -/
def decimalValue (cs : List Char) : Nat :=
  ofDigits 10 (cs.map fun c => c.toNat - 48)

/-- The value of a hexadecimal digit. -/
def hexDigit? (c : Char) : Option Nat :=
  if '0' ≤ c && c ≤ '9' then some (c.toNat - 48)
  else if 'a' ≤ c && c ≤ 'f' then some (c.toNat - 87)
  else if 'A' ≤ c && c ≤ 'F' then some (c.toNat - 55)
  else none

/-- The number that hexadecimal digits denote. -/
def hexValue (cs : List Char) : Nat :=
  ofDigits 16 (cs.map fun c => (hexDigit? c).getD 0)

end AlertBridge
