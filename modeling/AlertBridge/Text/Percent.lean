import AlertBridge.Text.Integer

/-!
# Percent encoding

A character outside a set of safe ones is written as its UTF-8 bytes, each as a percent sign and
two hexadecimal digits. Reading takes such triples back and leaves every other percent sign alone.
-/

namespace AlertBridge

/-- The capital hexadecimal digit of a number below sixteen. -/
def hexDigitChar (n : Nat) : Char := Char.ofNat (if n < 10 then 48 + n else 55 + n)

/-- A byte as a percent sign and two digits. -/
def percentByte (b : UInt8) : List Char :=
  ['%', hexDigitChar (b.toNat / 16), hexDigitChar (b.toNat % 16)]

/-- The bytes of a character in UTF-8. -/
def utf8Bytes (c : Char) : List UInt8 := (String.singleton c).toUTF8.toList

/-- ASCII letters, digits and the four marks that are never encoded. -/
def isUnreserved (c : Char) : Bool := c.isAlphanum || c = '_' || c = '.' || c = '-' || c = '~'

/-- The characters, each encoded unless it is unreserved or among the safe ones. -/
def percentEncode (safe : List Char) (cs : List Char) : List Char :=
  cs.flatMap fun c =>
    if isUnreserved c || safe.contains c then [c] else (utf8Bytes c).flatMap percentByte

/-- The characters of a form value: a space becomes a plus sign. -/
def formEncode (cs : List Char) : List Char :=
  cs.flatMap fun c => if c = ' ' then ['+'] else percentEncode [] [c]

/-- The bytes that a percent-encoded text denotes. -/
def percentBytes : List Char → List UInt8
  | '%' :: a :: b :: rest =>
    match hexDigit? a, hexDigit? b with
    | some x, some y => UInt8.ofNat (x * 16 + y) :: percentBytes rest
    | _, _ => utf8Bytes '%' ++ percentBytes (a :: b :: rest)
  | c :: rest => utf8Bytes c ++ percentBytes rest
  | [] => []

end AlertBridge
