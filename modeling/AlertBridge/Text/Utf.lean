/-!
# Text from bytes

Reading UTF-8, UTF-16 and UTF-32. `decodeUtf8Lossy` puts one replacement character for each
longest beginning of a character that is cut short and for each byte that begins none;
`detectEncoding` tells the encoding of a JSON document by its byte order mark or by where its
first bytes are zero. A surrogate without its partner reads as the replacement character.
-/

namespace AlertBridge

/-- The replacement character. -/
def replacement : Char := Char.ofNat 0xFFFD

/-- What the first byte of a character tells: the number of bytes that follow, the bits it
contributes, and the bounds of the second byte. -/
def utf8Lead? (b : Nat) : Option (Nat × Nat × Nat × Nat) :=
  if b < 0x80 then some (0, b, 0, 0)
  else if 0xC2 ≤ b && b ≤ 0xDF then some (1, b - 0xC0, 0x80, 0xBF)
  else if b = 0xE0 then some (2, 0, 0xA0, 0xBF)
  else if b = 0xED then some (2, 0xD, 0x80, 0x9F)
  else if 0xE1 ≤ b && b ≤ 0xEF then some (2, b - 0xE0, 0x80, 0xBF)
  else if b = 0xF0 then some (3, 0, 0x90, 0xBF)
  else if 0xF1 ≤ b && b ≤ 0xF3 then some (3, b - 0xF0, 0x80, 0xBF)
  else if b = 0xF4 then some (3, 4, 0x80, 0x8F)
  else none

/-- The continuation bytes of a character: the code point if all are there, and how many of them
are good. -/
def utf8Tail (low high : Nat) (value : Nat) : Nat → List UInt8 → Option Nat × Nat
  | 0, _ => (some value, 0)
  | _ + 1, [] => (none, 0)
  | n + 1, b :: rest =>
    if low ≤ b.toNat && b.toNat ≤ high then
      let (found, used) := utf8Tail 0x80 0xBF (value * 64 + (b.toNat - 0x80)) n rest
      (found, used + 1)
    else (none, 0)

/-- The first character of bytes in UTF-8, none if they are malformed, and how many bytes after
the first it takes. -/
def utf8First (b : UInt8) (rest : List UInt8) : Option Char × Nat :=
  match utf8Lead? b.toNat with
  | none => (none, 0)
  | some (n, value, low, high) =>
    let (found, used) := utf8Tail low high value n rest
    (found.map Char.ofNat, used)

/-- The text of bytes in UTF-8, with replacement characters for what is malformed. -/
def decodeUtf8Lossy : List UInt8 → List Char
  | [] => []
  | b :: rest =>
    let (found, used) := utf8First b rest
    found.getD replacement :: decodeUtf8Lossy (rest.drop used)
termination_by bytes => bytes.length
decreasing_by simp only [List.length_cons, List.length_drop]; omega

/-- The text of bytes in UTF-8, none if they are malformed. -/
def decodeUtf8? : List UInt8 → Option (List Char)
  | [] => some []
  | b :: rest =>
    match utf8First b rest with
    | (some c, used) => (decodeUtf8? (rest.drop used)).map (c :: ·)
    | (none, _) => none
termination_by bytes => bytes.length
decreasing_by simp only [List.length_cons, List.length_drop]; omega

/-- The numbers that consecutive groups of bytes denote, none if the last group is cut short. -/
def groupBytes? (little : Bool) : Nat → List UInt8 → Option (List Nat)
  | 2, a :: b :: rest =>
    (groupBytes? little 2 rest).map
      ((if little then a.toNat + 256 * b.toNat else 256 * a.toNat + b.toNat) :: ·)
  | 4, a :: b :: c :: d :: rest =>
    let n := if little then a.toNat + 256 * (b.toNat + 256 * (c.toNat + 256 * d.toNat))
      else d.toNat + 256 * (c.toNat + 256 * (b.toNat + 256 * a.toNat))
    (groupBytes? little 4 rest).map (n :: ·)
  | _, [] => some []
  | _, _ => none

/-- The text of units of 16 bits. -/
def ofUnits16 : List Nat → List Char
  | [] => []
  | [n] => [if 0xD800 ≤ n && n ≤ 0xDFFF then replacement else Char.ofNat n]
  | h :: l :: rest =>
    if 0xD800 ≤ h && h ≤ 0xDBFF && 0xDC00 ≤ l && l ≤ 0xDFFF then
      Char.ofNat (0x10000 + (h - 0xD800) * 0x400 + (l - 0xDC00)) :: ofUnits16 rest
    else (if 0xD800 ≤ h && h ≤ 0xDFFF then replacement else Char.ofNat h) :: ofUnits16 (l :: rest)

/-- The text of code points, none if one is beyond the last. -/
def ofCodePoints? (ns : List Nat) : Option (List Char) :=
  ns.mapM fun n =>
    if n > 0x10FFFF then none
    else some (if 0xD800 ≤ n && n ≤ 0xDFFF then replacement else Char.ofNat n)

/-- An encoding of a document, and the length of the byte order mark in front. -/
inductive Encoding where
  | utf8 (mark : Nat)
  | utf16 (little : Bool) (mark : Nat)
  | utf32 (little : Bool) (mark : Nat)

/-- The encoding of a JSON document, told by its byte order mark, or by the zeros among its first
bytes, since its first two characters are ASCII. -/
def detectEncoding (bytes : List UInt8) : Encoding :=
  match bytes with
  | 0x00 :: 0x00 :: 0xFE :: 0xFF :: _ => .utf32 false 4
  | 0xFF :: 0xFE :: 0x00 :: 0x00 :: _ => .utf32 true 4
  | 0xFE :: 0xFF :: _ => .utf16 false 2
  | 0xFF :: 0xFE :: _ => .utf16 true 2
  | 0xEF :: 0xBB :: 0xBF :: _ => .utf8 3
  | a :: b :: c :: d :: _ =>
    if a = 0 then (if b = 0 then .utf32 false 0 else .utf16 false 0)
    else if b = 0 then (if c = 0 && d = 0 then .utf32 true 0 else .utf16 true 0)
    else .utf8 0
  | [a, b] => if a = 0 then .utf16 false 0 else if b = 0 then .utf16 true 0 else .utf8 0
  | _ => .utf8 0

/-- The text of a JSON document. -/
def decodeDocument? (bytes : List UInt8) : Option (List Char) :=
  match detectEncoding bytes with
  | .utf8 mark => decodeUtf8? (bytes.drop mark)
  | .utf16 little mark => (groupBytes? little 2 (bytes.drop mark)).map ofUnits16
  | .utf32 little mark => (groupBytes? little 4 (bytes.drop mark)).bind ofCodePoints?

end AlertBridge
