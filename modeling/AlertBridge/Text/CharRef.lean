import AlertBridge.Text.CharRef.Names
import AlertBridge.Text.Integer
import AlertBridge.Text.Substring

/-!
# Character references

`decodeReferences` replaces the character references of a text, each of which ends in a
semicolon: decimal with at most seven digits, hexadecimal, or a name of at most 32 characters.
A name that is not known is cut to its longest known beginning; one without such a beginning
stays as it is written.
-/

namespace AlertBridge.CharRef

/-- The characters that the bytes 0x80 to 0x9F stand for on pages that mean the Windows code
page. -/
def windowsRemap : List (Nat × Nat) := [
  (0x80, 0x20AC), (0x81, 0x81), (0x82, 0x201A), (0x83, 0x192), (0x84, 0x201E), (0x85, 0x2026),
  (0x86, 0x2020), (0x87, 0x2021), (0x88, 0x2C6), (0x89, 0x2030), (0x8A, 0x160), (0x8B, 0x2039),
  (0x8C, 0x152), (0x8D, 0x8D), (0x8E, 0x17D), (0x8F, 0x8F), (0x90, 0x90), (0x91, 0x2018),
  (0x92, 0x2019), (0x93, 0x201C), (0x94, 0x201D), (0x95, 0x2022), (0x96, 0x2013), (0x97, 0x2014),
  (0x98, 0x2DC), (0x99, 0x2122), (0x9A, 0x161), (0x9B, 0x203A), (0x9C, 0x153), (0x9D, 0x9D),
  (0x9E, 0x17E), (0x9F, 0x178), (0x0D, 0x0D)]

/-- Code points that a reference may not name: control characters and noncharacters. -/
def isForbidden (n : Nat) : Bool :=
  (0x1 ≤ n && n ≤ 0x8) || n = 0xB || (0xE ≤ n && n ≤ 0x1F) || (0x7F ≤ n && n ≤ 0x9F) ||
    (0xFDD0 ≤ n && n ≤ 0xFDEF) || n % 0x10000 = 0xFFFE || n % 0x10000 = 0xFFFF

/-- The text that the reference to a code point stands for. -/
def numeric (n : Nat) : List Char :=
  if n = 0 then [Char.ofNat 0xFFFD]
  else match windowsRemap.lookup n with
    | some m => [Char.ofNat m]
    | none =>
      if (0xD800 ≤ n && n ≤ 0xDFFF) || n > 0x10FFFF then [Char.ofNat 0xFFFD]
      else if isForbidden n then []
      else [Char.ofNat n]

/-- The text that a name stands for, the name with its semicolon if it is written with one. -/
def lookup? (name : List Char) : Option (List Char) :=
  (names.lookup (String.ofList name)).map (·.map Char.ofNat)

/-- The longest known beginning of a name, of at least two and at most `n` characters, with the
rest of the name kept. -/
def longestBeginning? (name : List Char) : Nat → Option (List Char)
  | 0 => none
  | n + 1 =>
    if n < 1 then none
    else match lookup? (name.take (n + 1)) with
      | some text => some (text ++ name.drop (n + 1))
      | none => longestBeginning? name n

/-- The text of a named reference; `name` ends in the semicolon. -/
def named (name : List Char) : List Char :=
  match lookup? name with
  | some text => text
  | none => (longestBeginning? name (name.length - 1)).getD ('&' :: name)

/-- A character that a named reference may hold. -/
def isNameChar (c : Char) : Bool :=
  !(c = '\t' || c = '\n' || c = '\x0c' || c = ' ' || c = '<' || c = '&' || c = '#' || c = ';')

/-- The longest run of characters that satisfy `p`, and the rest after the semicolon that must
follow it; the semicolon does not satisfy `p`. -/
def terminated? (p : Char → Bool) : List Char → Option (List Char × List Char)
  | [] => none
  | c :: cs =>
    if p c then (terminated? p cs).map fun (run, rest) => (c :: run, rest)
    else if c = ';' then some ([], cs) else none

theorem length_of_terminated? {p : Char → Bool} {text run rest : List Char}
    (h : terminated? p text = some (run, rest)) : rest.length < text.length := by
  induction text generalizing run rest with
  | nil => simp [terminated?] at h
  | cons c cs ih =>
    simp only [terminated?] at h
    split at h
    · obtain ⟨⟨r, s⟩, hr, he⟩ := Option.map_eq_some_iff.1 h
      have := ih hr
      simp_all
      omega
    · split at h <;> simp_all

/-- The reference at the start of the text that follows an ampersand: the text it stands for,
and the rest. -/
def read? : List Char → Option (List Char × List Char)
  | '#' :: 'x' :: text => hexadecimal? text
  | '#' :: 'X' :: text => hexadecimal? text
  | '#' :: text =>
    match terminated? Char.isDigit text with
    | some (digits, rest) =>
      if digits.isEmpty || digits.length > 7 then none
      else some (numeric (decimalValue digits), rest)
    | none => none
  | text =>
    match terminated? isNameChar text with
    | some (name, rest) =>
      if name.isEmpty || name.length > 32 then none else some (named (name ++ [';']), rest)
    | none => none
where
  /-- A hexadecimal reference after its mark. -/
  hexadecimal? (text : List Char) : Option (List Char × List Char) :=
    match terminated? (fun c => (hexDigit? c).isSome) text with
    | some (digits, rest) => if digits.isEmpty then none else some (numeric (hexValue digits), rest)
    | none => none

theorem length_of_hexadecimal? {text value rest : List Char}
    (h : read?.hexadecimal? text = some (value, rest)) : rest.length < text.length := by
  unfold read?.hexadecimal? at h
  split at h
  · have := length_of_terminated? (by assumption)
    split at h <;> simp_all
  · simp at h

theorem length_of_read? {text value rest : List Char} (h : read? text = some (value, rest)) :
    rest.length ≤ text.length := by
  unfold read? at h
  split at h
  · have := length_of_hexadecimal? h; simp only [List.length_cons]; omega
  · have := length_of_hexadecimal? h; simp only [List.length_cons]; omega
  · split at h
    · have := length_of_terminated? (by assumption)
      split at h <;> simp_all; omega
    · simp at h
  · split at h
    · have := length_of_terminated? (by assumption)
      split at h <;> simp_all; omega
    · simp at h

/-- The text with its character references replaced. -/
def decodeReferences : List Char → List Char
  | [] => []
  | c :: cs =>
    if c = '&' then
      match _h : read? cs with
      | some (value, rest) => value ++ decodeReferences rest
      | none => c :: decodeReferences cs
    else c :: decodeReferences cs
termination_by text => text.length
decreasing_by
  · have := length_of_read? _h
    simp only [List.length_cons]; omega
  all_goals simp only [List.length_cons]; omega

end AlertBridge.CharRef
