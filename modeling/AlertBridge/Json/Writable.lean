import AlertBridge.Json.Basic
import AlertBridge.Text.Integer

/-!
# Values that can be written

An integer of more than 4300 digits is not written in decimal, and so neither is a value that has
one in it.
-/

namespace AlertBridge

/-- An integer has few enough digits to be written in decimal. -/
@[irreducible] def isShortNumeral (n : Int) : Bool :=
  n.natAbs < Nat.pow 10 maxNumeralDigits

theorem isShortNumeral_iff {n : Int} :
    isShortNumeral n ↔ (Nat.toDigits 10 n.natAbs).length ≤ maxNumeralDigits := by
  have hpos : 0 < maxNumeralDigits := by decide
  unfold isShortNumeral
  generalize maxNumeralDigits = most at hpos
  rw [Nat.length_toDigits_le_iff (by decide) hpos, decide_eq_true_iff]
  rfl

/-- The least integer that is too long. -/
theorem isShortNumeral_pow : isShortNumeral (Nat.pow 10 maxNumeralDigits) = false := by
  unfold isShortNumeral
  generalize maxNumeralDigits = most
  exact decide_eq_false (Nat.lt_irrefl _)

namespace Json

mutual

/-- Every integer of the value can be written. -/
def isWritable : Json → Bool
  | int n => isShortNumeral n
  | arr items => areWritableItems items
  | obj fields => areWritableFields fields
  | _ => true

/-- Every integer of the items can be written. -/
def areWritableItems : List Json → Bool
  | [] => true
  | v :: rest => isWritable v && areWritableItems rest

/-- Every integer of the fields' values can be written. -/
def areWritableFields : List (String × Json) → Bool
  | [] => true
  | (_, v) :: rest => isWritable v && areWritableFields rest

end

theorem areWritableFields_iff {fields : List (String × Json)} :
    areWritableFields fields ↔ ∀ f ∈ fields, f.2.isWritable := by
  induction fields with
  | nil => simp [areWritableFields]
  | cons f fields ih => simp [areWritableFields, ih]

end Json

end AlertBridge
