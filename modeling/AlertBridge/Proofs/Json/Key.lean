import AlertBridge.Json.Basic
import Mathlib.Algebra.Order.Field.Rat
import Mathlib.Tactic.FieldSimp

/-!
# Values that name the same key

Values of different kinds may name one key: the number one, its double and true all do. What a
value names is its `KeyClass`, and two values name the same key exactly if they name the same. So
to name the same key is an equivalence, and the groups that it makes do not depend on which of their
elements is looked at.

To be equal is less than that. Not a number is equal to nothing, and so not to itself, but it is one
and the same value, and as such it names a key.

Main statements: `sameKey_iff`, `sameKey_iff_eq_or_equals`.
-/

namespace AlertBridge

/-- What a value names as a key. -/
inductive KeyClass where
  | absent
  | text (value : String)
  | number (value : ℚ)
  | infinite (negative : Bool)
  | notANumber
  /-- Arrays and objects name nothing. -/
  | nothing
  deriving DecidableEq

/-! ## Doubles by value -/

namespace Binary64

/-- The numerator of a ratio with its sign. -/
def signed (negative : Bool) (numerator : Nat) : Int :=
  if negative then -(numerator : Int) else numerator

/-- The number that `mantissa · 2^exponent` is. -/
def value (negative : Bool) (mantissa : Nat) (exponent : Int) : ℚ :=
  signed negative (ratio mantissa exponent).1 / (ratio mantissa exponent).2

theorem ratio_snd_pos (mantissa : Nat) (exponent : Int) : 0 < (ratio mantissa exponent).2 := by
  unfold ratio
  split
  · exact Nat.pow_pos (by decide)
  · exact Nat.one_pos

theorem ratio_snd_ne_zero (mantissa : Nat) (exponent : Int) :
    ((ratio mantissa exponent).2 : ℚ) ≠ 0 := by
  exact_mod_cast (ratio_snd_pos mantissa exponent).ne'

/-- What a double names as a key. -/
def keyClass : Binary64 → KeyClass
  | finite negative mantissa exponent => .number (value negative mantissa exponent)
  | infinite negative => .infinite negative
  | nan => .notANumber

theorem compareInt?_eq_iff {x : Binary64} {n : Int} :
    x.compareInt? n = some .eq ↔ x.keyClass = .number n := by
  cases x with
  | finite negative mantissa exponent =>
    have hpos := ratio_snd_ne_zero mantissa exponent
    simp only [compareInt?, keyClass, KeyClass.number.injEq, value, Option.some.injEq,
      Int.compare_eq_eq]
    rw [div_eq_iff hpos]
    exact_mod_cast Iff.rfl
  | infinite negative => cases negative <;> simp [compareInt?, keyClass]
  | nan => simp [compareInt?, keyClass]

/-- Doubles are equal by value if they name the same key, and not a number is equal to itself. -/
theorem eq_or_compare?_eq_iff {x y : Binary64} :
    (x = y ∨ x.compare? y = some .eq) ↔ x.keyClass = y.keyClass := by
  cases x with
  | finite s m e =>
    cases y with
    | finite t n f =>
      have hm := ratio_snd_ne_zero m e
      have hn := ratio_snd_ne_zero n f
      have hcompare : (finite s m e).compare? (finite t n f) = some .eq ↔
          value s m e = value t n f := by
        simp only [compare?, Option.some.injEq, Int.compare_eq_eq, value, signed]
        rw [div_eq_div_iff hm hn]
        exact_mod_cast Iff.rfl
      rw [hcompare, keyClass, keyClass, KeyClass.number.injEq, or_iff_right_iff_imp]
      rintro h
      obtain ⟨rfl, rfl, rfl⟩ := finite.inj h
      rfl
    | infinite t => cases t <;> simp [compare?, keyClass]
    | nan => simp [compare?, keyClass]
  | infinite s =>
    cases y with
    | finite t n f => cases s <;> simp [compare?, keyClass]
    | infinite t => cases s <;> cases t <;> decide
    | nan => simp [compare?, keyClass]
  | nan => cases y <;> simp [compare?, keyClass]

end Binary64

/-! ## Keys -/

namespace Json

/-- What a value names as a key. -/
def keyClass : Json → KeyClass
  | null => .absent
  | str s => .text s
  | int n => .number n
  | bool b => .number b.toInt
  | real x => x.keyClass
  | arr _ | obj _ => .nothing

theorem keyClass_real_ne_absent (x : Binary64) : x.keyClass ≠ .absent := by
  cases x <;> simp [Binary64.keyClass]

theorem keyClass_real_ne_text (x : Binary64) (s : String) : x.keyClass ≠ .text s := by
  cases x <;> simp [Binary64.keyClass]

/-- A double and an integer are the same key if the double is the integer. -/
theorem sameKey_real_iff {x : Binary64} {n : Int} :
    (x.compareInt? n = some .eq) ↔ KeyClass.number n = x.keyClass :=
  Binary64.compareInt?_eq_iff.trans eq_comm

/-- **Two keys are the same exactly if they name the same**, whatever their kinds are. -/
theorem sameKey_iff {v w : Json} (hv : v.isKey) (hw : w.isKey) :
    v.sameKey w ↔ v.keyClass = w.keyClass := by
  cases v with
  | arr | obj => cases hv
  | null => cases w <;> simp_all [sameKey, keyClass, isKey, (keyClass_real_ne_absent _).symm]
  | str s => cases w <;> simp_all [sameKey, keyClass, isKey, (keyClass_real_ne_text _ _).symm]
  | bool b =>
    cases w with
    | bool a => cases a <;> cases b <;> simp [sameKey, keyClass]
    | real y => simpa [sameKey, keyClass] using sameKey_real_iff
    | int n => simp [sameKey, keyClass, eq_comm]
    | _ => simp_all [sameKey, keyClass, isKey]
  | int n =>
    cases w with
    | real y => simpa [sameKey, keyClass] using sameKey_real_iff
    | _ => simp_all [sameKey, keyClass, isKey]
  | real x =>
    cases w <;> simp_all [sameKey, keyClass, isKey, Binary64.compareInt?_eq_iff,
      Binary64.eq_or_compare?_eq_iff, keyClass_real_ne_absent, keyClass_real_ne_text]

/-- Two values that can name keys are equal, which not a number is to nothing. -/
def equals : Json → Json → Bool
  | real x, real y => x.compare? y = some .eq
  | v, w => v.sameKey w

/-- Keys are the same if they are identical or equal. -/
theorem sameKey_iff_eq_or_equals {v w : Json} (hv : v.isKey) :
    v.sameKey w ↔ v = w ∨ v.equals w := by
  constructor
  · intro h
    cases v with
    | real x =>
      cases w with
      | real y =>
        have hreal : x = y ∨ x.compare? y = some .eq := by simpa [sameKey] using h
        exact hreal.imp (congrArg real) fun hcompare => by simp [equals, hcompare]
      | _ => exact .inr h
    | _ => exact .inr h
  · rintro (rfl | h)
    · exact (sameKey_iff hv hv).2 rfl
    · unfold equals at h
      split at h
      · simp_all [sameKey]
      · exact h

end Json

end AlertBridge
