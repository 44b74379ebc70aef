import AlertBridge.Binary64
import Mathlib.Algebra.Order.Ring.Nat
import Mathlib.Data.List.DropRight
import Mathlib.Tactic.Linarith
import Mathlib.Tactic.Ring

/-!
# Seventeen digits are enough

The shortest decimal of a double is looked for among decimals with one digit, with two, and so on up
to seventeen. The reals that round to a double reach over at least three quarters of the distance to
its neighbours, and decimals of seventeen digits lie closer together than that. So one of them is
found at the latest there, and since zero is not among these reals, what is found is not zero.

## Main definitions

* `isProper`: the form of a double

## Main results

* `isSome_candidate?`: there is a decimal of seventeen digits
* `pos_searchDigits`: the decimal that is found is not zero
-/

namespace AlertBridge.Binary64

/-- A finite double has a mantissa below `2^53`. -/
def isProper : Binary64 → Bool
  | .finite _ mantissa _ => mantissa < twoTo 53
  | _ => true

variable {mantissa : Nat} {exponent : Int}

theorem tenTo_pos (n : Nat) : 0 < tenTo n := Nat.pow_pos (by decide)

theorem tenTo_add (m n : Nat) : tenTo (m + n) = tenTo m * tenTo n := Nat.pow_add 10 m n

/-! ## The reals around a double -/

/-- A quarter of the distance to the next double, over the denominator of the interval. -/
def quarter (exponent : Int) : Nat := twoTo exponent.toNat

theorem quarter_pos (exponent : Int) : 0 < quarter exponent := Nat.pow_pos (by decide)

/-- A positive double is at least as far from zero as from the next double. -/
theorem four_quarters_le (hpos : 0 < mantissa) (exponent : Int) :
    4 * quarter exponent ≤ 4 * mantissa * quarter exponent :=
  Nat.mul_le_mul_right _ (by omega)

/-- Below a power of two the next double is half as far. -/
def isNarrow (mantissa : Nat) (exponent : Int) : Bool :=
  mantissa = twoTo 52 && exponent > minExponent

/-- The interval of a positive double reaches two quarters up and one or two quarters down. -/
theorem interval_eq (hpos : 0 < mantissa) (exponent : Int) :
    interval mantissa exponent =
      { low := 4 * mantissa * quarter exponent -
          (if isNarrow mantissa exponent then quarter exponent else 2 * quarter exponent)
        value := 4 * mantissa * quarter exponent
        high := 4 * mantissa * quarter exponent + 2 * quarter exponent
        den := 4 * twoTo (-exponent).toNat
        closed := mantissa % 2 = 0 } := by
  by_cases hexponent : exponent < 0
  · have hquarter : quarter exponent = 1 := by
      rw [quarter, Int.toNat_of_nonpos (by omega)]
      rfl
    simp [interval, ratio, hexponent, hquarter, isNarrow]
  · have hdiv : 4 * mantissa * twoTo exponent.toNat / mantissa / 4 = twoTo exponent.toNat := by
      rw [Nat.div_div_eq_div_mul, Nat.mul_comm mantissa 4]
      exact Nat.mul_div_cancel_left _ (by omega)
    have hden : twoTo (-exponent).toNat = 1 := by
      rw [Int.toNat_of_nonpos (by omega)]
      rfl
    simp [interval, ratio, hexponent, hdiv, hden, quarter, isNarrow]

/-- The value lies between the ends, and the lower one above zero. -/
theorem low_lt_value_lt_high (hpos : 0 < mantissa) (exponent : Int) :
    (interval mantissa exponent).low < (interval mantissa exponent).value ∧
      (interval mantissa exponent).value < (interval mantissa exponent).high ∧
      0 < (interval mantissa exponent).den := by
  have hquarter := quarter_pos exponent
  have hvalue : 0 < 4 * mantissa * quarter exponent := Nat.mul_pos (by omega) hquarter
  rw [interval_eq hpos]
  refine ⟨?_, ?_, Nat.mul_pos (by decide) (Nat.pow_pos (by decide))⟩
  · dsimp only
    split <;> omega
  · dsimp only
    omega

theorem low_pos (hpos : 0 < mantissa) (exponent : Int) : 0 < (interval mantissa exponent).low := by
  have hquarter := quarter_pos exponent
  have hle := four_quarters_le hpos exponent
  rw [interval_eq hpos]
  dsimp only
  split <;> omega

/-- The interval is longer than `10^(-16)` of the value. -/
theorem value_lt_width (hpos : 0 < mantissa) (hproper : mantissa < twoTo 53) (exponent : Int) :
    (interval mantissa exponent).value <
      tenTo 16 * ((interval mantissa exponent).high - (interval mantissa exponent).low) := by
  have hquarter := quarter_pos exponent
  have hle := four_quarters_le hpos exponent
  have hbound : 4 * mantissa * quarter exponent <
      tenTo 16 * (if isNarrow mantissa exponent then 3 * quarter exponent
        else 4 * quarter exponent) := by
    have hfactor : 4 * mantissa < tenTo 16 * (if isNarrow mantissa exponent then 3 else 4) := by
      split
      · next hnarrow =>
        obtain ⟨rfl, -⟩ : mantissa = twoTo 52 ∧ exponent > minExponent := by
          simpa [isNarrow] using hnarrow
        decide
      · have hlt : twoTo 53 < tenTo 16 := by decide
        omega
    calc 4 * mantissa * quarter exponent
        < tenTo 16 * (if isNarrow mantissa exponent then 3 else 4) * quarter exponent :=
          Nat.mul_lt_mul_of_pos_right hfactor hquarter
      _ = tenTo 16 * (if isNarrow mantissa exponent then 3 * quarter exponent
            else 4 * quarter exponent) := by
          rw [Nat.mul_assoc, ite_mul]
  rw [interval_eq hpos]
  refine hbound.trans_le (Nat.mul_le_mul_left _ ?_)
  dsimp only
  split <;> omega

/-! ## The place of the point -/

theorem tenTo_length_toDigits {n : Nat} (h : n ≠ 0) :
    tenTo ((Nat.toDigits 10 n).length - 1) ≤ n ∧ n < tenTo (Nat.toDigits 10 n).length := by
  have hlength := Nat.length_toDigits_pos (b := 10) (n := n)
  refine ⟨?_, (Nat.length_toDigits_le_iff (by decide) hlength).1 le_rfl⟩
  by_contra hlt
  have hone : (Nat.toDigits 10 n).length - 1 ≠ 0 := by
    intro hzero
    rw [hzero] at hlt
    exact hlt (Nat.one_le_iff_ne_zero.2 h)
  have hbelow : n < 10 ^ ((Nat.toDigits 10 n).length - 1) := by simpa [tenTo] using hlt
  have hle := (Nat.length_toDigits_le_iff (b := 10) (by decide) (by omega)).2 hbelow
  omega

/-- A ratio is at least the power of ten in front of the place of its point. -/
theorem le_of_pointPlace {num den : Nat} (hnum : 0 < num) (hden : 0 < den) :
    den * tenTo (pointPlace num den - 1).toNat ≤ num * tenTo (1 - pointPlace num den).toNat := by
  unfold pointPlace
  split
  · next hge =>
    have hquotient : num / den ≠ 0 := (Nat.div_pos hge hden).ne'
    have hlength := Nat.length_toDigits_pos (b := 10) (n := num / den)
    have hplace : (1 - ((Nat.toDigits 10 (num / den)).length : Int)).toNat = 0 := by omega
    have hexponent : (((Nat.toDigits 10 (num / den)).length : Int) - 1).toNat =
        (Nat.toDigits 10 (num / den)).length - 1 := by omega
    rw [hplace, hexponent]
    calc den * tenTo ((Nat.toDigits 10 (num / den)).length - 1)
        ≤ den * (num / den) := Nat.mul_le_mul_left _ (tenTo_length_toDigits hquotient).1
      _ ≤ num := Nat.mul_div_le num den
      _ = num * tenTo 0 := (Nat.mul_one num).symm
  · next hlt =>
    have hquotient : den / num ≠ 0 := (Nat.div_pos (by omega) hnum).ne'
    have hlength := Nat.length_toDigits_pos (b := 10) (n := den / num)
    dsimp only
    split
    · next heq =>
      have hplace : (1 - (1 - (((Nat.toDigits 10 (den / num)).length - 1 : Nat) : Int))).toNat =
          (Nat.toDigits 10 (den / num)).length - 1 := by omega
      have hexponent :
          (1 - (((Nat.toDigits 10 (den / num)).length - 1 : Nat) : Int) - 1).toNat = 0 := by
        omega
      rw [hplace, hexponent, heq]
      exact (Nat.mul_one den).le
    · have hplace : (1 - -(((Nat.toDigits 10 (den / num)).length - 1 : Nat) : Int)).toNat =
          (Nat.toDigits 10 (den / num)).length := by omega
      have hexponent :
          (-(((Nat.toDigits 10 (den / num)).length - 1 : Nat) : Int) - 1).toNat = 0 := by
        omega
      rw [hplace, hexponent]
      have hbelow := (tenTo_length_toDigits hquotient).2
      have hden : den < num * (den / num + 1) := Nat.lt_mul_div_succ den hnum
      calc den * tenTo 0 = den := Nat.mul_one den
        _ ≤ num * (den / num + 1) := hden.le
        _ ≤ num * tenTo (Nat.toDigits 10 (den / num)).length := Nat.mul_le_mul_left _ hbelow

/-! ## Candidates -/

/-- The numerator of a real over the denominator of decimals with a number of digits. -/
def scaled (place : Int) (digits num : Nat) : Nat := num * tenTo ((digits : Int) - place).toNat

/-- The denominator of decimals with a number of digits. -/
def scaledDen (i : Interval) (place : Int) (digits : Nat) : Nat :=
  i.den * tenTo (-((digits : Int) - place)).toNat

/-- A decimal is in the interval. -/
def fits (i : Interval) (place : Int) (digits n : Nat) : Bool :=
  if i.closed then scaled place digits i.low ≤ n * scaledDen i place digits &&
    n * scaledDen i place digits ≤ scaled place digits i.high
  else scaled place digits i.low < n * scaledDen i place digits &&
    n * scaledDen i place digits < scaled place digits i.high

/-- The decimal below the value. -/
def below (i : Interval) (place : Int) (digits : Nat) : Nat :=
  scaled place digits i.value / scaledDen i place digits

theorem candidate?_eq (i : Interval) (place : Int) (digits : Nat) :
    candidate? i place digits =
      match fits i place digits (below i place digits),
        fits i place digits (below i place digits + 1) with
      | true, true =>
        let r := scaled place digits i.value % scaledDen i place digits
        some (if 2 * r < scaledDen i place digits ||
          (2 * r = scaledDen i place digits && below i place digits % 2 = 0) then
            below i place digits else below i place digits + 1)
      | true, false => some (below i place digits)
      | false, true => some (below i place digits + 1)
      | false, false => none :=
  rfl

variable {i : Interval} {place : Int} {digits n : Nat}

theorem le_of_fits (h : fits i place digits n) :
    scaled place digits i.low ≤ n * scaledDen i place digits := by
  unfold fits at h
  split at h
  · simp only [Bool.and_eq_true, decide_eq_true_eq] at h
    exact h.1
  · simp only [Bool.and_eq_true, decide_eq_true_eq] at h
    exact h.1.le

theorem le_or_le_of_not_fits (h : fits i place digits n = false) :
    n * scaledDen i place digits ≤ scaled place digits i.low ∨
      scaled place digits i.high ≤ n * scaledDen i place digits := by
  by_contra hinside
  simp only [not_or, not_le] at hinside
  unfold fits at h
  split at h
  · simp [hinside.1.le, hinside.2.le] at h
  · simp [hinside.1, hinside.2] at h

/-- A decimal in the interval is not zero. -/
theorem pos_of_fits (hlow : 0 < i.low) (h : fits i place digits n) : 0 < n := by
  refine Nat.pos_of_ne_zero ?_
  rintro rfl
  have hle := le_of_fits h
  have hpos : 0 < scaled place digits i.low := Nat.mul_pos hlow (tenTo_pos _)
  omega

/-- What is found is not zero. -/
theorem pos_of_candidate? (hlow : 0 < i.low) (h : candidate? i place digits = some n) : 0 < n := by
  rw [candidate?_eq] at h
  split at h
  · next hbelow _ =>
    obtain rfl := Option.some.inj h
    split
    · exact pos_of_fits hlow hbelow
    · exact Nat.succ_pos _
  · next hbelow _ =>
    obtain rfl := Option.some.inj h
    exact pos_of_fits hlow hbelow
  · obtain rfl := Option.some.inj h
    exact Nat.succ_pos _
  · cases h

/-- One of the decimals next to the value is in the interval if that is longer than the distance
between decimals. -/
theorem isSome_candidate?_of_lt (hlow : i.low < i.value) (hhigh : i.value < i.high)
    (hden : 0 < i.den)
    (hwidth : scaledDen i place digits < scaled place digits (i.high - i.low)) :
    (candidate? i place digits).isSome := by
  have hpower := tenTo_pos ((digits : Int) - place).toNat
  have hdistance : 0 < scaledDen i place digits := Nat.mul_pos hden (tenTo_pos _)
  have hlow : scaled place digits i.low < scaled place digits i.value :=
    Nat.mul_lt_mul_of_pos_right hlow hpower
  have hhigh : scaled place digits i.value < scaled place digits i.high :=
    Nat.mul_lt_mul_of_pos_right hhigh hpower
  have hsub : scaled place digits (i.high - i.low) =
      scaled place digits i.high - scaled place digits i.low := Nat.sub_mul ..
  have hbelow : below i place digits * scaledDen i place digits ≤ scaled place digits i.value :=
    Nat.div_mul_le_self _ _
  have habove : scaled place digits i.value <
      (below i place digits + 1) * scaledDen i place digits := by
    rw [Nat.mul_comm]
    exact Nat.lt_mul_div_succ _ hdistance
  have hnext : (below i place digits + 1) * scaledDen i place digits =
      below i place digits * scaledDen i place digits + scaledDen i place digits :=
    Nat.succ_mul ..
  rw [candidate?_eq]
  split
  · rfl
  · rfl
  · rfl
  · next hmiss hmiss' =>
    have hleft := (le_or_le_of_not_fits hmiss).resolve_right (by omega)
    have hright := (le_or_le_of_not_fits hmiss').resolve_left (by omega)
    omega

/-- With seventeen digits, decimals lie closer together than `10^(-16)` of the value. Both sides are
compared after they are multiplied by `10^16` and by the power of ten in front of the point. -/
theorem isSome_candidate?_seventeen (hlow : i.low < i.value) (hhigh : i.value < i.high)
    (hden : 0 < i.den) (hwidth : i.value < tenTo 16 * (i.high - i.low)) :
    (candidate? i (pointPlace i.value i.den) 17).isSome := by
  have hplace := le_of_pointPlace (by omega : 0 < i.value) hden
  generalize pointPlace i.value i.den = place at *
  have hpowers : tenTo (-(((17 : Nat) : Int) - place)).toNat * tenTo 16 * tenTo (1 - place).toNat =
      tenTo (((17 : Nat) : Int) - place).toNat * tenTo (place - 1).toNat := by
    rw [← tenTo_add, ← tenTo_add, ← tenTo_add]
    congr 1
    omega
  have hfactor : 0 < tenTo 16 * tenTo (1 - place).toNat := Nat.mul_pos (tenTo_pos _) (tenTo_pos _)
  refine isSome_candidate?_of_lt hlow hhigh hden (lt_of_mul_lt_mul_right ?_ hfactor.le)
  calc scaledDen i place 17 * (tenTo 16 * tenTo (1 - place).toNat)
      = i.den *
          (tenTo (-(((17 : Nat) : Int) - place)).toNat * tenTo 16 * tenTo (1 - place).toNat) := by
        rw [scaledDen]
        ring
    _ = tenTo (((17 : Nat) : Int) - place).toNat * (i.den * tenTo (place - 1).toNat) := by
        rw [hpowers]
        ring
    _ ≤ tenTo (((17 : Nat) : Int) - place).toNat * (i.value * tenTo (1 - place).toNat) :=
        Nat.mul_le_mul_left _ hplace
    _ < tenTo (((17 : Nat) : Int) - place).toNat *
          (tenTo 16 * (i.high - i.low) * tenTo (1 - place).toNat) :=
        Nat.mul_lt_mul_of_pos_left (Nat.mul_lt_mul_of_pos_right hwidth (tenTo_pos _)) (tenTo_pos _)
    _ = scaled place 17 (i.high - i.low) * (tenTo 16 * tenTo (1 - place).toNat) := by
        rw [scaled]
        ring

/-- **Seventeen digits are enough.** -/
theorem isSome_candidate? (hpos : 0 < mantissa) (hproper : mantissa < twoTo 53) (exponent : Int) :
    (candidate? (interval mantissa exponent)
      (pointPlace (interval mantissa exponent).value (interval mantissa exponent).den)
      17).isSome := by
  obtain ⟨hlow, hhigh, hden⟩ := low_lt_value_lt_high hpos exponent
  exact isSome_candidate?_seventeen hlow hhigh hden (value_lt_width hpos hproper exponent)

/-- The decimal that is found is not zero, if one is found in time. -/
theorem pos_searchDigits (hlow : 0 < i.low) {fuel : Nat}
    (h : ∃ k, digits ≤ k ∧ k < digits + fuel ∧ (candidate? i place k).isSome) :
    0 < (searchDigits i place digits fuel).1 := by
  induction fuel generalizing digits with
  | zero =>
    obtain ⟨k, hle, hlt, -⟩ := h
    omega
  | succ fuel ih =>
    rw [searchDigits]
    split
    · next n hn => exact pos_of_candidate? hlow hn
    · next hnone =>
      obtain ⟨k, hle, hlt, hsome⟩ := h
      have hne : digits ≠ k := by
        rintro rfl
        rw [hnone] at hsome
        cases hsome
      exact ih ⟨k, by omega, by omega, hsome⟩

end AlertBridge.Binary64
