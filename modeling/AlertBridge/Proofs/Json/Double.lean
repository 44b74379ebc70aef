import AlertBridge.Json.Writable
import AlertBridge.Proofs.Binary64.Shortest
import AlertBridge.Proofs.Json.Rereading

/-!
# Doubles that are read again

The digits of a double are laid out in three forms: with an exponent, with zeros behind the point,
or with the point behind some of them. Each is read as a number as a whole, for the digits start
with none that is zero.

So the values that can be written are the values that can be read, as long as their doubles have
the form of one.

## Main definitions

* `isProper`: the doubles of a value have the form of one

## Main results

* `exists_readNumber?_layout`: digits that are laid out are read
* `isReadable_of_isProper`: a value that can be written can be read
-/

namespace AlertBridge.Json

variable {whole fraction behind digits : List Char}

/-! ## The parts of a number -/

/-- Some digits, with nothing behind them that continues them. -/
theorem takeWhile_isDigit_of_all (hdigits : ∀ c ∈ digits, c.isDigit)
    (hbehind : ∀ c ∈ behind.head?, c.isDigit = false) :
    (digits ++ behind).takeWhile Char.isDigit = digits := by
  rw [List.takeWhile_append_of_pos hdigits]
  cases behind with
  | nil => simp
  | cons c cs => simp [hbehind c rfl]

/-- What stands in front of a point: a zero, or digits that do not start with one. -/
def IsWhole (whole : List Char) : Prop :=
  whole = ['0'] ∨ ∃ c cs, whole = c :: cs ∧ c ≠ '0' ∧ ∀ d ∈ c :: cs, d.isDigit

theorem IsWhole.ne_nil (h : IsWhole whole) : whole ≠ [] := by
  rcases h with rfl | ⟨c, cs, rfl, -, -⟩ <;> exact List.cons_ne_nil _ _

theorem wholeDigits_of_isWhole (h : IsWhole whole)
    (hbehind : ∀ c ∈ behind.head?, c.isDigit = false) : wholeDigits (whole ++ behind) = whole := by
  rcases h with rfl | ⟨c, cs, rfl, hzero, hdigits⟩
  · rfl
  · rw [List.cons_append]
    unfold wholeDigits
    split
    · next heq => exact absurd (List.cons.inj heq).1 hzero
    · exact takeWhile_isDigit_of_all hdigits hbehind

/-- The mark of an exponent, its sign and its digits are read. -/
theorem exists_readExponent? {sign : Char} (hsign : sign = '-' ∨ sign = '+') (hne : digits ≠ [])
    (hdigits : ∀ c ∈ digits, c.isDigit) :
    ∃ e, readExponent? ('e' :: sign :: digits) = some (e, []) := by
  have hall : digits.takeWhile Char.isDigit = digits := List.takeWhile_eq_self_iff.2 hdigits
  have hshown : ¬ digits.isEmpty := by simpa using hne
  have hmark : ('e' = 'e' || 'e' = 'E') = true := by decide
  have hsigned : (signed (sign :: digits)).2 = digits := by
    rcases hsign with rfl | rfl <;> rfl
  rw [readExponent?_cons, if_pos hmark, hsigned, hall]
  dsimp only
  rw [if_neg hshown, List.drop_length]
  exact ⟨_, rfl⟩

/-- A whole part with an exponent is read. -/
theorem exists_readNumber?_exponent (negative : Bool) (hwhole : IsWhole whole) {after : List Char}
    {e : Int} (hexponent : readExponent? ('e' :: after) = some (e, [])) :
    ∃ x, readNumber? negative (whole ++ 'e' :: after) = some (.real x, []) := by
  have hdigits : wholeDigits (whole ++ 'e' :: after) = whole :=
    wholeDigits_of_isWhole hwhole (by simp)
  have hnone : afterFraction ('e' :: after) = 'e' :: after := rfl
  rw [readNumber?_eq]
  dsimp only
  rw [hdigits, List.drop_left, hnone, hexponent, if_neg (by simpa using hwhole.ne_nil)]
  exact ⟨_, rfl⟩

/-- A whole part with a fraction is read, maybe with an exponent. -/
theorem exists_readNumber?_fraction (negative : Bool) (hwhole : IsWhole whole)
    (hne : fraction ≠ []) (hdigits : ∀ c ∈ fraction, c.isDigit)
    (hbehind : behind = [] ∨
      ∃ after e, behind = 'e' :: after ∧ readExponent? behind = some (e, [])) :
    ∃ x, readNumber? negative (whole ++ '.' :: (fraction ++ behind)) = some (.real x, []) := by
  have hstops : ∀ c ∈ behind.head?, c.isDigit = false := by
    rcases hbehind with rfl | ⟨after, e, rfl, -⟩
    · simp
    · simp
  have hwholeDigits : wholeDigits (whole ++ '.' :: (fraction ++ behind)) = whole :=
    wholeDigits_of_isWhole hwhole (by simp)
  have hfraction : fractionDigits ('.' :: (fraction ++ behind)) = fraction :=
    takeWhile_isDigit_of_all hdigits hstops
  have hafter : afterFraction ('.' :: (fraction ++ behind)) = behind := by
    rw [afterFraction, hfraction, if_neg (by simpa using hne), List.drop_succ_cons, List.drop_left]
  rw [readNumber?_eq]
  dsimp only
  rw [hwholeDigits, List.drop_left, hfraction, hafter, if_neg (by simpa using hwhole.ne_nil)]
  rcases hbehind with rfl | ⟨after, e, rfl, hexponent⟩
  · have hshown : (!fraction.isEmpty) = true := by simpa using hne
    exact ⟨_, by rw [readExponent?, if_pos hshown]⟩
  · exact ⟨_, by rw [hexponent]⟩

/-! ## Digits that are laid out -/

/-- The digits of an exponent are at least two. -/
theorem exponentDigits (n : Nat) :
    let digits := Nat.toDigits 10 n
    let shown := if digits.length < 2 then '0' :: digits else digits
    shown ≠ [] ∧ ∀ c ∈ shown, c.isDigit := by
  intro digits shown
  have hdigits : ∀ c ∈ digits, c.isDigit := fun c hc => isDigit_of_mem_toDigits hc
  dsimp only [shown]
  split
  · exact ⟨List.cons_ne_nil _ _, List.forall_mem_cons.2 ⟨by decide, hdigits⟩⟩
  · exact ⟨Nat.toDigits_ne_nil, hdigits⟩

/-- The first digits, with zeros behind them, can stand in front of a point. -/
theorem isWhole_padded {c : Char} {cs : List Char} (hzero : c ≠ '0')
    (hdigits : ∀ d ∈ c :: cs, d.isDigit) {place : Nat} (hplace : 0 < place) :
    IsWhole ((c :: cs).take place ++
      List.replicate (place - ((c :: cs).take place).length) '0') := by
  obtain ⟨hc, hcs⟩ := List.forall_mem_cons.1 hdigits
  obtain ⟨n, rfl⟩ := Nat.exists_eq_succ_of_ne_zero hplace.ne'
  rw [List.take_succ_cons, List.cons_append]
  refine .inr ⟨c, _, rfl, hzero, List.forall_mem_cons.2 ⟨hc, ?_⟩⟩
  intro d hd
  rcases List.mem_append.1 hd with hd | hd
  · exact hcs d (List.mem_of_mem_take hd)
  · rw [List.eq_of_mem_replicate hd]
    decide

/-- A fraction without digits is shown as a zero. -/
theorem fractionOrZero (hdigits : ∀ d ∈ fraction, d.isDigit) :
    (if fraction.isEmpty then ['0'] else fraction) ≠ [] ∧
      ∀ d ∈ (if fraction.isEmpty then ['0'] else fraction), d.isDigit := by
  split
  · exact ⟨List.cons_ne_nil _ _, by simp⟩
  · next hne => exact ⟨by simpa using hne, hdigits⟩

/-- **Digits that are laid out are read** as a number, as a whole, if the first of them is not
zero. -/
theorem exists_readNumber?_layout (negative : Bool) {c : Char} {cs : List Char} (hzero : c ≠ '0')
    (hdigits : ∀ d ∈ c :: cs, d.isDigit) (place : Int) :
    ∃ x, readNumber? negative (Binary64.layout (c :: cs) place) = some (.real x, []) := by
  obtain ⟨hc, hcs⟩ := List.forall_mem_cons.1 hdigits
  have hfirst : IsWhole [c] := .inr ⟨c, [], rfl, hzero, by simpa using hc⟩
  unfold Binary64.layout
  dsimp only
  split
  · obtain ⟨hne, hall⟩ := exponentDigits (place - 1).natAbs
    have hsign : (if place - 1 < 0 then '-' else '+') = '-' ∨
        (if place - 1 < 0 then '-' else '+') = '+' := by
      split <;> simp
    obtain ⟨e, he⟩ := exists_readExponent? hsign hne hall
    cases cs with
    | nil => exact exists_readNumber?_exponent negative hfirst he
    | cons d ds =>
      exact exists_readNumber?_fraction negative hfirst (List.cons_ne_nil d ds) hcs
        (.inr ⟨_, e, rfl, he⟩)
  · split
    · have hzeros : ∀ d ∈ List.replicate (-place).toNat '0' ++ c :: cs, d.isDigit := by
        intro d hd
        rcases List.mem_append.1 hd with hd | hd
        · rw [List.eq_of_mem_replicate hd]
          decide
        · exact hdigits d hd
      have hread := exists_readNumber?_fraction negative (.inl rfl) (by simp) hzeros (.inl rfl)
      rwa [List.append_nil] at hread
    · next hfar hplace =>
      have hwhole := isWhole_padded hzero hdigits (by omega : 0 < place.toNat)
      obtain ⟨hne, hall⟩ := @fractionOrZero ((c :: cs).drop place.toNat) fun d hd =>
        hdigits d (List.mem_of_mem_drop hd)
      have hread := exists_readNumber?_fraction negative hwhole hne hall (.inl rfl)
      rwa [List.append_nil] at hread

/-! ## The digits of a double -/

/-- The shortest digits of a double do not start with a zero. -/
theorem shortestDigits_eq_cons {mantissa : Nat} (hpos : 0 < mantissa)
    (hproper : mantissa < Binary64.twoTo 53) (exponent : Int) :
    ∃ c cs, (Binary64.shortestDigits mantissa exponent).1 = c :: cs ∧ c ≠ '0' ∧
      ∀ d ∈ c :: cs, d.isDigit := by
  set i := Binary64.interval mantissa exponent with hi
  set n := (Binary64.searchDigits i (Binary64.pointPlace i.value i.den) 1 17).1 with hn
  have hfound : n ≠ 0 := by
    have hsome := Binary64.isSome_candidate? hpos hproper exponent
    exact (Binary64.pos_searchDigits (Binary64.low_pos hpos exponent)
      ⟨17, by decide, by decide, hsome⟩).ne'
  obtain ⟨c, cs, hdigits, hc⟩ := toDigits_eq_cons n
  have hzero : c ≠ '0' := fun heq => toDigits_ne_zero_cons hfound cs (heq ▸ hdigits)
  have hshown : (Binary64.shortestDigits mantissa exponent).1 =
      (Nat.toDigits 10 n).rdropWhile (· = '0') := rfl
  have hfront := List.rdropWhile_prefix (· = '0') (l := Nat.toDigits 10 n)
  have hne : (Nat.toDigits 10 n).rdropWhile (· = '0') ≠ [] := by
    intro hnil
    have hall := List.rdropWhile_eq_nil_iff.1 hnil c (hdigits ▸ List.mem_cons_self)
    exact hzero (by simpa using hall)
  obtain ⟨d, ds, hcons⟩ := List.exists_cons_of_ne_nil hne
  rw [hcons] at hfront
  obtain rfl : d = c := by
    rw [hdigits, List.cons_prefix_cons] at hfront
    exact hfront.1
  exact ⟨d, ds, hshown.trans hcons, hzero, fun x hx =>
    isDigit_of_mem_toDigits (hfront.subset hx)⟩

/-! ## Values that can be written -/

/-- A value whose line is read as a whole, by itself, is readable. -/
theorem isSome_read?_lineOf {v w : Json} (h : readValue? (lineOf v) = some (w, [])) :
    (read? (lineOf v)).isSome := by
  rw [read?, skipSpace_lineOf_self, h]
  rfl

/-- Characters of numbers are read as the number that they are. -/
theorem readValue?_of_readScalar? {text : List Char} {w : Json}
    (hchars : ∀ c ∈ text, isNumberChar c) (hne : text ≠ [])
    (hread : readScalar? text = some (w, [])) : readValue? text = some (w, []) := by
  have hdelimited : Delimited [] := trivial
  have hvalue := readValue?_append hchars hne hdelimited
  rw [List.append_nil, hread] at hvalue
  exact hvalue

/-- An integer that is short enough is read. -/
theorem isReadable_int {n : Int} (h : isShortNumeral n) : (int n).isReadable := by
  have hlength : ¬ (Nat.toDigits 10 n.natAbs).length > maxNumeralDigits :=
    Nat.not_lt.2 (isShortNumeral_iff.1 h)
  have hread : readScalar? (toString n).toList = some (.int n, []) := by
    rw [readScalar?_numeral, if_neg hlength]
  rw [isReadable]
  exact isSome_read?_lineOf
    (readValue?_of_readScalar? (isNumberChar_of_mem_numeral n) (numeral_ne_nil n) hread)

/-- A sign in front of a number is read with it. -/
theorem readScalar?_signed (negative : Bool) {digits : List Char} {w : Json}
    (hchars : ∀ c ∈ digits, isNumberChar c)
    (hread : readNumber? negative digits = some (w, [])) :
    readScalar? (if negative then '-' :: digits else digits) = some (w, []) := by
  cases negative with
  | true =>
    have hchars : ∀ c ∈ '-' :: digits, isNumberChar c :=
      List.forall_mem_cons.2 ⟨by decide, hchars⟩
    exact (readScalar?_of_chars_self hchars).trans hread
  | false =>
    cases digits with
    | nil => cases hread
    | cons c cs =>
      have hsign : c ≠ '-' := by
        rintro rfl
        cases hread
      exact (readScalar?_of_chars_self hchars).trans ((if_neg hsign).trans hread)

/-- A finite double is read. -/
theorem exists_readScalar?_finite (negative : Bool) {mantissa : Nat}
    (hproper : mantissa < Binary64.twoTo 53) (exponent : Int) :
    ∃ w, readScalar? (lineOf (real (.finite negative mantissa exponent))) = some (w, []) := by
  by_cases hm : mantissa = 0
  · rw [lineOf, written, Binary64.textWith, if_pos hm, String.toList_ofList]
    cases negative <;> exact ⟨_, rfl⟩
  · obtain ⟨c, cs, hdigits, hzero, hall⟩ := shortestDigits_eq_cons (by omega) hproper exponent
    obtain ⟨x, hread⟩ := exists_readNumber?_layout negative hzero hall
      (Binary64.shortestDigits mantissa exponent).2
    have hchars := isNumberChar_of_mem_layout (fun d hd => isNumberChar_of_isDigit (hall d hd))
      (Binary64.shortestDigits mantissa exponent).2
    rw [← hdigits] at hread hchars
    refine ⟨_, Eq.trans ?_ (readScalar?_signed negative hchars hread)⟩
    rw [lineOf, written, Binary64.textWith, if_neg hm, String.toList_ofList]

/-- A double is read. -/
theorem isReadable_real {x : Binary64} (h : x.isProper) : (real x).isReadable := by
  have hread : ∃ w, readValue? (lineOf (real x)) = some (w, []) := by
    rcases textWith_cases x with ⟨hchars, hne⟩ | hword
    · cases x with
      | infinite negative => cases negative <;> exact absurd (hchars 'I' (by decide)) (by decide)
      | nan => exact absurd (hchars 'N' (by decide)) (by decide)
      | finite negative mantissa exponent =>
        obtain ⟨w, hw⟩ := exists_readScalar?_finite negative (of_decide_eq_true h) exponent
        exact ⟨w, readValue?_of_readScalar? hchars hne hw⟩
    · have hvalue := readValue?_word hword []
      rw [List.append_nil] at hvalue
      exact ⟨_, hvalue⟩
  obtain ⟨w, hw⟩ := hread
  rw [isReadable]
  exact isSome_read?_lineOf hw

mutual

/-- The doubles of the value have the form of one. -/
def isProper : Json → Bool
  | real x => x.isProper
  | arr items => areProperItems items
  | obj fields => areProperFields fields
  | _ => true

/-- The doubles of the items have the form of one. -/
def areProperItems : List Json → Bool
  | [] => true
  | v :: rest => isProper v && areProperItems rest

/-- The doubles of the fields' values have the form of one. -/
def areProperFields : List (String × Json) → Bool
  | [] => true
  | (_, v) :: rest => isProper v && areProperFields rest

end

mutual

/-- **A value that can be written can be read.** -/
theorem isReadable_of_isProper : (v : Json) → v.isWritable → v.isProper → v.isReadable
  | null | bool _ | str _ => fun _ _ => rfl
  | int n => by
    rw [isWritable]
    exact fun hwritable _ => isReadable_int hwritable
  | real x => by
    rw [isProper]
    exact fun _ hproper => isReadable_real hproper
  | arr items => by
    rw [isWritable, isProper, isReadable]
    exact areReadableItems_of_areProper items
  | obj fields => by
    rw [isWritable, isProper, isReadable]
    exact areReadableFields_of_areProper fields

theorem areReadableItems_of_areProper : (items : List Json) → areWritableItems items →
    areProperItems items → areReadableItems items
  | [] => fun _ _ => rfl
  | v :: rest => by
    intro hwritable hproper
    rw [areWritableItems, Bool.and_eq_true] at hwritable
    rw [areProperItems, Bool.and_eq_true] at hproper
    rw [areReadableItems, isReadable_of_isProper v hwritable.1 hproper.1,
      areReadableItems_of_areProper rest hwritable.2 hproper.2]
    rfl

theorem areReadableFields_of_areProper : (fields : List (String × Json)) →
    areWritableFields fields → areProperFields fields → areReadableFields fields
  | [] => fun _ _ => rfl
  | (_, v) :: rest => by
    intro hwritable hproper
    rw [areWritableFields, Bool.and_eq_true] at hwritable
    rw [areProperFields, Bool.and_eq_true] at hproper
    rw [areReadableFields, isReadable_of_isProper v hwritable.1 hproper.1,
      areReadableFields_of_areProper rest hwritable.2 hproper.2]
    rfl

end

end AlertBridge.Json
