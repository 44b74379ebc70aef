import AlertBridge.Json.Reader
import AlertBridge.Json.Written
import Mathlib.Data.List.TakeWhile

/-!
# Numbers in a document

Where a number is read, nothing but characters of numbers is taken, what comes out is a number, and
what stands behind it makes no difference. The numeral of an integer is read as a whole and gives
the integer back.

The forms of doubles are not looked at: all that is said of them is that they are texts of these
characters or one of the words.

## Main definitions

* `Delimited`: what may stand behind a value
* `Consumes`: characters of numbers were taken

## Main results

* `readScalar?_append`: what stands behind a number makes no difference
* `isNumber_of_readScalar?`: what the reading of a number gives, and what it leaves
* `readScalar?_numeral`: the numeral of an integer is read
-/

namespace AlertBridge.Json

/-- A character of a number. -/
def isNumberChar (c : Char) : Bool :=
  c.isDigit || c = '.' || c = 'e' || c = 'E' || c = '+' || c = '-'

/-- What follows a value: nothing, or what separates it from the next one or closes what it is
in. -/
def Delimited : List Char → Prop
  | [] => True
  | c :: _ => c = ',' ∨ c = ']' ∨ c = '\x7d'

/-- The value is a number. -/
def IsNumber (v : Json) : Prop := (∃ n, v = .int n) ∨ ∃ x, v = .real x

/-- Some characters of numbers stand in front. -/
def Consumes (cs rest : List Char) : Prop := ∃ used, cs = used ++ rest ∧ ∀ c ∈ used, isNumberChar c

theorem Consumes.refl (cs : List Char) : Consumes cs cs := ⟨[], rfl, by simp⟩

theorem Consumes.trans {cs ds es : List Char} (h : Consumes cs ds) (h' : Consumes ds es) :
    Consumes cs es := by
  obtain ⟨used, rfl, hused⟩ := h
  obtain ⟨used', rfl, hused'⟩ := h'
  refine ⟨used ++ used', (List.append_assoc ..).symm, fun c hc => ?_⟩
  rcases List.mem_append.1 hc with hc | hc
  · exact hused c hc
  · exact hused' c hc

theorem Consumes.cons {c : Char} (hc : isNumberChar c) {cs rest : List Char}
    (h : Consumes cs rest) : Consumes (c :: cs) rest :=
  Consumes.trans ⟨[c], rfl, by simpa using hc⟩ h

theorem isNumberChar_of_isDigit {c : Char} (h : c.isDigit) : isNumberChar c := by
  simp [isNumberChar, h]

theorem drop_length_takeWhile (p : Char → Bool) (cs : List Char) :
    cs.drop (cs.takeWhile p).length = cs.dropWhile p :=
  calc cs.drop (cs.takeWhile p).length
      = (cs.takeWhile p ++ cs.dropWhile p).drop (cs.takeWhile p).length := by
        rw [List.takeWhile_append_dropWhile]
    _ = cs.dropWhile p := List.drop_left

/-- Digits are characters of numbers. -/
theorem consumes_takeWhile (cs : List Char) :
    Consumes cs (cs.drop (cs.takeWhile Char.isDigit).length) := by
  refine ⟨cs.takeWhile Char.isDigit, ?_, fun c hc => ?_⟩
  · rw [drop_length_takeWhile, List.takeWhile_append_dropWhile]
  · exact isNumberChar_of_isDigit (List.mem_takeWhile_imp hc)

/-- The sign of an exponent, if it has one, and what follows. -/
def signed (cs : List Char) : Bool × List Char :=
  match cs with
  | '-' :: rest => (true, rest)
  | '+' :: rest => (false, rest)
  | rest => (false, rest)

theorem readExponent?_cons (c : Char) (cs : List Char) :
    readExponent? (c :: cs) =
      if c = 'e' || c = 'E' then
        let digits := (signed cs).2.takeWhile Char.isDigit
        if digits.isEmpty then none
        else some (if (signed cs).1 then -(decimalValue digits : Int) else decimalValue digits,
          (signed cs).2.drop digits.length)
      else none :=
  rfl

theorem consumes_signed (cs : List Char) : Consumes cs (signed cs).2 := by
  unfold signed
  split
  · exact .cons (by decide) (.refl _)
  · exact .cons (by decide) (.refl _)
  · exact .refl _

theorem consumes_readExponent? {cs rest : List Char} {e : Int}
    (h : readExponent? cs = some (e, rest)) : Consumes cs rest := by
  cases cs with
  | nil => cases h
  | cons c cs =>
    rw [readExponent?_cons] at h
    split at h
    · next hmark =>
      have hchar : isNumberChar c := by
        rcases (by simpa using hmark : c = 'e' ∨ c = 'E') with rfl | rfl <;> decide
      dsimp only at h
      rw [Option.ite_none_left_eq_some, Option.some.injEq, Prod.mk.injEq] at h
      obtain ⟨-, -, rfl⟩ := h
      exact .cons hchar ((consumes_signed cs).trans (consumes_takeWhile _))
    · cases h

/-- The digits of a number in front of its point. A zero is the only one. -/
def wholeDigits (cs : List Char) : List Char :=
  match cs with
  | '0' :: _ => ['0']
  | _ => cs.takeWhile Char.isDigit

/-- The digits behind a point. -/
def fractionDigits (cs : List Char) : List Char :=
  match cs with
  | '.' :: rest => rest.takeWhile Char.isDigit
  | _ => []

/-- What follows a point and its digits. -/
def afterFraction (cs : List Char) : List Char :=
  if (fractionDigits cs).isEmpty then cs else cs.drop ((fractionDigits cs).length + 1)

theorem readNumber?_eq (negative : Bool) (cs : List Char) :
    readNumber? negative cs =
      let whole := wholeDigits cs
      let behind := cs.drop whole.length
      let double (exponent : Int) : Json :=
        .real (.ofDecimal negative (decimalValue (whole ++ fractionDigits behind))
          (exponent - (fractionDigits behind).length))
      if whole.isEmpty then none
      else match readExponent? (afterFraction behind) with
        | some (e, after) => some (double e, after)
        | none =>
          if !(fractionDigits behind).isEmpty then some (double 0, afterFraction behind)
          else if whole.length > maxNumeralDigits then none
          else some (.int (if negative then -(decimalValue whole : Int) else decimalValue whole),
            afterFraction behind) :=
  rfl

theorem consumes_wholeDigits (cs : List Char) : Consumes cs (cs.drop (wholeDigits cs).length) := by
  unfold wholeDigits
  split
  · exact .cons (by decide) (.refl _)
  · exact consumes_takeWhile _

theorem consumes_afterFraction (cs : List Char) : Consumes cs (afterFraction cs) := by
  unfold afterFraction fractionDigits
  split
  · split
    · exact .refl _
    · exact .cons (by decide) (consumes_takeWhile _)
  · exact .refl _

theorem consumes_readNumber? {negative : Bool} {cs rest : List Char} {v : Json}
    (h : readNumber? negative cs = some (v, rest)) : Consumes cs rest ∧ IsNumber v := by
  have hconsumes := (consumes_wholeDigits cs).trans (consumes_afterFraction _)
  rw [readNumber?_eq] at h
  dsimp only at h
  rw [Option.ite_none_left_eq_some] at h
  obtain ⟨-, h⟩ := h
  split at h
  · next e after hexponent =>
    obtain ⟨rfl, rfl⟩ := Prod.mk.inj (Option.some.inj h)
    exact ⟨hconsumes.trans (consumes_readExponent? hexponent), .inr ⟨_, rfl⟩⟩
  · split at h
    · obtain ⟨rfl, rfl⟩ := Prod.mk.inj (Option.some.inj h)
      exact ⟨hconsumes, .inr ⟨_, rfl⟩⟩
    · rw [Option.ite_none_left_eq_some] at h
      obtain ⟨rfl, rfl⟩ := Prod.mk.inj (Option.some.inj h.2)
      exact ⟨hconsumes, .inl ⟨_, rfl⟩⟩

/-- A word starts with no character of a number, except for a sign in front of an `I`. -/
theorem head_of_mem_words : ∀ p ∈ words,
    (p.1.toList.head?.any fun c => !isNumberChar c) ∨ ['-', 'I'] <+: p.1.toList := by
  decide

/-- No word stands where a number does. -/
theorem stripStart?_word_eq_none {c : Char} {cs : List Char} (hc : isNumberChar c)
    (hnext : c = '-' → ∀ ds, cs ≠ 'I' :: ds) {w : String} {v : Json} (hword : (w, v) ∈ words) :
    stripStart? w.toList (c :: cs) = none := by
  cases hstrip : stripStart? w.toList (c :: cs) with
  | none => rfl
  | some rest =>
    have htext := stripStart?_eq_some_iff.1 hstrip
    rcases head_of_mem_words _ hword with hhead | ⟨ds, hds⟩
    · obtain ⟨d, hd, hletter⟩ := (Option.any_eq_true _ _).1 hhead
      obtain ⟨ds, hds⟩ := List.head?_eq_some_iff.1 hd
      rw [hds] at htext
      obtain ⟨rfl, -⟩ := List.cons.inj htext
      rw [hc] at hletter
      cases hletter
    · rw [← hds] at htext
      obtain ⟨rfl, hcs⟩ := List.cons.inj htext
      exact absurd hcs (hnext rfl _)

theorem readScalar?_of_number {c : Char} {cs : List Char} (hc : isNumberChar c)
    (hnext : c = '-' → ∀ ds, cs ≠ 'I' :: ds) :
    readScalar? (c :: cs) = if c = '-' then readNumber? true cs else readNumber? false (c :: cs) := by
  unfold readScalar?
  rw [List.findSome?_eq_none_iff.2]
  · dsimp only
    split
    · next heq =>
      obtain ⟨rfl, rfl⟩ := List.cons.inj heq
      rfl
    · next hnot =>
      rw [if_neg]
      rintro rfl
      exact hnot cs rfl
  · rintro ⟨w, v⟩ hword
    exact Option.map_eq_none_iff.2 (stripStart?_word_eq_none hc hnext hword)

/-! ## What stands behind a number -/

section

variable {rest : List Char}

/-- Digits end where what stands behind the number starts. -/
theorem takeWhile_isDigit_append (cs : List Char) (hrest : Delimited rest) :
    (cs ++ rest).takeWhile Char.isDigit = cs.takeWhile Char.isDigit := by
  induction cs with
  | nil =>
    cases rest with
    | nil => rfl
    | cons c rest =>
      have hc : c.isDigit = false := by rcases hrest with rfl | rfl | rfl <;> decide
      exact List.takeWhile_cons_of_neg (by simp [hc])
  | cons c cs ih => rw [List.cons_append, List.takeWhile_cons, List.takeWhile_cons, ih]

theorem drop_takeWhile_append (cs rest : List Char) :
    (cs ++ rest).drop (cs.takeWhile Char.isDigit).length =
      cs.drop (cs.takeWhile Char.isDigit).length ++ rest :=
  List.drop_append_of_le_length (List.takeWhile_sublist _).length_le

theorem wholeDigits_append (cs : List Char) (hrest : Delimited rest) :
    wholeDigits (cs ++ rest) = wholeDigits cs := by
  cases cs with
  | nil =>
    cases rest with
    | nil => rfl
    | cons c rest => rcases hrest with rfl | rfl | rfl <;> rfl
  | cons c cs =>
    rw [List.cons_append]
    unfold wholeDigits
    split
    · next heq =>
      obtain ⟨rfl, -⟩ := List.cons.inj heq
      rfl
    · next hzero =>
      rw [← List.cons_append, takeWhile_isDigit_append (c :: cs) hrest]
      split
      · next heq =>
        obtain ⟨rfl, -⟩ := List.cons.inj heq
        exact absurd rfl (hzero _)
      · rfl

theorem length_wholeDigits_le (cs : List Char) : (wholeDigits cs).length ≤ cs.length := by
  unfold wholeDigits
  split
  · simp
  · exact (List.takeWhile_sublist _).length_le

theorem fractionDigits_append (cs : List Char) (hrest : Delimited rest) :
    fractionDigits (cs ++ rest) = fractionDigits cs := by
  cases cs with
  | nil =>
    cases rest with
    | nil => rfl
    | cons c rest => rcases hrest with rfl | rfl | rfl <;> rfl
  | cons c cs =>
    rw [List.cons_append]
    unfold fractionDigits
    split
    · next heq =>
      obtain ⟨rfl, rfl⟩ := List.cons.inj heq
      exact takeWhile_isDigit_append cs hrest
    · next hpoint =>
      split
      · next heq =>
        obtain ⟨rfl, -⟩ := List.cons.inj heq
        exact absurd rfl (hpoint _)
      · rfl

theorem length_fractionDigits_lt {cs : List Char} (h : (fractionDigits cs).isEmpty = false) :
    (fractionDigits cs).length < cs.length := by
  unfold fractionDigits at h ⊢
  split at h
  · exact Nat.lt_succ_of_le (List.takeWhile_sublist _).length_le
  · cases h

theorem afterFraction_append (cs : List Char) (hrest : Delimited rest) :
    afterFraction (cs ++ rest) = afterFraction cs ++ rest := by
  rw [afterFraction, afterFraction, fractionDigits_append cs hrest]
  split
  · rfl
  · next h =>
    have hlt := length_fractionDigits_lt (by simpa using h)
    exact List.drop_append_of_le_length hlt

theorem signed_append (cs : List Char) (hrest : Delimited rest) :
    signed (cs ++ rest) = ((signed cs).1, (signed cs).2 ++ rest) := by
  cases cs with
  | nil =>
    cases rest with
    | nil => rfl
    | cons c rest => rcases hrest with rfl | rfl | rfl <;> rfl
  | cons c cs =>
    rw [List.cons_append]
    unfold signed
    split
    · next heq =>
      obtain ⟨rfl, rfl⟩ := List.cons.inj heq
      rfl
    · next heq =>
      obtain ⟨rfl, rfl⟩ := List.cons.inj heq
      rfl
    · next hminus hplus =>
      split
      · next heq =>
        obtain ⟨rfl, -⟩ := List.cons.inj heq
        exact absurd rfl (hminus _)
      · next heq =>
        obtain ⟨rfl, -⟩ := List.cons.inj heq
        exact absurd rfl (hplus _)
      · rfl

/-- What is read, with more behind it. -/
def followedBy (rest : List Char) {α : Type} (found : α × List Char) : α × List Char :=
  (found.1, found.2 ++ rest)

theorem readExponent?_append (cs : List Char) (hrest : Delimited rest) :
    readExponent? (cs ++ rest) = (readExponent? cs).map (followedBy rest) := by
  cases cs with
  | nil =>
    cases rest with
    | nil => rfl
    | cons c rest => rcases hrest with rfl | rfl | rfl <;> rfl
  | cons c cs =>
    rw [List.cons_append, readExponent?_cons, readExponent?_cons, signed_append cs hrest]
    dsimp only
    rw [takeWhile_isDigit_append _ hrest, drop_takeWhile_append]
    split
    · split <;> rfl
    · rfl

/-- The reading of a number is not touched by what stands behind it, for none of its parts is. -/
theorem readNumber?_append (negative : Bool) (cs : List Char) (hrest : Delimited rest) :
    readNumber? negative (cs ++ rest) = (readNumber? negative cs).map (followedBy rest) := by
  rw [readNumber?_eq, readNumber?_eq]
  dsimp only
  rw [wholeDigits_append cs hrest, List.drop_append_of_le_length (length_wholeDigits_le cs),
    fractionDigits_append _ hrest, afterFraction_append _ hrest, readExponent?_append _ hrest]
  split
  · rfl
  · cases readExponent? (afterFraction (cs.drop (wholeDigits cs).length)) with
    | some found => rfl
    | none =>
      dsimp only [Option.map_none]
      split
      · rfl
      · split <;> rfl

/-! ## Texts of numbers -/

/-- A text of characters of numbers is read with a sign or without. -/
theorem readScalar?_of_chars {c : Char} {cs : List Char} (hchars : ∀ d ∈ c :: cs, isNumberChar d)
    (hrest : Delimited rest) :
    readScalar? (c :: cs ++ rest) =
      if c = '-' then readNumber? true (cs ++ rest) else readNumber? false (c :: cs ++ rest) := by
  obtain ⟨hc, hcs⟩ := List.forall_mem_cons.1 hchars
  refine readScalar?_of_number hc ?_
  rintro - ds heq
  cases cs with
  | nil =>
    change rest = 'I' :: ds at heq
    rw [heq] at hrest
    rcases hrest with h | h | h <;> cases h
  | cons d cs =>
    obtain ⟨rfl, -⟩ := List.cons.inj heq
    have hletter := hcs 'I' List.mem_cons_self
    cases hletter

theorem readScalar?_of_chars_self {c : Char} {cs : List Char}
    (hchars : ∀ d ∈ c :: cs, isNumberChar d) :
    readScalar? (c :: cs) =
      if c = '-' then readNumber? true cs else readNumber? false (c :: cs) := by
  have hdelimited : Delimited [] := trivial
  simpa using readScalar?_of_chars hchars hdelimited

/-- The reading of a text of characters of numbers is not touched by what stands behind it. -/
theorem readScalar?_append {text : List Char} (hchars : ∀ c ∈ text, isNumberChar c)
    (hne : text ≠ []) (hrest : Delimited rest) :
    readScalar? (text ++ rest) = (readScalar? text).map (followedBy rest) := by
  obtain ⟨c, cs, rfl⟩ := List.exists_cons_of_ne_nil hne
  rw [readScalar?_of_chars hchars hrest, readScalar?_of_chars_self hchars]
  split
  · exact readNumber?_append true cs hrest
  · exact readNumber?_append false (c :: cs) hrest

/-- A text of characters of numbers is read as a number, and leaves some of them. -/
theorem isNumber_of_readScalar? {text left : List Char} {v : Json}
    (hchars : ∀ c ∈ text, isNumberChar c) (hne : text ≠ [])
    (h : readScalar? text = some (v, left)) : IsNumber v ∧ ∀ c ∈ left, isNumberChar c := by
  obtain ⟨c, cs, rfl⟩ := List.exists_cons_of_ne_nil hne
  rw [readScalar?_of_chars_self hchars] at h
  have hread : Consumes (c :: cs) left ∧ IsNumber v := by
    split at h
    · obtain ⟨hconsumes, hnumber⟩ := consumes_readNumber? h
      exact ⟨.cons (hchars c List.mem_cons_self) hconsumes, hnumber⟩
    · exact consumes_readNumber? h
  obtain ⟨⟨used, heq, -⟩, hnumber⟩ := hread
  exact ⟨hnumber, fun d hd => hchars d (heq ▸ List.mem_append_right _ hd)⟩

end

/-! ## Numerals -/

theorem decimalValue_toDigits (n : Nat) : decimalValue (Nat.toDigits 10 n) = n := by
  have hstep : (fun (m : Nat) (c : Char) => m * 10 + (c.toNat - 48)) =
      fun m c => 10 * m + (c.toNat - '0'.toNat) :=
    funext fun m => funext fun c => by rw [Nat.mul_comm]; rfl
  rw [decimalValue, ofDigits, List.foldl_map, hstep]
  exact Nat.ofDigitChars_ten_toDigits

theorem isDigit_of_mem_toDigits {n : Nat} {c : Char} (h : c ∈ Nat.toDigits 10 n) : c.isDigit :=
  Nat.isDigit_of_mem_toDigits (by decide) (by decide) h

/-- The first character of a numeral is a digit. -/
theorem toDigits_eq_cons (n : Nat) : ∃ c cs, Nat.toDigits 10 n = c :: cs ∧ c.isDigit := by
  obtain ⟨c, cs, heq⟩ := List.exists_cons_of_ne_nil (Nat.toDigits_ne_nil (n := n) (b := 10))
  exact ⟨c, cs, heq, isDigit_of_mem_toDigits (heq ▸ List.mem_cons_self)⟩

/-- Only the numeral of zero starts with a zero. -/
theorem toDigits_ne_zero_cons {n : Nat} (h : n ≠ 0) (cs : List Char) :
    Nat.toDigits 10 n ≠ '0' :: cs := by
  induction n using Nat.base_induction 10 (by decide) generalizing cs with
  | single m hm =>
    have hchar : ∀ m < 10, m ≠ 0 → Nat.digitChar m ≠ '0' := by decide
    rw [Nat.toDigits_of_lt_base hm]
    exact fun heq => hchar m hm h (List.cons.inj heq).1
  | digit m k hk hm ih =>
    obtain ⟨c, ds, hcons, -⟩ := toDigits_eq_cons m
    rw [← Nat.toDigits_append_toDigits (by decide) hm hk, hcons, List.cons_append]
    intro heq
    obtain ⟨rfl, -⟩ := List.cons.inj heq
    exact ih (by omega) ds hcons

/-- A numeral is all digits. -/
theorem wholeDigits_toDigits (n : Nat) : wholeDigits (Nat.toDigits 10 n) = Nat.toDigits 10 n := by
  by_cases hn : n = 0
  · rw [hn, Nat.toDigits_zero]
    rfl
  · unfold wholeDigits
    split
    · next behind heq => exact absurd heq (toDigits_ne_zero_cons hn behind)
    · exact List.takeWhile_eq_self_iff.2 fun c hc => isDigit_of_mem_toDigits hc

/-- A numeral is read unless it is too long, with a sign or without. -/
theorem readNumber?_toDigits (negative : Bool) (n : Nat) :
    readNumber? negative (Nat.toDigits 10 n) =
      if (Nat.toDigits 10 n).length > maxNumeralDigits then none
      else some (.int (if negative then -(n : Int) else n), []) := by
  have hne : (Nat.toDigits 10 n).isEmpty = false := by simp
  rw [readNumber?_eq]
  dsimp only
  rw [wholeDigits_toDigits, List.drop_length, hne, decimalValue_toDigits]
  rfl

/-- The characters of a numeral: the digits of the absolute value, maybe behind a sign. -/
theorem toList_numeral (n : Int) :
    (toString n).toList =
      if n < 0 then '-' :: Nat.toDigits 10 n.natAbs else Nat.toDigits 10 n.natAbs := by
  cases n with
  | ofNat m =>
    rw [if_neg (by simp), Int.ofNat_eq_natCast, Int.natAbs_natCast]
    exact Nat.toList_repr
  | negSucc m =>
    rw [if_pos (by simp), Int.natAbs_negSucc]
    change ("-" ++ Nat.repr (m + 1)).toList = _
    rw [String.toList_append, Nat.toList_repr]
    rfl

theorem numeral_ne_nil (n : Int) : (toString n).toList ≠ [] := by
  rw [toList_numeral]
  split
  · exact List.cons_ne_nil _ _
  · exact Nat.toDigits_ne_nil

theorem isNumberChar_of_mem_toDigits {n : Nat} {c : Char} (h : c ∈ Nat.toDigits 10 n) :
    isNumberChar c :=
  isNumberChar_of_isDigit (isDigit_of_mem_toDigits h)

theorem isNumberChar_of_mem_numeral (n : Int) : ∀ c ∈ (toString n).toList, isNumberChar c := by
  rw [toList_numeral]
  split
  · exact List.forall_mem_cons.2 ⟨by decide, fun c hc => isNumberChar_of_mem_toDigits hc⟩
  · exact fun c hc => isNumberChar_of_mem_toDigits hc

/-- The numeral of an integer is read unless it is too long. -/
theorem readScalar?_numeral (n : Int) :
    readScalar? (toString n).toList =
      if (Nat.toDigits 10 n.natAbs).length > maxNumeralDigits then none else some (.int n, []) := by
  obtain ⟨c, cs, hdigits, hc⟩ := toDigits_eq_cons n.natAbs
  rw [toList_numeral]
  split
  · next hneg =>
    have hnext : ∀ ds, Nat.toDigits 10 n.natAbs ≠ 'I' :: ds := by
      rintro ds heq
      rw [hdigits] at heq
      obtain ⟨rfl, -⟩ := List.cons.inj heq
      cases hc
    have hvalue : -(n.natAbs : Int) = n := by omega
    rw [readScalar?_of_number (by decide) (fun _ => hnext), if_pos rfl, readNumber?_toDigits,
      if_pos rfl, hvalue]
  · next hnonneg =>
    have hminus : c ≠ '-' := by
      rintro rfl
      cases hc
    have hvalue : (n.natAbs : Int) = n := by omega
    have hread := readNumber?_toDigits false n.natAbs
    rw [hdigits] at hread ⊢
    rw [readScalar?_of_number (isNumberChar_of_isDigit hc) (fun h => absurd h hminus),
      if_neg hminus, hread, hvalue]
    rfl

/-! ## Doubles -/

theorem isNumberChar_of_mem_shortestDigits {mantissa : Nat} {exponent : Int} {c : Char}
    (h : c ∈ (Binary64.shortestDigits mantissa exponent).1) : isNumberChar c := by
  unfold Binary64.shortestDigits at h
  have hmem := (List.dropWhile_sublist _).subset (List.mem_reverse.1 h)
  exact isNumberChar_of_mem_toDigits (List.mem_reverse.1 hmem)

/-- Digits are laid out with nothing but characters of numbers. -/
theorem isNumberChar_of_mem_layout {digits : List Char} (hdigits : ∀ c ∈ digits, isNumberChar c)
    (place : Int) : ∀ c ∈ Binary64.layout digits place, isNumberChar c := by
  have hzero : isNumberChar '0' := by decide
  have hpoint : isNumberChar '.' := by decide
  intro c hc
  unfold Binary64.layout at hc
  dsimp only at hc
  split at hc
  · rcases List.mem_append.1 hc with hc | hc
    · split at hc
      · next d r rs =>
        obtain ⟨hd, hrest⟩ := List.forall_mem_cons.1 hdigits
        rcases List.mem_cons.1 hc with rfl | hc
        · exact hd
        · rcases List.mem_cons.1 hc with rfl | hc
          · exact hpoint
          · exact hrest c hc
      · exact hdigits c hc
    · rcases List.mem_cons.1 hc with rfl | hc
      · decide
      · rcases List.mem_cons.1 hc with rfl | hc
        · split <;> decide
        · split at hc
          · rcases List.mem_cons.1 hc with rfl | hc
            · exact hzero
            · exact isNumberChar_of_mem_toDigits hc
          · exact isNumberChar_of_mem_toDigits hc
  · split at hc
    · rcases List.mem_cons.1 hc with rfl | hc
      · exact hzero
      · rcases List.mem_cons.1 hc with rfl | hc
        · exact hpoint
        · rcases List.mem_append.1 hc with hc | hc
          · exact List.eq_of_mem_replicate hc ▸ hzero
          · exact hdigits c hc
    · rcases List.mem_append.1 hc with hc | hc
      · rcases List.mem_append.1 hc with hc | hc
        · exact hdigits c (List.mem_of_mem_take hc)
        · exact List.eq_of_mem_replicate hc ▸ hzero
      · rcases List.mem_cons.1 hc with rfl | hc
        · exact hpoint
        · split at hc
          · exact List.mem_singleton.1 hc ▸ hzero
          · exact hdigits c (List.mem_of_mem_drop hc)

theorem layout_ne_nil (digits : List Char) (place : Int) : Binary64.layout digits place ≠ [] := by
  unfold Binary64.layout
  dsimp only
  split
  · simp
  · split <;> simp

/-- A double is written as a text of characters of numbers, or as a word. -/
theorem textWith_cases (x : Binary64) :
    (∀ c ∈ (x.textWith "Infinity" "NaN").toList, isNumberChar c) ∧
        (x.textWith "Infinity" "NaN").toList ≠ [] ∨
      (x.textWith "Infinity" "NaN", Json.real x) ∈ words := by
  cases x with
  | finite negative m e =>
    left
    have hdigits : ∀ digits : List Char, (∀ c ∈ digits, isNumberChar c) → digits ≠ [] →
        (∀ c ∈ (String.ofList (if negative then '-' :: digits else digits)).toList,
          isNumberChar c) ∧
        (String.ofList (if negative then '-' :: digits else digits)).toList ≠ [] := by
      intro digits hchars hne
      rw [String.toList_ofList]
      cases negative with
      | false => exact ⟨hchars, hne⟩
      | true => exact ⟨List.forall_mem_cons.2 ⟨by decide, hchars⟩, List.cons_ne_nil _ _⟩
    unfold Binary64.textWith
    refine hdigits _ ?_ ?_
    · split
      · exact List.all_eq_true.1 rfl
      · exact isNumberChar_of_mem_layout (fun c hc => isNumberChar_of_mem_shortestDigits hc) _
    · split
      · simp
      · exact layout_ne_nil _ _
  | infinite negative =>
    right
    cases negative <;> simp [words, Binary64.textWith]
  | nan =>
    right
    simp [words, Binary64.textWith]

end AlertBridge.Json
