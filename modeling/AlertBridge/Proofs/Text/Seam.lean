import AlertBridge.Proofs.Text.Replacement
import Mathlib.Data.List.Basic

/-!
# Replacement on either side of a seam

A text that is put together from two has a seam. An occurrence of a word crosses the seam if it
begins in the first part and ends in the second, so that some of its characters end the first part
and the others begin the second. Occurrences that do not cross are found in the parts alone, and
then replacement may be done in each part for itself.

The parts change when another word is replaced in them. But what a word without characters of the
replacement sees of a part from the seam reaches only up to where something was put in, and this
much of the part is as it was.

## Main definitions

* `Crosses word u w`: an occurrence of the word crosses the seam between `u` and `w`

## Main results

* `replaceChars_append`: replacement in two parts
* `Crosses.of_replaceChars`: replacement makes no occurrence cross
-/

namespace AlertBridge

/-- A word is made of some characters at the end of `u` and some at the beginning of `w`. -/
def Crosses (word u w : List Char) : Prop :=
  ∃ front back, front ≠ [] ∧ back ≠ [] ∧ word = front ++ back ∧ front <:+ u ∧ back <+: w

variable {word old new u u' w text : List Char}

/-! ## The seam -/

/-- What is in front of the first part makes no difference. -/
theorem Crosses.append_left (h : Crosses word u w) (more : List Char) :
    Crosses word (more ++ u) w := by
  obtain ⟨front, back, hfront, hback, rfl, hsuffix, hprefix⟩ := h
  exact ⟨front, back, hfront, hback, rfl, hsuffix.trans (List.suffix_append more u), hprefix⟩

/-- A word that begins in the first part and does not cross is a beginning of the first part. -/
theorem prefix_of_not_crosses (hne : u ≠ []) (h : ¬ Crosses word u w) (hword : word <+: u ++ w) :
    word <+: u := by
  obtain ⟨rest, hrest⟩ := hword
  rcases List.append_eq_append_iff.1 hrest with ⟨more, hu, -⟩ | ⟨back, hback, hw⟩
  · exact ⟨more, hu.symm⟩
  · by_cases hnil : back = []
    · rw [hback, hnil, List.append_nil]
    · exact absurd ⟨u, back, hne, hnil, hback, List.suffix_rfl, rest, hw.symm⟩ h

/-- Replacement in a text is replacement in its two parts if no occurrence crosses the seam. -/
theorem replaceChars_append (hold : old ≠ []) (h : ¬ Crosses old u w) :
    replaceChars old new (u ++ w) = replaceChars old new u ++ replaceChars old new w := by
  induction u using induction_on_occurrences hold with
  | nil => rw [replaceChars_nil_text, List.nil_append, List.nil_append]
  | hit rest ih =>
    have hrest : ¬ Crosses old rest w := fun hcrosses => h (hcrosses.append_left old)
    rw [List.append_assoc, replaceChars_append_self hold, replaceChars_append_self hold, ih hrest,
      List.append_assoc]
  | miss c cs hmiss ih =>
    have hrest : ¬ Crosses old cs w := fun hcrosses => h (hcrosses.append_left [c])
    have hmiss' : ¬ old <+: c :: (cs ++ w) := fun hstart =>
      hmiss (prefix_of_not_crosses (List.cons_ne_nil c cs) h hstart)
    rw [List.cons_append, replaceChars_cons_of_miss hmiss', replaceChars_cons_of_miss hmiss,
      ih hrest, List.cons_append]

/-! ## What is seen of a part from the seam -/

/-- If a character of what is put in is not in the result, nothing was put in. -/
theorem replaceChars_eq_self_of_not_mem (hold : old ≠ []) {n : Char} (hn : n ∈ new)
    (h : n ∉ replaceChars old new text) : replaceChars old new text = text := by
  induction text using induction_on_occurrences hold with
  | nil => exact replaceChars_nil_text old new
  | hit rest ih =>
    rw [replaceChars_append_self hold] at h
    exact absurd (List.mem_append_left _ hn) h
  | miss c cs hmiss ih =>
    rw [replaceChars_cons_of_miss hmiss] at h ⊢
    rw [ih fun hmem => h (List.mem_cons_of_mem c hmem)]

/-- A word at the end of the result stood at the end of the text if it has no character of what is
put in: it begins behind the last place where something was put in. -/
theorem suffix_of_suffix_replaceChars (hold : old ≠ []) (hnew : new ≠ [])
    (hword : ∀ c ∈ new, c ∉ word) (h : word <:+ replaceChars old new text) : word <:+ text := by
  induction text using induction_on_occurrences hold with
  | nil => rwa [replaceChars_nil_text] at h
  | hit rest ih =>
    rw [replaceChars_append_self hold] at h
    rcases List.suffix_or_suffix_of_suffix h (List.suffix_append _ _) with hin | ⟨front, hfront⟩
    · exact (ih hin).trans (List.suffix_append old rest)
    · cases front with
      | nil => exact (ih (hfront ▸ List.suffix_rfl)).trans (List.suffix_append old rest)
      | cons c cs =>
        obtain ⟨more, hmore⟩ := h
        rw [← hfront, ← List.append_assoc] at hmore
        have hnew : more ++ c :: cs = new := List.append_cancel_right hmore
        have hc : c ∈ new := hnew ▸ List.mem_append_right more List.mem_cons_self
        exact absurd (hfront ▸ List.mem_cons_self) (hword c hc)
  | miss c cs hmiss ih =>
    rw [replaceChars_cons_of_miss hmiss] at h
    rcases List.suffix_cons_iff.1 h with rfl | hin
    · obtain ⟨n, ns, rfl⟩ := List.exists_cons_of_ne_nil hnew
      have hn : n ∉ replaceChars old (n :: ns) cs := fun hmem =>
        hword n List.mem_cons_self (List.mem_cons_of_mem c hmem)
      rw [replaceChars_eq_self_of_not_mem hold List.mem_cons_self hn]
    · exact (ih hin).trans (List.suffix_cons c cs)

/-- A word that shares no character with what is put in crosses no seam that it did not cross. -/
theorem Crosses.of_replaceChars (hold : old ≠ []) (hnew : new ≠ []) (hword : ∀ c ∈ new, c ∉ word)
    (h : Crosses word (replaceChars old new u) (replaceChars old new w)) : Crosses word u w := by
  obtain ⟨front, back, hfront, hback, rfl, hsuffix, hprefix⟩ := h
  refine ⟨front, back, hfront, hback, rfl, ?_, ?_⟩
  · apply suffix_of_suffix_replaceChars hold hnew ?_ hsuffix
    intro c hc hmem
    exact hword c hc (List.mem_append_left back hmem)
  · apply prefix_of_prefix_replaceChars hold hnew ?_ hprefix
    intro c hc hmem
    exact hword c hc (List.mem_append_right front hmem)

end AlertBridge
