import AlertBridge.Text.Substring
import Mathlib.Data.List.TakeWhile

/-!
# Cutting a text at a character

A text is cut at the first place where a character stands, or at all such places. Either way the
pieces are known by what they are rather than by how they are found: they do not have the
character, and with it between them they make up the text.

## Main definitions

* `AreParts`: the parts of a text between separators

## Main results

* `takeWhile_ne_and_dropWhile_ne_iff`: the cut at the first place
* `splitAt_eq_iff`: the cut at all places
-/

namespace AlertBridge

/-! ## The first place -/

section

variable {p : Char → Bool} {cs text rest : List Char} {close : Char}

/-- The longest beginning of characters with a property ends in front of a character without it. -/
theorem takeWhile_and_dropWhile_iff (hclose : p close = false) :
    cs.takeWhile p = text ∧ cs.dropWhile p = close :: rest ↔
      (∀ c ∈ text, p c) ∧ cs = text ++ close :: rest := by
  constructor
  · rintro ⟨rfl, hdrop⟩
    refine ⟨fun c hc => List.mem_takeWhile_imp hc, ?_⟩
    rw [← hdrop, List.takeWhile_append_dropWhile]
  · rintro ⟨htext, rfl⟩
    have hstop : ¬ p close = true := by simp [hclose]
    rw [List.takeWhile_append_of_pos htext, List.takeWhile_cons_of_neg hstop, List.append_nil,
      List.dropWhile_append_of_pos htext, List.dropWhile_cons_of_neg hstop]
    exact ⟨rfl, rfl⟩

theorem forall_ne_iff : (∀ c ∈ text, decide (c ≠ close) = true) ↔ close ∉ text := by
  constructor
  · intro h hmem
    exact of_decide_eq_true (h close hmem) rfl
  · intro h c hc
    exact decide_eq_true fun heq => h (heq ▸ hc)

/-- The characters up to the first one of a kind are those in front of it. -/
theorem takeWhile_ne_and_dropWhile_ne_iff :
    cs.takeWhile (· ≠ close) = text ∧ cs.dropWhile (· ≠ close) = close :: rest ↔
      close ∉ text ∧ cs = text ++ close :: rest := by
  rw [takeWhile_and_dropWhile_iff (by simp), forall_ne_iff]

end

/-! ## All places -/

variable {separator : Char} {text : String} {parts : List String}

/-- The parts of a text between separators. There is one even if the text is empty. -/
structure AreParts (separator : Char) (text : String) (parts : List String) : Prop where
  ne_nil : parts ≠ []
  separator_notMem : ∀ part ∈ parts, separator ∉ part.toList
  intercalate_eq : (String.singleton separator).intercalate parts = text

theorem splitChars_eq_splitOn (separator : Char) (cs : List Char) :
    splitChars separator cs = cs.splitOn separator := by
  induction cs with
  | nil => exact (List.splitOn_nil separator).symm
  | cons c cs ih =>
    obtain ⟨part, parts, hparts⟩ := List.exists_cons_of_ne_nil (List.splitOn_ne_nil separator cs)
    rw [splitChars, ih, List.splitOn_cons_eq_if_modifyHead, hparts]
    simp

theorem separator_notMem_of_mem_splitChars {cs part : List Char}
    (h : part ∈ splitChars separator cs) : separator ∉ part := by
  induction cs generalizing part with
  | nil =>
    obtain rfl := List.mem_singleton.1 h
    exact List.not_mem_nil
  | cons c cs ih =>
    rw [splitChars] at h
    split at h
    · rcases List.mem_cons.1 h with rfl | hrest
      · exact List.not_mem_nil
      · exact ih hrest
    · next hc =>
      split at h
      · obtain rfl := List.mem_singleton.1 h
        simpa using Ne.symm hc
      · next first others hparts =>
        rw [hparts] at ih
        rcases List.mem_cons.1 h with rfl | hothers
        · rw [List.mem_cons, not_or]
          exact ⟨Ne.symm hc, ih List.mem_cons_self⟩
        · exact ih (List.mem_cons_of_mem first hothers)

theorem areParts_splitAt (separator : Char) (text : String) :
    AreParts separator text (splitAt separator text) where
  ne_nil := by
    rw [splitAt, splitChars_eq_splitOn, ne_eq, List.map_eq_nil_iff]
    exact List.splitOn_ne_nil separator text.toList
  separator_notMem part hpart := by
    obtain ⟨cs, hcs, rfl⟩ := List.mem_map.1 hpart
    rw [String.toList_ofList]
    exact separator_notMem_of_mem_splitChars hcs
  intercalate_eq := by
    apply String.toList_injective
    rw [String.toList_intercalate, String.toList_singleton, splitAt, List.map_map,
      splitChars_eq_splitOn]
    simp [Function.comp_def, List.intercalate_splitOn]

/-- A text is split into its parts, and no other list of texts is that of its parts. -/
theorem splitAt_eq_iff : splitAt separator text = parts ↔ AreParts separator text parts := by
  constructor
  · rintro rfl
    exact areParts_splitAt separator text
  · rintro ⟨hne, hmem, rfl⟩
    have hchars : ∀ cs ∈ parts.map String.toList, separator ∉ cs := by simpa using hmem
    rw [splitAt, splitChars_eq_splitOn, String.toList_intercalate, String.toList_singleton,
      List.splitOn_intercalate separator hchars (by simpa using hne), List.map_map]
    simp [Function.comp_def]

end AlertBridge
