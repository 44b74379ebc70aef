import AlertBridge.Text.Substring
import Mathlib.Data.List.Infix

/-!
# What replacement leaves and makes

A text is either empty, or it starts with the pattern, or it starts with a character at which no
occurrence begins. `replaceChars` takes these three cases apart, and `induction_on_occurrences` is
the induction that goes with them. `induction_on_words` is the same for more than one pattern.

If a word has no character of the replacement, it can only stand in the result where it stood in
the text, since the replacement is not empty and keeps apart what is around it. So a replacement
makes no occurrence of such a word (`infix_of_infix_replaceChars`), and none of the pattern is
left if the pattern is such a word (`not_infix_replaceChars`).
-/

namespace AlertBridge

/-! ## Occurrences -/

theorem stripStart?_eq_none_iff {pattern text : List Char} :
    stripStart? pattern text = none ↔ ¬ pattern <+: text := by
  rw [Option.eq_none_iff_forall_not_mem, List.prefix_iff_exists_append_eq]
  simp [stripStart?_eq_some_iff, eq_comm]

/-- A text is empty, or starts with one of some words, or with a character at which none of them
begins. -/
theorem induction_on_words {words : List (List Char)} (hne : ∀ word ∈ words, word ≠ [])
    {motive : List Char → Prop} (nil : motive [])
    (hit : ∀ word ∈ words, ∀ rest, motive rest → motive (word ++ rest))
    (miss : ∀ c cs, (∀ word ∈ words, ¬ word <+: c :: cs) → motive cs → motive (c :: cs))
    (text : List Char) : motive text := by
  -- A word is left behind as a whole, so the induction is on the length.
  induction h : text.length using Nat.strongRecOn generalizing text with
  | ind n ih =>
    subst h
    match text with
    | [] => exact nil
    | c :: cs =>
      by_cases hstart : ∃ word ∈ words, word <+: c :: cs
      · obtain ⟨word, hword, rest, hrest⟩ := hstart
        have hlength : rest.length < (c :: cs).length := by
          have hpos := List.length_pos_iff.2 (hne word hword)
          rw [← hrest, List.length_append]
          omega
        exact hrest ▸ hit word hword rest (ih _ hlength rest rfl)
      · have hmiss : ∀ word ∈ words, ¬ word <+: c :: cs := fun word hword hprefix =>
          hstart ⟨word, hword, hprefix⟩
        exact miss c cs hmiss (ih _ (by simp) cs rfl)

/-- The text is taken apart at the occurrences that replacement finds. -/
theorem induction_on_occurrences {pattern : List Char} (hne : pattern ≠ [])
    {motive : List Char → Prop} (nil : motive [])
    (hit : ∀ rest, motive rest → motive (pattern ++ rest))
    (miss : ∀ c cs, ¬ pattern <+: c :: cs → motive cs → motive (c :: cs)) (text : List Char) :
    motive text := by
  have hword : ∀ word ∈ [pattern], word ≠ [] := List.forall_mem_singleton.2 hne
  refine induction_on_words hword nil ?_ ?_ text
  · intro word hword rest ih
    rw [List.mem_singleton.1 hword]
    exact hit rest ih
  · intro c cs hwords ih
    exact miss c cs (hwords pattern (List.mem_singleton_self pattern)) ih

theorem replaceChars_nil_text (old new : List Char) : replaceChars old new [] = [] := by
  simp [replaceChars]

/-- An occurrence at the start is replaced. -/
theorem replaceChars_append_self {old new : List Char} (hne : old ≠ []) (rest : List Char) :
    replaceChars old new (old ++ rest) = new ++ replaceChars old new rest := by
  obtain ⟨o, os, rfl⟩ := List.exists_cons_of_ne_nil hne
  have hstrip : stripStart? os (os ++ rest) = some rest := stripStart?_eq_some_iff.2 rfl
  rw [List.cons_append, replaceChars, if_pos rfl]
  split
  · next found hfound => rw [Option.some.inj (hfound.symm.trans hstrip)]
  · next hnone => simp [hstrip] at hnone

/-- A character at which no occurrence begins is kept. -/
theorem replaceChars_cons_of_miss {old new : List Char} {c : Char} {cs : List Char}
    (h : ¬ old <+: c :: cs) :
    replaceChars old new (c :: cs) = c :: replaceChars old new cs := by
  cases old with
  | nil => exact absurd List.nil_prefix h
  | cons o os =>
    rw [replaceChars]
    split
    · next hoc =>
      subst hoc
      have hnone : stripStart? os cs = none :=
        stripStart?_eq_none_iff.2 fun hstart => h ((List.prefix_cons_inj o).2 hstart)
      split
      · next rest hrest => simp [hnone] at hrest
      · rfl
    · rfl

/-- A text without occurrences stays. -/
theorem replaceChars_eq_self {old new text : List Char} (h : ¬ old <:+: text) :
    replaceChars old new text = text := by
  induction text with
  | nil => exact replaceChars_nil_text old new
  | cons c cs ih =>
    rw [List.infix_cons_iff, not_or] at h
    rw [replaceChars_cons_of_miss h.1, ih h.2]

/-! ## Words without characters of the replacement -/

/-- A word cannot begin in text that has not its first character. -/
theorem infix_of_infix_append_of_head {w : Char} {ws gap rest : List Char} (hgap : w ∉ gap)
    (h : w :: ws <:+: gap ++ rest) : w :: ws <:+: rest := by
  induction gap with
  | nil => exact h
  | cons c gap ih =>
    rcases List.infix_cons_iff.1 h with hstart | hinfix
    · obtain rfl : w = c := (List.cons_prefix_cons.1 hstart).1
      exact absurd List.mem_cons_self hgap
    · exact ih (fun hmem => hgap (List.mem_cons_of_mem _ hmem)) hinfix

/-- A word cannot reach into text of which it has no character. -/
theorem infix_of_infix_append {word gap rest : List Char} (hne : word ≠ [])
    (hgap : ∀ c ∈ gap, c ∉ word) (h : word <:+: gap ++ rest) : word <:+: rest := by
  obtain ⟨w, ws, rfl⟩ := List.exists_cons_of_ne_nil hne
  exact infix_of_infix_append_of_head (fun hmem => hgap w hmem List.mem_cons_self) h

variable {word old new : List Char}

/-- A word at the start of the result stood at the start of the text, if it has not the first
character of the replacement: it would end before the first place where something was put in. -/
theorem prefix_of_prefix_replaceChars_cons (hold : old ≠ []) {n : Char} {ns : List Char}
    (hn : n ∉ word) {text : List Char} (h : word <+: replaceChars old (n :: ns) text) :
    word <+: text := by
  induction text using induction_on_occurrences hold generalizing word with
  | nil => rwa [replaceChars_nil_text] at h
  | hit rest ih =>
    rw [replaceChars_append_self hold] at h
    cases word with
    | nil => exact List.nil_prefix
    | cons w ws =>
      obtain rfl : w = n := (List.cons_prefix_cons.1 h).1
      exact absurd List.mem_cons_self hn
  | miss c cs hmiss ih =>
    rw [replaceChars_cons_of_miss hmiss] at h
    cases word with
    | nil => exact List.nil_prefix
    | cons w ws =>
      obtain ⟨rfl, htail⟩ := List.cons_prefix_cons.1 h
      exact (List.prefix_cons_inj w).2 (ih (fun hmem => hn (List.mem_cons_of_mem _ hmem)) htail)

theorem prefix_of_prefix_replaceChars (hold : old ≠ []) (hnew : new ≠ [])
    (hword : ∀ c ∈ new, c ∉ word) {text : List Char} (h : word <+: replaceChars old new text) :
    word <+: text := by
  obtain ⟨n, ns, rfl⟩ := List.exists_cons_of_ne_nil hnew
  exact prefix_of_prefix_replaceChars_cons hold (hword n List.mem_cons_self) h

/-- Replacement makes no occurrence of a word that shares no character with what it puts in. -/
theorem infix_of_infix_replaceChars (hold : old ≠ []) (hnew : new ≠ []) (hne : word ≠ [])
    (hword : ∀ c ∈ new, c ∉ word) {text : List Char} (h : word <:+: replaceChars old new text) :
    word <:+: text := by
  induction text using induction_on_occurrences hold with
  | nil => rwa [replaceChars_nil_text] at h
  | hit rest ih =>
    rw [replaceChars_append_self hold] at h
    exact (ih (infix_of_infix_append hne hword h)).trans (List.suffix_append old rest).isInfix
  | miss c cs hmiss ih =>
    -- At the start the word was there before, by the lemma on prefixes; else it is further on.
    rw [replaceChars_cons_of_miss hmiss] at h
    rcases List.infix_cons_iff.1 h with hstart | hinfix
    · rw [← replaceChars_cons_of_miss hmiss] at hstart
      exact (prefix_of_prefix_replaceChars hold hnew hword hstart).isInfix
    · exact List.infix_cons (ih hinfix)

/-- No occurrence of the pattern is left if it shares no character with what is put in. -/
theorem not_infix_replaceChars (hold : old ≠ []) (hnew : new ≠ []) (hdisjoint : ∀ c ∈ new, c ∉ old)
    (text : List Char) : ¬ old <:+: replaceChars old new text := by
  intro h
  induction text using induction_on_occurrences hold with
  | nil =>
    rw [replaceChars_nil_text] at h
    exact hold (List.infix_nil.1 h)
  | hit rest ih =>
    rw [replaceChars_append_self hold] at h
    exact ih (infix_of_infix_append hold hdisjoint h)
  | miss c cs hmiss ih =>
    rw [replaceChars_cons_of_miss hmiss] at h
    rcases List.infix_cons_iff.1 h with hstart | hinfix
    · rw [← replaceChars_cons_of_miss hmiss] at hstart
      exact hmiss (prefix_of_prefix_replaceChars hold hnew hdisjoint hstart)
    · exact ih hinfix

end AlertBridge
