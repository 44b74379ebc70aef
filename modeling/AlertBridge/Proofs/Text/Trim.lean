import AlertBridge.Text.Blank
import Mathlib.Data.List.TakeWhile

/-!
# What is left of a trimmed text

A text without the blanks around it is a stretch of the text, so that it is not longer and has no
other characters. Nothing is left of it exactly if it is blank.

Main statements: `trimBoth_infix`, `trim_eq_empty_iff`.
-/

namespace AlertBridge

variable {p : Char → Bool} {cs : List Char} {s : String}

/-- What is left is a stretch of what was there. -/
theorem trimBoth_infix (p : Char → Bool) (cs : List Char) : trimBoth p cs <:+: cs := by
  have hfront : cs.dropWhile p <:+ cs := List.dropWhile_suffix p
  have hback : trimBoth p cs <+: cs.dropWhile p := dropTail_prefix p (cs.dropWhile p)
  exact hback.isInfix.trans hfront.isInfix

theorem trimBoth_eq_nil_iff : trimBoth p cs = [] ↔ ∀ c ∈ cs, p c := by
  rw [trimBoth, dropTail, List.reverse_eq_nil_iff, List.dropWhile_eq_nil_iff]
  constructor
  · intro h c hc
    by_cases hdrop : c ∈ cs.dropWhile p
    · exact h c (List.mem_reverse.2 hdrop)
    · rw [← List.takeWhile_append_dropWhile (p := p) (l := cs), List.mem_append] at hc
      exact List.mem_takeWhile_imp (hc.resolve_right hdrop)
  · intro h c hc
    exact h c ((List.dropWhile_sublist p).subset (List.mem_reverse.1 hc))

theorem trim_infix (s : String) : (trim s).toList <:+: s.toList := by
  rw [trim, String.toList_ofList]
  exact trimBoth_infix isBlank s.toList

theorem mem_of_mem_trim {c : Char} (h : c ∈ (trim s).toList) : c ∈ s.toList := by
  have hpart := trim_infix s
  exact hpart.subset h

/-- A text is not longer without the blanks around it. -/
theorem length_trim_le (s : String) : (trim s).length ≤ s.length := by
  rw [← String.length_toList, ← String.length_toList]
  exact List.IsInfix.length_le <| trim_infix s

/-- Nothing is left of a text of blanks, and something of any other text. -/
theorem trim_eq_empty_iff : trim s = "" ↔ allBlank s.toList := by
  rw [trim, String.ofList_eq_empty_iff, trimBoth_eq_nil_iff, allBlank, List.all_eq_true]

end AlertBridge
