import AlertBridge.Text.Substring
import Mathlib.Data.List.Basic

/-!
# First occurrences

`dedup` keeps of each element its first occurrence. `FirstOccurrences xs ys` says so without
reference to how it is done: `ys` has the elements of `xs`, and they stand in the order in which
`xs` has them first. No element can stand in `ys` twice, since its place in `xs` is not before
itself, so the relation determines `ys`.

Main statement: `firstOccurrences_dedup`.
-/

namespace AlertBridge

variable {α : Type} [BEq α]

@[simp] theorem dedup_eq_nil_iff {xs : List α} : dedup xs = [] ↔ xs = [] := by
  cases xs <;> simp [dedup]

/-- `ys` lists the elements of `xs`, each once, in the order of their first occurrences. -/
structure FirstOccurrences (xs ys : List α) : Prop where
  mem_iff : ∀ x, x ∈ ys ↔ x ∈ xs
  ordered : ys.Pairwise fun x y => xs.idxOf x < xs.idxOf y

variable [LawfulBEq α]

@[simp] theorem mem_dedup {x : α} {xs : List α} : x ∈ dedup xs ↔ x ∈ xs := by
  induction xs with
  | nil => simp [dedup]
  | cons y xs ih =>
    by_cases h : x = y <;> simp [dedup, ih, h]

theorem idxOf_lt_of_pairwise_dedup (xs : List α) :
    (dedup xs).Pairwise fun x y => xs.idxOf x < xs.idxOf y := by
  induction xs with
  | nil => simp [dedup]
  | cons z xs ih =>
    have shift {x : α} (h : x ∈ (dedup xs).filter (! · == z)) :
        (z :: xs).idxOf x = xs.idxOf x + 1 := by
      have hne : z ≠ x := by
        rintro rfl
        simp at h
      exact List.idxOf_cons_ne xs hne
    refine List.pairwise_cons.2 ⟨fun x hx => ?_, ?_⟩
    · rw [shift hx, List.idxOf_cons_self]
      exact Nat.succ_pos _
    · refine (ih.filter _).imp_of_mem fun hx hy h => ?_
      rw [shift hx, shift hy]
      exact Nat.succ_lt_succ h

/-- One more element at the end is kept if it is new. -/
theorem dedup_append_singleton (xs : List α) (x : α) :
    dedup (xs ++ [x]) = if xs.contains x then dedup xs else dedup xs ++ [x] := by
  induction xs with
  | nil => simp [dedup]
  | cons y xs ih =>
    rw [List.cons_append, dedup, ih, List.contains_cons]
    by_cases hy : x = y
    · subst hy
      cases hx : xs.contains x <;> simp [dedup, List.filter_append]
    · have hbeq : (x == y) = false := by simpa using hy
      cases hx : xs.contains x <;> simp [dedup, List.filter_append, hbeq]

/-- It does not matter whether elements are left out before or after. -/
theorem filter_dedup (p : α → Bool) (xs : List α) :
    (dedup xs).filter p = dedup (xs.filter p) := by
  induction xs with
  | nil => rfl
  | cons x xs ih =>
    cases hp : p x with
    | true =>
      rw [dedup, List.filter_cons_of_pos hp, List.filter_cons_of_pos hp, dedup, ← ih,
        List.filter_comm]
    | false =>
      rw [dedup, List.filter_cons_of_neg (by simp [hp]), List.filter_cons_of_neg (by simp [hp]),
        ← ih, List.filter_filter]
      refine List.filter_congr fun y _ => ?_
      by_cases hy : y = x <;> simp [hy, hp]

/-- An element that came before makes no difference. -/
theorem dedup_append_cons_of_mem {x : α} {xs : List α} (h : x ∈ xs) (ys : List α) :
    dedup (xs ++ x :: ys) = dedup (xs ++ ys) := by
  induction xs with
  | nil => cases h
  | cons z xs ih =>
    rw [List.cons_append, List.cons_append, dedup, dedup]
    by_cases hx : x = z
    · subst hx
      rw [filter_dedup, filter_dedup, List.filter_append, List.filter_append,
        List.filter_cons_of_neg (by simp)]
    · rw [ih (List.mem_of_ne_of_mem hx h)]

theorem nodup_dedup (xs : List α) : (dedup xs).Nodup :=
  (idxOf_lt_of_pairwise_dedup xs).imp fun {x y} h => by
    rintro rfl
    exact absurd h (Nat.lt_irrefl _)

/-- Elements that are all different stay as they are. -/
theorem dedup_of_nodup {xs : List α} (h : xs.Nodup) : dedup xs = xs := by
  induction xs with
  | nil => rfl
  | cons x xs ih =>
    obtain ⟨hx, hxs⟩ := List.nodup_cons.1 h
    rw [dedup, ih hxs, List.filter_eq_self.2]
    intro y hy
    have hne : y ≠ x := fun heq => hx (heq ▸ hy)
    simpa using hne

theorem firstOccurrences_dedup (xs : List α) : FirstOccurrences xs (dedup xs) where
  mem_iff _ := mem_dedup
  ordered := idxOf_lt_of_pairwise_dedup xs

end AlertBridge
