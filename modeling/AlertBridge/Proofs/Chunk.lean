import AlertBridge.Chunk
import Mathlib.Algebra.Order.Floor.Div

/-!
# How a list is cut

A list is cut into pieces of a length, of which only the last may be shorter. `IsCut` says so
without reference to how it is done, and there is only one way to do it.

Main statement: `isCut_pieces`, and `chunks_eq_ok` for lengths that are integers.
-/

namespace AlertBridge

variable {α : Type}

/-- The pieces make up the list, none is empty or longer than the length, and only the last may be
shorter. -/
structure IsCut (n : Nat) (xs : List α) (parts : List (List α)) : Prop where
  flatten_eq : parts.flatten = xs
  one_le_length : ∀ part ∈ parts, 1 ≤ part.length
  length_le : ∀ part ∈ parts, part.length ≤ n
  length_eq : ∀ part ∈ parts.dropLast, part.length = n
  count_eq : parts.length = xs.length ⌈/⌉ n

theorem length_of_mem_dropLast_pieces {n : Nat} {xs part : List α}
    (h : part ∈ (pieces n xs).dropLast) : part.length = n + 1 := by
  fun_induction pieces n xs with
  | case1 => simp at h
  | case2 x rest ih =>
    by_cases hrest : pieces n (rest.drop n) = []
    · simp [hrest] at h
    · rw [List.dropLast_cons_of_ne_nil hrest] at h
      rcases List.mem_cons.1 h with rfl | h
      · have hmore : rest.drop n ≠ [] := by
          intro hnil
          rw [hnil, pieces] at hrest
          exact hrest rfl
        have hlength : n < rest.length := by
          rw [← Nat.not_le, ← List.drop_eq_nil_iff]
          exact hmore
        simp only [List.length_cons, List.length_take]
        omega
      · exact ih h

/-- There are as many pieces as the length goes into that of the list, rounded up. -/
theorem length_pieces (n : Nat) (xs : List α) :
    (pieces n xs).length = xs.length ⌈/⌉ (n + 1) := by
  fun_induction pieces n xs with
  | case1 => simp
  | case2 x rest ih =>
    rw [List.length_cons, ih, Nat.ceilDiv_eq_add_pred_div, Nat.ceilDiv_eq_add_pred_div,
      List.length_cons, List.length_drop, ← Nat.add_div_right _ (Nat.succ_pos n)]
    by_cases hlength : n ≤ rest.length
    · congr 1
      omega
    · have hnone : rest.length - n = 0 := by omega
      rw [hnone, Nat.div_eq_of_lt_le (by omega) (by omega) (k := 1)]
      exact (Nat.div_eq_of_lt_le (by omega) (by omega)).symm

/-- Pieces of one element each. -/
theorem pieces_zero (xs : List α) : pieces 0 xs = xs.map fun x => [x] := by
  induction xs with
  | nil => rw [pieces, List.map_nil]
  | cons x xs ih => rw [pieces, List.take_zero, List.drop_zero, ih, List.map_cons]

theorem isCut_pieces (n : Nat) (xs : List α) : IsCut (n + 1) xs (pieces n xs) where
  flatten_eq := flatten_pieces n xs
  one_le_length _ h := (length_of_mem_pieces h).1
  length_le _ h := (length_of_mem_pieces h).2
  length_eq _ h := length_of_mem_dropLast_pieces h
  count_eq := length_pieces n xs

/-- A positive length cuts the list. -/
theorem chunks_eq_ok {stride : Int} (h : 1 ≤ stride) (xs : List α) :
    chunks stride xs = .ok (pieces (stride.toNat - 1) xs) := by
  rw [chunks, if_neg (by omega), if_neg (by omega)]

theorem isCut_chunks {stride : Int} (h : 1 ≤ stride) (xs : List α) :
    IsCut stride.toNat xs (pieces (stride.toNat - 1) xs) := by
  obtain ⟨n, hn⟩ : ∃ n, stride.toNat = n + 1 := ⟨stride.toNat - 1, by omega⟩
  rw [hn, Nat.add_sub_cancel]
  exact isCut_pieces n xs

end AlertBridge
