import AlertBridge.Fault

/-!
# Lists cut into pieces

`chunks` cuts a list into consecutive pieces of a length, of which only the last may be shorter.
A length of zero is refused, and a negative one gives no pieces.

Main statements: the pieces joined are the list, and every piece has between one and `n` elements.
-/

namespace AlertBridge

variable {α : Type}

/-- The consecutive pieces of length `n + 1`. -/
def pieces (n : Nat) (xs : List α) : List (List α) :=
  match xs with
  | [] => []
  | x :: rest => (x :: rest.take n) :: pieces n (rest.drop n)
termination_by xs.length
decreasing_by simp only [List.length_cons, List.length_drop]; omega

theorem flatten_pieces (n : Nat) (xs : List α) : (pieces n xs).flatten = xs := by
  fun_induction pieces n xs with
  | case1 => rfl
  | case2 x rest ih => simp [ih]

/-- Every piece holds at least one element, and no more than the length allows. -/
theorem length_of_mem_pieces {n : Nat} {xs piece : List α} (h : piece ∈ pieces n xs) :
    1 ≤ piece.length ∧ piece.length ≤ n + 1 := by
  fun_induction pieces n xs with
  | case1 => simp at h
  | case2 x rest ih =>
    rcases List.mem_cons.1 h with rfl | h
    · simp only [List.length_cons, List.length_take]
      omega
    · exact ih h

/-- The consecutive pieces of a length. -/
def chunks (stride : Int) (xs : List α) : Except Fault (List (List α)) :=
  if stride = 0 then .error .zeroStride
  else if stride < 0 then .ok []
  else .ok (pieces (stride.toNat - 1) xs)

end AlertBridge
