import AlertBridge.Text.Substring

/-!
# Texts one after the other

What a list of texts makes up if the texts come from lists themselves, if some of them are empty, or
if they are shorter than others.

Main statement: `concat_map_eq_iff`.
-/

namespace AlertBridge

variable {α : Type} {f g : α → String} {xs : List α}

/-- The texts of lists, one after the other. -/
theorem concat_map_flatMap {β : Type} {f : β → String} (g : α → List β) (xs : List α) :
    concat ((xs.flatMap g).map f) = concat (xs.map fun x => concat ((g x).map f)) := by
  induction xs with
  | nil => rfl
  | cons x xs ih =>
    rw [List.flatMap_cons, List.map_append, concat_append, ih, List.map_cons, concat_cons]

/-- Texts that are all empty. -/
theorem concat_map_eq_empty (h : ∀ x ∈ xs, f x = "") : concat (xs.map f) = "" := by
  induction xs with
  | nil => rfl
  | cons x xs ih =>
    obtain ⟨hx, hxs⟩ := List.forall_mem_cons.1 h
    rw [List.map_cons, concat_cons, hx, ih hxs, String.empty_append]

/-- Empty texts may be left out. -/
theorem concat_map_filter {p : α → Bool} (h : ∀ x ∈ xs, p x = false → f x = "") :
    concat ((xs.filter p).map f) = concat (xs.map f) := by
  induction xs with
  | nil => rfl
  | cons x xs ih =>
    obtain ⟨hx, hxs⟩ := List.forall_mem_cons.1 h
    rw [List.map_cons, concat_cons, ← ih hxs]
    cases hp : p x with
    | true => rw [List.filter_cons_of_pos hp, List.map_cons, concat_cons]
    | false => rw [List.filter_cons_of_neg (by simp [hp]), hx hp, String.empty_append]

theorem concat_map_length_le (h : ∀ x ∈ xs, (f x).length ≤ (g x).length) :
    (concat (xs.map f)).length ≤ (concat (xs.map g)).length := by
  induction xs with
  | nil => exact Nat.le_refl _
  | cons x xs ih =>
    obtain ⟨hx, hxs⟩ := List.forall_mem_cons.1 h
    simp only [List.map_cons, concat_cons, String.length_append]
    exact Nat.add_le_add hx (ih hxs)

/-- Texts of which none is longer than its counterpart make up the same text only if each is the
same. -/
theorem concat_map_eq_iff (h : ∀ x ∈ xs, (f x).length ≤ (g x).length) :
    concat (xs.map f) = concat (xs.map g) ↔ ∀ x ∈ xs, f x = g x := by
  induction xs with
  | nil => simp
  | cons x xs ih =>
    obtain ⟨hx, hxs⟩ := List.forall_mem_cons.1 h
    rw [List.forall_mem_cons, ← ih hxs, List.map_cons, List.map_cons, concat_cons, concat_cons]
    constructor
    · intro heq
      have hlengths := congrArg String.length heq
      rw [String.length_append, String.length_append] at hlengths
      have hrest := concat_map_length_le hxs
      have hlength : (f x).toList.length = (g x).toList.length := by
        rw [String.length_toList, String.length_toList]
        omega
      have hchars := congrArg String.toList heq
      rw [String.toList_append, String.toList_append] at hchars
      obtain ⟨hfirst, hmore⟩ := List.append_inj hchars hlength
      exact ⟨String.toList_inj.1 hfirst, String.toList_inj.1 hmore⟩
    · rintro ⟨hfirst, hmore⟩
      rw [hfirst, hmore]

end AlertBridge
