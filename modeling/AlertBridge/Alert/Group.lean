import AlertBridge.Json.Access

/-!
# Groups of equal keys

`groupBy` sorts elements into groups by their keys. Groups stand in the order in which their keys
first appear, and the elements of a group in the order in which they came; a group is named by
the first of its keys. What can be a key, and which keys are the same, depends on the type of the
keys alone.

Main statements: the groups together hold the elements, and no group is empty.
-/

namespace AlertBridge

/-- Values that may name groups. -/
class GroupKey (κ : Type) where
  /-- The value can name a group. -/
  isKey : κ → Bool
  /-- The two values name the same group. -/
  same : κ → κ → Bool

instance : GroupKey Json := ⟨Json.isKey, Json.sameKey⟩

open GroupKey (isKey same)

@[simp] theorem isKey_json (v : Json) : isKey v = v.isKey := rfl

@[simp] theorem same_json (v w : Json) : same v w = v.sameKey w := rfl

variable {α κ : Type} [GroupKey κ]

/-- The groups with an element added at the end of the group of its key, a new one at the end if
there is none. -/
def addToGroup (key : κ) (x : α) : List (κ × List α) → List (κ × List α)
  | [] => [(key, [x])]
  | (k, xs) :: groups =>
    if same k key then (k, xs ++ [x]) :: groups else (k, xs) :: addToGroup key x groups

/-- The groups of elements that are given with their keys. -/
def groupBy (keyed : List (κ × α)) : List (κ × List α) :=
  keyed.foldl (fun groups (key, x) => addToGroup key x groups) []

/-- Adding an element adds it to what the groups hold. -/
theorem perm_addToGroup (key : κ) (x : α) (groups : List (κ × List α)) :
    ((addToGroup key x groups).flatMap Prod.snd).Perm (x :: groups.flatMap Prod.snd) := by
  induction groups with
  | nil => simp [addToGroup]
  | cons g groups ih =>
    obtain ⟨k, xs⟩ := g
    by_cases h : same k key
    · simp only [addToGroup, h, if_true, List.flatMap_cons, List.append_assoc,
        List.singleton_append]
      exact List.perm_middle
    · simp only [addToGroup, h, if_false, List.flatMap_cons, Bool.false_eq_true]
      exact (ih.append_left xs).trans List.perm_middle

/-- A group with an element added is not empty. -/
theorem ne_nil_of_mem_addToGroup {key : κ} {x : α} {groups : List (κ × List α)}
    (h : ∀ g ∈ groups, g.2 ≠ []) : ∀ g ∈ addToGroup key x groups, g.2 ≠ [] := by
  induction groups with
  | nil => simp [addToGroup]
  | cons g groups ih =>
    obtain ⟨k, xs⟩ := g
    have ih := ih fun g hg => h g (List.mem_cons_of_mem _ hg)
    by_cases hk : same k key
    · simp only [addToGroup, hk, if_true]
      intro g hg
      rcases List.mem_cons.1 hg with rfl | hg
      · simp
      · exact h g (List.mem_cons_of_mem _ hg)
    · simp only [addToGroup, hk, if_false, Bool.false_eq_true]
      intro g hg
      rcases List.mem_cons.1 hg with rfl | hg
      · exact h _ List.mem_cons_self
      · exact ih g hg

/-- Adding elements one after the other adds all of them to what the groups hold. -/
theorem perm_foldl_addToGroup (keyed : List (κ × α)) (groups : List (κ × List α)) :
    ((keyed.foldl (fun groups (key, x) => addToGroup key x groups) groups).flatMap Prod.snd).Perm
      (keyed.map Prod.snd ++ groups.flatMap Prod.snd) := by
  induction keyed generalizing groups with
  | nil => exact List.Perm.refl _
  | cons e keyed ih =>
    obtain ⟨key, x⟩ := e
    have added : (keyed.map Prod.snd ++ (addToGroup key x groups).flatMap Prod.snd).Perm
        (keyed.map Prod.snd ++ x :: groups.flatMap Prod.snd) :=
      (perm_addToGroup key x groups).append_left _
    exact (ih (addToGroup key x groups)).trans (added.trans List.perm_middle)

/-- The groups together hold the elements. -/
theorem perm_groupBy (keyed : List (κ × α)) :
    ((groupBy keyed).flatMap Prod.snd).Perm (keyed.map Prod.snd) := by
  simpa [groupBy] using perm_foldl_addToGroup keyed []

/-- No group is empty after elements are added to groups none of which is. -/
theorem ne_nil_of_mem_foldl_addToGroup (keyed : List (κ × α)) {groups : List (κ × List α)}
    (h : ∀ g ∈ groups, g.2 ≠ []) :
    ∀ g ∈ keyed.foldl (fun groups (key, x) => addToGroup key x groups) groups, g.2 ≠ [] := by
  induction keyed generalizing groups with
  | nil => exact h
  | cons e keyed ih => exact ih (ne_nil_of_mem_addToGroup h)

/-- No group is empty. -/
theorem ne_nil_of_mem_groupBy {keyed : List (κ × α)} :
    ∀ g ∈ groupBy keyed, g.2 ≠ [] :=
  ne_nil_of_mem_foldl_addToGroup keyed (by simp)

/-- An element with its key, which has to be able to name one. -/
def keyed? (key : α → Except Fault κ) (x : α) : Except Fault (κ × α) := do
  let k ← key x
  if isKey k then return (k, x) else throw .notAKey

/-- The groups of elements by their keys. -/
def groupBy? (key : α → Except Fault κ) (xs : List α) : Except Fault (List (κ × List α)) :=
  (xs.mapM (keyed? key)).map groupBy

end AlertBridge
