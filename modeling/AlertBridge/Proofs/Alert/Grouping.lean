import AlertBridge.Alert.Group
import AlertBridge.Proofs.FirstOccurrence
import Mathlib.Data.List.Induction

/-!
# What the groups are

Groups are made by going through the elements once. What comes of it can be said without that: where
keys fall into classes, and two keys are the same exactly if their classes are, there is one group
for each class, in the order in which the classes first appear, and it holds the elements of the
class in their order.

The invariant of the walk is `labels_addToGroup`: groups that are labelled with different classes
stay so when an element is added.

## Main definitions

* `Classifies`: two keys are the same exactly if their classes are
* `membersOf`: the elements of a class

## Main results

* `labels_groupBy`: the groups with their classes
-/

namespace AlertBridge

open GroupKey (same)

variable {α β κ : Type} {e : κ → β} {keyed : List (κ × α)} {groups : List (κ × List α)}

/-! ## The elements of a class -/

section

variable [BEq β]

/-- The elements whose keys are of a class. -/
def membersOf (e : κ → β) (keyed : List (κ × α)) (b : β) : List α :=
  (keyed.filter fun p => e p.1 == b).map Prod.snd

theorem membersOf_append (keyed keyed' : List (κ × α)) (b : β) :
    membersOf e (keyed ++ keyed') b = membersOf e keyed b ++ membersOf e keyed' b := by
  simp [membersOf]

variable [LawfulBEq β]

theorem membersOf_singleton (key : κ) (x : α) (b : β) :
    membersOf e [(key, x)] b = if e key == b then [x] else [] := by
  by_cases h : e key = b <;> simp [membersOf, h]

theorem membersOf_eq_nil {b : β} (h : b ∉ keyed.map (e ·.1)) : membersOf e keyed b = [] := by
  rw [membersOf, List.map_eq_nil_iff, List.filter_eq_nil_iff]
  intro p hp heq
  obtain rfl : e p.1 = b := by simpa using heq
  exact h (List.mem_map_of_mem hp)

end

/-! ## Classes of keys -/

variable [GroupKey κ]

/-- Two of the keys are the same exactly if they are of the same class. -/
def Classifies (e : κ → β) (keys : List κ) : Prop :=
  ∀ k ∈ keys, ∀ k' ∈ keys, same k k' ↔ e k = e k'

theorem Classifies.of_subset {keys keys' : List κ} (h : Classifies e keys)
    (hsub : ∀ k ∈ keys', k ∈ keys) : Classifies e keys' :=
  fun k hk k' hk' => h k (hsub k hk) k' (hsub k' hk')

/-- Groups with the classes of the keys that name them. -/
def labels (e : κ → β) (groups : List (κ × List α)) : List (β × List α) :=
  groups.map fun (k, xs) => (e k, xs)

/-! ## The keys that name groups -/

theorem mem_keys_of_mem_addToGroup {key : κ} {x : α} {g : κ × List α}
    (h : g ∈ addToGroup key x groups) : g.1 = key ∨ g.1 ∈ groups.map Prod.fst := by
  induction groups with
  | nil => exact .inl (by simp_all [addToGroup])
  | cons first groups ih =>
    obtain ⟨k, xs⟩ := first
    unfold addToGroup at h
    split at h
    · rcases List.mem_cons.1 h with rfl | h
      · exact .inr List.mem_cons_self
      · exact .inr (List.mem_cons_of_mem _ (List.mem_map_of_mem h))
    · rcases List.mem_cons.1 h with rfl | h
      · exact .inr List.mem_cons_self
      · exact (ih h).imp_right (List.mem_cons_of_mem _)

theorem groupBy_append_singleton (keyed : List (κ × α)) (key : κ) (x : α) :
    groupBy (keyed ++ [(key, x)]) = addToGroup key x (groupBy keyed) := by
  simp [groupBy, List.foldl_append]

/-- A group is named by one of the keys. -/
theorem mem_keys_of_mem_groupBy {g : κ × List α} (h : g ∈ groupBy keyed) :
    g.1 ∈ keyed.map Prod.fst := by
  induction keyed using List.reverseRecOn generalizing g with
  | nil => cases h
  | append_singleton keyed last ih =>
    obtain ⟨key, x⟩ := last
    rw [groupBy_append_singleton] at h
    rw [List.map_append, List.mem_append]
    rcases mem_keys_of_mem_addToGroup h with hkey | hkey
    · exact .inr (by simp [hkey])
    · obtain ⟨g', hg', hfst⟩ := List.mem_map.1 hkey
      exact .inl (hfst ▸ ih hg')

/-! ## The groups -/

variable [BEq β] [LawfulBEq β]

/-- An element is added to the group of its class. If there is none, the group that it starts is
labelled with the class and comes last. -/
theorem labels_addToGroup {key : κ} {x : α} {bs : List β} {members : β → List α}
    (hclasses : ∀ g ∈ groups, same g.1 key ↔ e g.1 = e key) (hnodup : bs.Nodup)
    (h : labels e groups = bs.map fun b => (b, members b))
    (hnew : e key ∉ bs → members (e key) = []) :
    labels e (addToGroup key x groups) =
      (if bs.contains (e key) then bs else bs ++ [e key]).map fun b =>
        (b, members b ++ if e key == b then [x] else []) := by
  induction groups generalizing bs with
  | nil =>
    obtain rfl : bs = [] := by simpa [labels] using h.symm
    simp [addToGroup, labels, hnew]
  | cons g groups ih =>
    obtain ⟨k, xs⟩ := g
    cases bs with
    | nil => simp [labels] at h
    | cons b bs =>
      obtain ⟨⟨rfl, rfl⟩, hrest⟩ : (e k = b ∧ xs = members b) ∧
          labels e groups = bs.map fun b => (b, members b) := by
        simpa [labels] using h
      obtain ⟨hfresh, hnodup⟩ := List.nodup_cons.1 hnodup
      have hk : same k key ↔ e k = e key := hclasses (k, members (e k)) List.mem_cons_self
      by_cases heq : e k = e key
      · have hothers : ∀ b ∈ bs, e key ≠ b := by
          rintro b hb rfl
          exact hfresh (heq ▸ hb)
        rw [addToGroup, if_pos (hk.2 heq)]
        simp only [labels, List.map_cons, heq, List.contains_cons, BEq.rfl, Bool.true_or, if_true]
        refine congrArg _ (hrest.trans (List.map_congr_left fun b hb => ?_))
        rw [if_neg (by simpa using hothers b hb), List.append_nil]
      · have hne : (e key == e k) = false := by simpa using fun h => heq h.symm
        have ih := ih (fun g hg => hclasses g (List.mem_cons_of_mem _ hg)) hnodup hrest
          fun hmem => hnew (by simpa [Ne.symm heq] using hmem)
        rw [addToGroup, if_neg (fun hsame => heq (hk.1 hsame)), List.contains_cons, hne,
          Bool.false_or]
        have hhead : members (e k) ++ (if e key == e k then [x] else []) = members (e k) := by
          rw [hne, if_neg Bool.false_ne_true, List.append_nil]
        cases hcontains : bs.contains (e key) with
        | true =>
          rw [hcontains] at ih
          simpa [labels, hhead] using ih
        | false =>
          rw [hcontains] at ih
          simpa [labels, hhead] using ih

/-- **The groups of elements.** There is one for each class of keys, in the order in which the
classes first appear, with the elements of the class in their order. -/
theorem labels_groupBy (h : Classifies e (keyed.map Prod.fst)) :
    labels e (groupBy keyed) =
      (dedup (keyed.map (e ·.1))).map fun b => (b, membersOf e keyed b) := by
  induction keyed using List.reverseRecOn with
  | nil => rfl
  | append_singleton keyed last ih =>
    obtain ⟨key, x⟩ := last
    have hsub : ∀ k ∈ keyed.map Prod.fst, k ∈ (keyed ++ [(key, x)]).map Prod.fst :=
      fun k hk => by simp only [List.map_append, List.mem_append, hk, true_or]
    have hclasses : ∀ g ∈ groupBy keyed, same g.1 key ↔ e g.1 = e key := fun g hg =>
      h g.1 (hsub _ (mem_keys_of_mem_groupBy hg)) key (by simp)
    have hadd := labels_addToGroup (x := x) hclasses (nodup_dedup _) (ih (h.of_subset hsub))
      fun hmem => membersOf_eq_nil fun hin => hmem (mem_dedup.2 hin)
    rw [groupBy_append_singleton, hadd, List.map_append, List.map_singleton,
      dedup_append_singleton]
    have hcontains : (dedup (keyed.map (e ·.1))).contains (e key) =
        (keyed.map (e ·.1)).contains (e key) := by
      rw [Bool.eq_iff_iff, List.contains_iff_mem, List.contains_iff_mem, mem_dedup]
    rw [hcontains]
    refine List.map_congr_left fun b _ => ?_
    rw [membersOf_append, membersOf_singleton]

end AlertBridge
