import AlertBridge.Proofs.Alert.Form
import AlertBridge.Proofs.Alert.Partition
import AlertBridge.Slack.Unit

/-!
# Resolved alerts first

Units are made group by group and sorted at the end: those of resolved alerts come first, and
otherwise nothing changes its order. This is what a stable sort does (`resolvedFirst_eq_mergeSort`).
Since all units of a group are resolved or none is, the sort does not take a group apart; it comes
to the same as sorting the groups.

## Main definitions

* `resolvedBefore`: the order by which units are sorted

## Main results

* `resolvedFirst_flatMap_of_forall`: what is made group by group stays together
* `exists_partition_groupBy?`: the groups of elements, and what is made of them, in the end
* `not_isStablePartition_equals`: with equality of keys this is not so
-/

namespace AlertBridge.Slack

variable {α β : Type}

/-! ## Sorting by a property -/

/-- The order in which what has a property comes before what has not. -/
def before (p : α → Bool) (x y : α) : Bool := p x || !p y

/-- A unit may stand in front of another one unless only the other one is resolved. -/
def resolvedBefore (u v : MessageUnit) : Bool :=
  before (fun u => isResolved u.status) u v

theorem before_trans (p : α → Bool) (x y z : α) : before p x y → before p y z → before p x z := by
  cases hx : p x <;> cases hy : p y <;> simp [before, hx, hy]

theorem before_total (p : α → Bool) (x y : α) : (before p x y || before p y x) = true := by
  cases hx : p x <;> cases hy : p y <;> simp [before, hx, hy]

/-- In a sorted list, what has the property comes first. -/
theorem filter_append_filter_of_pairwise {p : α → Bool} {xs : List α}
    (h : xs.Pairwise fun x y => before p x y) : xs.filter p ++ xs.filter (!p ·) = xs := by
  induction xs with
  | nil => rfl
  | cons x xs ih =>
    obtain ⟨hx, hxs⟩ := List.pairwise_cons.1 h
    cases hp : p x with
    | true =>
      rw [List.filter_cons_of_pos hp, List.filter_cons_of_neg (by simp [hp]), List.cons_append,
        ih hxs]
    | false =>
      have hnone : ∀ y ∈ xs, p y = false := fun y hy => by simpa [before, hp] using hx y hy
      rw [List.filter_eq_nil_iff.2, List.nil_append, List.filter_eq_self.2]
      · simpa [hp] using hnone
      · simpa [hp] using hnone

/-- What agrees on a property keeps its order when the list is sorted. -/
theorem filter_mergeSort {p q : α → Bool} {b : Bool} (xs : List α) (h : ∀ x, q x → p x = b) :
    (xs.mergeSort (before p)).filter q = xs.filter q := by
  have hsorted : (xs.filter q).Pairwise fun x y => before p x y := by
    refine List.pairwise_of_forall_mem_list fun x hx y hy => ?_
    rw [before, h x (List.mem_filter.1 hx).2, h y (List.mem_filter.1 hy).2]
    cases b <;> rfl
  have hsub := (List.sublist_mergeSort (before_trans p) (before_total p) hsorted
    List.filter_sublist).filter q
  rw [List.filter_filter] at hsub
  simp only [Bool.and_self] at hsub
  exact (hsub.eq_of_length ((List.mergeSort_perm xs (before p)).filter q).length_eq.symm).symm

/-- What has the property comes first, and otherwise the order stays. -/
theorem mergeSort_before (p : α → Bool) (xs : List α) :
    xs.mergeSort (before p) = xs.filter p ++ xs.filter (!p ·) := by
  have hsorted := List.pairwise_mergeSort (before_trans p) (before_total p) xs
  rw [← filter_append_filter_of_pairwise hsorted, filter_mergeSort (b := true) xs (by simp),
    filter_mergeSort (b := false) xs (by simp)]

/-- **Units are sorted stably.** -/
theorem resolvedFirst_eq_mergeSort (units : List MessageUnit) :
    resolvedFirst units = units.mergeSort resolvedBefore :=
  (mergeSort_before _ units).symm

/-! ## Sorting group by group -/

/-- If elements pass exactly when what they come from passes, it may be asked first. -/
theorem filter_flatMap_of_forall {p : β → Bool} {q : α → Bool} {f : α → List β} {xs : List α}
    (h : ∀ x ∈ xs, ∀ y ∈ f x, p y = q x) : (xs.flatMap f).filter p = (xs.filter q).flatMap f := by
  induction xs with
  | nil => rfl
  | cons x xs ih =>
    obtain ⟨hx, hxs⟩ := List.forall_mem_cons.1 h
    rw [List.flatMap_cons, List.filter_append, ih hxs]
    cases hq : q x with
    | true =>
      rw [List.filter_cons_of_pos hq, List.flatMap_cons,
        List.filter_eq_self.2 fun y hy => (hx y hy).trans hq]
    | false =>
      have hnone : (f x).filter p = [] :=
        List.filter_eq_nil_iff.2 fun y hy => by simp [hx y hy, hq]
      rw [List.filter_cons_of_neg (by simp [hq]), hnone, List.nil_append]

/-- Sorting what is made group by group comes to the same as sorting the groups. -/
theorem resolvedFirst_flatMap_of_forall {q : α → Bool} {f : α → List MessageUnit} {xs : List α}
    (h : ∀ x ∈ xs, ∀ u ∈ f x, isResolved u.status = q x) :
    resolvedFirst (xs.flatMap f) = (xs.filter q ++ xs.filter (!q ·)).flatMap f := by
  have hother : ∀ x ∈ xs, ∀ u ∈ f x, (!isResolved u.status) = !q x := fun x hx u hu => by
    rw [h x hx u hu]
  rw [resolvedFirst, filter_flatMap_of_forall h, filter_flatMap_of_forall hother,
    List.flatMap_append]

/-- **Elements are grouped, and what is made of the groups is sorted.** If all keys can be found and
can name one, the groups are a stable partition of the elements. Sorting the units that are made of
them, where those of a group are all resolved or none is, is stable and leaves the units of each
group together and in their order. -/
theorem exists_partition_groupBy? {κ : Type} [GroupKey κ] [LawfulGroupKey κ]
    {key? : α → Except Fault κ} {key : α → κ} {xs : List α}
    (hkey : ∀ x ∈ xs, key? x = .ok (key x)) (hkeys : ∀ x ∈ xs, GroupKey.isKey (key x)) :
    ∃ groups, groupBy? key? xs = .ok groups ∧
      IsStablePartition GroupKey.same key xs groups ∧
      ∀ (made : κ × List α → List MessageUnit) (resolved : κ → Bool),
        (∀ g ∈ groups, ∀ u ∈ made g, isResolved u.status = resolved g.1) →
          resolvedFirst (groups.flatMap made) = (groups.flatMap made).mergeSort resolvedBefore ∧
          resolvedFirst (groups.flatMap made) =
            (groups.filter (fun g => resolved g.1)
              ++ groups.filter (fun g => !resolved g.1)).flatMap made :=
  ⟨_, groupBy?_eq_groupBy hkey hkeys, isStablePartition_groupBy hkeys, fun _ _ hmade =>
    ⟨resolvedFirst_eq_mergeSort _, resolvedFirst_flatMap_of_forall hmade⟩⟩

/-- Alerts whose statuses are one, the text for resolved alerts, and true, which is the same key as
one. -/
def mixedStatuses : List Json :=
  [.obj [("status", .int 1), ("id", .str "a")], .obj [("status", .str "resolved")],
    .obj [("status", .bool true), ("id", .str "b")]]

/-- A plain unit for each alert of a group. -/
def unitsOfGroup (g : Json × List Json) : List MessageUnit :=
  g.2.map fun alert => .plain g.1 [alert] []

/-- The first and the last alert are a group, which goes by the key of the first, and it comes
after the resolved alert. -/
theorem exists_partition_groupBy?_mixedStatuses :
    (∀ alert ∈ mixedStatuses, alert.get "status" = .ok (alert.part "status")) ∧
      (∀ alert ∈ mixedStatuses, (alert.part "status").isKey) ∧
      ∃ groups, groupBy? (fun alert => alert.get "status") mixedStatuses = .ok groups ∧
        IsStablePartition Json.sameKey (fun alert => alert.part "status") mixedStatuses groups ∧
        groups = [(.int 1, [mixedStatuses[0], mixedStatuses[2]]),
          (.str "resolved", [mixedStatuses[1]])] ∧
        resolvedFirst (groups.flatMap unitsOfGroup) =
          [.plain (.str "resolved") [mixedStatuses[1]] [], .plain (.int 1) [mixedStatuses[0]] [],
            .plain (.int 1) [mixedStatuses[2]] []] := by
  have hkey : ∀ alert ∈ mixedStatuses, alert.get "status" = .ok (alert.part "status") := by
    simp [mixedStatuses, Json.get_obj_eq]
  have hkeys : ∀ alert ∈ mixedStatuses, (alert.part "status").isKey := by
    simp [mixedStatuses, Json.part, Json.fieldOf?, Json.isKey]
  obtain ⟨groups, hgroups, hpartition, hsorted⟩ := exists_partition_groupBy? hkey hkeys
  have hevaluated : groupBy? (fun alert => alert.get "status") mixedStatuses =
      .ok [(.int 1, [mixedStatuses[0], mixedStatuses[2]]), (.str "resolved", [mixedStatuses[1]])] :=
    rfl
  obtain rfl := Except.ok.inj (hgroups.symm.trans hevaluated)
  refine ⟨hkey, hkeys, _, hgroups, hpartition, rfl,
    (hsorted unitsOfGroup isResolved ?_).2.trans rfl⟩
  intro g _ u hu
  obtain ⟨alert, -, rfl⟩ := List.mem_map.1 hu
  rfl

/-- Alerts whose status is not a number. -/
def unnumberedStatuses : List Json :=
  [.obj [("status", .real .nan), ("id", .str "a")], .obj [("status", .real .nan), ("id", .str "b")]]

/-- **Keys of groups need not be equal to themselves.** Not a number is equal to nothing, and yet it
names a group, so with equality the groups are no partition. -/
theorem not_isStablePartition_equals :
    groupBy? (fun alert => alert.get "status") unnumberedStatuses =
        .ok [(.real .nan, unnumberedStatuses)] ∧
      ¬ IsStablePartition Json.equals (fun alert => alert.part "status") unnumberedStatuses
        [(.real .nan, unnumberedStatuses)] := by
  refine ⟨rfl, fun h => ?_⟩
  have hmembers := h.members_eq _ List.mem_cons_self
  have hnone :
      (unnumberedStatuses.filter fun alert => (alert.part "status").equals (.real .nan)) = [] := rfl
  rw [hnone] at hmembers
  cases hmembers

end AlertBridge.Slack
