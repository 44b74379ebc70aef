import AlertBridge.Proofs.Alert.Grouping
import AlertBridge.Proofs.Fault.Sequence
import AlertBridge.Proofs.Json.Key

/-!
# Groups are a stable partition

Elements are grouped by keys of any type in which to name the same group is an equivalence. The
groups hold the elements and nothing else, each group has exactly the elements of its key in the
order in which they came, and the groups stand in the order in which their keys first appear. A
group goes by the key of its first element, which matters where different values name the same
group, such as one and true.

This is said without classes of keys. The proof goes through them: a key is of the class of all keys
that are the same, and the groups with their classes are known (`labels_groupBy`).

Values of documents are such keys. They name the same group if they are identical or equal
(`Json.sameKey_iff_eq_or_equals`).

## Main definitions

* `LawfulGroupKey`: to name the same group is an equivalence
* `IsStablePartition`: the groups that elements should have

## Main results

* `isStablePartition_groupBy`: the groups that elements have
-/

namespace AlertBridge

open GroupKey (isKey same)

/-- Among the values that name groups, to name the same one is an equivalence. -/
class LawfulGroupKey (κ : Type) [GroupKey κ] : Prop where
  same_refl {k : κ} : isKey k → same k k
  same_symm {k k' : κ} : isKey k → isKey k' → same k k' → same k' k
  same_trans {k k' k'' : κ} : isKey k → isKey k' → isKey k'' → same k k' → same k' k'' → same k k''

open LawfulGroupKey

instance : LawfulGroupKey Json where
  same_refl hk := (Json.sameKey_iff hk hk).2 rfl
  same_symm hk hk' h := (Json.sameKey_iff hk' hk).2 ((Json.sameKey_iff hk hk').1 h).symm
  same_trans hk hk' hk'' h h' := (Json.sameKey_iff hk hk'').2
    (((Json.sameKey_iff hk hk').1 h).trans ((Json.sameKey_iff hk' hk'').1 h'))

variable {α κ : Type}

/-- The number of elements in front of the first one that has the key `k`. -/
def firstPlace (same : κ → κ → Bool) (key : α → κ) (xs : List α) (k : κ) : Nat :=
  xs.findIdx fun x => same (key x) k

/-- The groups of elements by their keys, where it is given which keys are the same. -/
structure IsStablePartition (same : κ → κ → Bool) (key : α → κ) (xs : List α)
    (groups : List (κ × List α)) : Prop where
  distinct : groups.Pairwise fun g g' => same g.1 g'.1 = false
  /-- Groups stand in the order in which their keys first appear. -/
  ordered : groups.Pairwise fun g g' => firstPlace same key xs g.1 < firstPlace same key xs g'.1
  members_eq : ∀ g ∈ groups, g.2 = xs.filter fun x => same (key x) g.1
  ne_nil : ∀ g ∈ groups, g.2 ≠ []
  /-- A group goes by the key of its first element. -/
  key_head : ∀ g ∈ groups, g.2.head?.map key = some g.1
  perm : (groups.flatMap Prod.snd).Perm xs

/-- Elements with their keys. -/
def withKeys (key : α → κ) (xs : List α) : List (κ × α) := xs.map fun x => (key x, x)

variable {key : α → κ} {xs : List α} {groups : List (κ × List α)}

/-! ## Elements with their keys -/

theorem map_fst_withKeys : (withKeys key xs).map Prod.fst = xs.map key := by
  rw [withKeys, List.map_map]
  rfl

theorem map_snd_withKeys : (withKeys key xs).map Prod.snd = xs := by
  rw [withKeys, List.map_map]
  exact List.map_id _

variable [GroupKey κ]

/-- Elements can be grouped if all of their keys can be found and can name one. -/
theorem groupBy?_eq_groupBy {key? : α → Except Fault κ}
    (hkey : ∀ x ∈ xs, key? x = .ok (key x)) (hkeys : ∀ x ∈ xs, isKey (key x)) :
    groupBy? key? xs = .ok (groupBy (withKeys key xs)) := by
  have hkeyed : ∀ x ∈ xs, keyed? key? x = .ok (key x, x) := fun x hx => by
    rw [keyed?, bind_of_ok (hkey x hx), if_pos (hkeys x hx)]
    rfl
  rw [groupBy?, mapM_eq_ok_map hkeyed]
  rfl

/-- The groups with the classes of their keys. -/
theorem labels_groupBy_withKeys {β : Type} [BEq β] [LawfulBEq β] {e : κ → β}
    (h : Classifies e (xs.map key)) :
    labels e (groupBy (withKeys key xs)) =
      (dedup (xs.map fun x => e (key x))).map fun b => (b, xs.filter fun x => e (key x) == b) := by
  rw [← map_fst_withKeys] at h
  rw [labels_groupBy h, withKeys, List.map_map]
  refine List.map_congr_left fun b _ => ?_
  rw [membersOf, List.filter_map, List.map_map]
  exact congrArg (Prod.mk b) (List.map_id _)

/-! ## The keys of groups -/

/-- An element added behind others leaves the groups with the keys of their first elements. -/
theorem key_head_addToGroup (x : α) (h : ∀ g ∈ groups, g.2.head?.map key = some g.1) :
    ∀ g ∈ addToGroup (key x) x groups, g.2.head?.map key = some g.1 := by
  induction groups with
  | nil => simp [addToGroup]
  | cons first groups ih =>
    obtain ⟨k, ys⟩ := first
    obtain ⟨hfirst, hrest⟩ := List.forall_mem_cons.1 h
    rw [addToGroup]
    split
    · refine List.forall_mem_cons.2 ⟨?_, hrest⟩
      cases ys with
      | nil => cases hfirst
      | cons y ys => exact hfirst
    · exact List.forall_mem_cons.2 ⟨hfirst, ih hrest⟩

theorem key_head_groupBy : ∀ g ∈ groupBy (withKeys key xs), g.2.head?.map key = some g.1 := by
  induction xs using List.reverseRecOn with
  | nil => simp [withKeys, groupBy]
  | append_singleton xs x ih =>
    have hsplit : withKeys key (xs ++ [x]) = withKeys key xs ++ [(key x, x)] := by
      simp [withKeys]
    rw [hsplit, groupBy_append_singleton]
    exact key_head_addToGroup x ih

theorem isKey_of_mem_groupBy (hkeys : ∀ x ∈ xs, isKey (key x)) :
    ∀ g ∈ groupBy (withKeys key xs), isKey g.1 := by
  intro g hg
  have hmem := mem_keys_of_mem_groupBy hg
  rw [map_fst_withKeys] at hmem
  obtain ⟨x, hx, hkey⟩ := List.mem_map.1 hmem
  exact hkey ▸ hkeys x hx

/-! ## Classes of keys -/

variable [LawfulGroupKey κ]

/-- Keys that name the same group. -/
def sameGroup (κ : Type) [GroupKey κ] [LawfulGroupKey κ] : Setoid {k : κ // isKey k} where
  r k k' := same k.1 k'.1
  iseqv := ⟨fun k => same_refl k.2, fun {k k'} => same_symm k.2 k'.2,
    fun {k k' k''} => same_trans k.2 k'.2 k''.2⟩

instance : DecidableRel (sameGroup κ).r := fun k k' => inferInstanceAs (Decidable (same k.1 k'.1))

/-- The class of a value, if it can name a group. -/
def keyClassOf (k : κ) : Option (Quotient (sameGroup κ)) :=
  if h : isKey k then some (Quotient.mk _ ⟨k, h⟩) else none

theorem same_iff_keyClassOf_eq {k k' : κ} (hk : isKey k) (hk' : isKey k') :
    same k k' ↔ keyClassOf k = keyClassOf k' := by
  rw [keyClassOf, keyClassOf, dif_pos hk, dif_pos hk', Option.some.injEq]
  exact (Quotient.eq (r := sameGroup κ) (x := ⟨k, hk⟩) (y := ⟨k', hk'⟩)).symm

theorem findIdx_congr {p q : α → Bool} (h : ∀ x ∈ xs, p x = q x) :
    xs.findIdx p = xs.findIdx q := by
  induction xs with
  | nil => rfl
  | cons x xs ih =>
    obtain ⟨hx, hxs⟩ := List.forall_mem_cons.1 h
    rw [List.findIdx_cons, List.findIdx_cons, hx, ih hxs]

section

variable (hkeys : ∀ x ∈ xs, isKey (key x))

include hkeys

/-- Keys are the same exactly if they are of the same class. -/
theorem classifies_map_keyClassOf : Classifies keyClassOf (xs.map key) := by
  intro k hk k' hk'
  obtain ⟨x, hx, rfl⟩ := List.mem_map.1 hk
  obtain ⟨x', hx', rfl⟩ := List.mem_map.1 hk'
  exact same_iff_keyClassOf_eq (hkeys x hx) (hkeys x' hx')

theorem map_keyClassOf_groupBy :
    (groupBy (withKeys key xs)).map (fun g => keyClassOf g.1) =
      dedup (xs.map fun x => keyClassOf (key x)) := by
  have h := congrArg (List.map Prod.fst) (labels_groupBy_withKeys (classifies_map_keyClassOf hkeys))
  simpa [labels, Function.comp_def] using h

/-- An element is of the class of a group exactly if it has the group's key. -/
theorem beq_keyClassOf_eq_same {g : κ × List α} (hg : g ∈ groupBy (withKeys key xs)) :
    ∀ x ∈ xs, (keyClassOf (key x) == keyClassOf g.1) = same (key x) g.1 := by
  intro x hx
  rw [Bool.eq_iff_iff, beq_iff_eq]
  exact (same_iff_keyClassOf_eq (hkeys x hx) (isKey_of_mem_groupBy hkeys g hg)).symm

theorem firstPlace_eq_idxOf {g : κ × List α} (hg : g ∈ groupBy (withKeys key xs)) :
    firstPlace same key xs g.1 = (xs.map fun x => keyClassOf (key x)).idxOf (keyClassOf g.1) := by
  rw [List.idxOf, List.findIdx_map, firstPlace]
  exact findIdx_congr fun x hx => (beq_keyClassOf_eq_same hkeys hg x hx).symm

/-! ## The partition -/

/-- **The groups of elements are a stable partition of them.** -/
theorem isStablePartition_groupBy :
    IsStablePartition same key xs (groupBy (withKeys key xs)) where
  distinct := by
    have hnodup := nodup_dedup (xs.map fun x => keyClassOf (key x))
    rw [← map_keyClassOf_groupBy hkeys, List.Nodup, List.pairwise_map] at hnodup
    refine hnodup.imp_of_mem fun {g g'} hg hg' hne => ?_
    rw [← Bool.not_eq_true, same_iff_keyClassOf_eq (isKey_of_mem_groupBy hkeys g hg)
      (isKey_of_mem_groupBy hkeys g' hg')]
    exact hne
  ordered := by
    have hordered := idxOf_lt_of_pairwise_dedup (xs.map fun x => keyClassOf (key x))
    rw [← map_keyClassOf_groupBy hkeys, List.pairwise_map] at hordered
    refine hordered.imp_of_mem fun {g g'} hg hg' hlt => ?_
    rwa [firstPlace_eq_idxOf hkeys hg, firstPlace_eq_idxOf hkeys hg']
  members_eq g hg := by
    have hlabel : (keyClassOf g.1, g.2) ∈ labels keyClassOf (groupBy (withKeys key xs)) :=
      List.mem_map_of_mem hg
    rw [labels_groupBy_withKeys (classifies_map_keyClassOf hkeys)] at hlabel
    obtain ⟨b, -, hb⟩ := List.mem_map.1 hlabel
    obtain ⟨rfl, hmembers⟩ := Prod.mk.inj hb
    rw [← hmembers]
    exact List.filter_congr (beq_keyClassOf_eq_same hkeys hg)
  ne_nil := ne_nil_of_mem_groupBy
  key_head := key_head_groupBy
  perm := by simpa only [map_snd_withKeys] using perm_groupBy (withKeys key xs)

end

end AlertBridge
