import AlertBridge.Proofs.Slack.Packing
import Mathlib.Order.Bounds.Basic

/-!
# As few messages as possible

Packing goes through the units once and puts each of them into the open message as long as there is
room. So no message could take the first unit of the next one. Whatever part of a message's units
stand one after the other could share a message too, and this is enough: wherever another cut of
the same units ends a message, the packing has come at least as far with as many messages.

## Main definitions

* `IsGreedy`: no piece of a cut could take the element behind it
* `FitsMessage`: units that one message can hold
* `IsSplit`: a cut of units into messages

## Main results

* `IsGreedy.length_le`: a greedy cut has the fewest pieces
* `isLeast_length_packUnits`: packing gives the fewest messages
-/

namespace AlertBridge

/-! ## Greedy cuts -/

section Greedy

variable {α : Type} {P : List α → Prop} {pieces groups : List (List α)}

/-- No piece is empty, and none would still have the property with the element behind it. -/
inductive IsGreedy (P : List α → Prop) : List (List α) → Prop where
  | nil : IsGreedy P []
  | cons {p : List α} {rest : List (List α)} (hne : p ≠ [])
      (hfull : ∀ x ∈ rest.flatten.head?, ¬ P (p ++ [x])) (hrest : IsGreedy P rest) :
      IsGreedy P (p :: rest)

/-- **A greedy cut has the fewest pieces**, if parts of what has the property have it too. The other
cut may even begin earlier. -/
theorem IsGreedy.length_le (hclosed : ∀ {xs ys : List α}, xs <:+: ys → P ys → P xs)
    (hpieces : IsGreedy P pieces) (hgroups : ∀ g ∈ groups, P g)
    (hsuffix : pieces.flatten <:+ groups.flatten) : pieces.length ≤ groups.length := by
  induction hpieces generalizing groups with
  | nil => exact Nat.zero_le _
  | @cons p rest hne hfull _ ih =>
    cases groups with
    | nil =>
      have hnil : (p :: rest).flatten = [] := List.suffix_nil.1 hsuffix
      rw [List.flatten_cons, List.append_eq_nil_iff] at hnil
      exact absurd hnil.1 hne
    | cons g groups =>
      obtain ⟨hg, hgroups⟩ := List.forall_mem_cons.1 hgroups
      obtain ⟨before, hbefore⟩ := hsuffix
      rw [List.flatten_cons, List.flatten_cons, ← List.append_assoc] at hbefore
      refine Nat.succ_le_succ (ih hgroups ?_)
      -- What follows the first pieces are two ends of one list. If the other cut had come further
      -- than this one, its piece would contain `p` with the element behind it.
      rcases List.append_eq_append_iff.1 hbefore with ⟨mid, rfl, hmid⟩ | ⟨mid, hmid, hrest⟩
      · cases mid with
        | nil => exact ⟨[], hmid⟩
        | cons x mid =>
          have hpart : p ++ [x] <:+: before ++ p ++ x :: mid := ⟨before, mid, by simp⟩
          exact absurd (hclosed hpart hg) (hfull x (by simp [hmid]))
      · exact ⟨mid, hrest.symm⟩

end Greedy

namespace Slack

/-! ## Units that one message can hold -/

/-- Plain units that can share a message: at most so many, and with no more than 50 blocks, of which
one makes the mentions if there are any. -/
structure Shares (limit : Int) (group : List MessageUnit) : Prop where
  plain : ∀ u ∈ group, u.isTable = false
  length_le : group.length ≤ limit
  blocks_le : (group.flatMap MessageUnit.blocks).length +
    (if ∀ u ∈ group, u.mentions = [] then 0 else 1) ≤ 50

/-- Units that one message can hold: a table, or plain units that can share a message. -/
def FitsMessage (limit : Int) (group : List MessageUnit) : Prop :=
  (∃ status blocks, group = [.table status blocks]) ∨ Shares limit group

/-- The units are cut into groups that a message can hold. -/
structure IsSplit (limit : Int) (units : List MessageUnit) (groups : List (List MessageUnit)) :
    Prop where
  flatten_eq : groups.flatten = units
  fits : ∀ group ∈ groups, FitsMessage limit group

/-- A plain unit has room in a message of its own. -/
def FitsAlone (u : MessageUnit) : Prop :=
  u.isTable = false → u.blocks.length + (if u.mentions = [] then 0 else 1) ≤ 50

variable {limit : Int} {unit : MessageUnit} {group part units batch : List MessageUnit}

/-- Part of the units that share a message can share one. -/
theorem Shares.of_infix (hpart : part <:+: group) (h : Shares limit group) :
    Shares limit part := by
  obtain ⟨before, after, rfl⟩ := hpart
  have hmem : ∀ u ∈ part, u ∈ before ++ part ++ after := fun u hu => by simp [hu]
  refine ⟨fun u hu => h.plain u (hmem u hu), ?_, ?_⟩
  · have hlength := h.length_le
    simp only [List.length_append] at hlength
    omega
  · have hblocks := h.blocks_le
    simp only [List.flatMap_append, List.length_append] at hblocks
    by_cases hsilent : ∀ u ∈ part, u.mentions = []
    · rw [if_pos hsilent]
      omega
    · have hmention : ¬ ∀ u ∈ before ++ part ++ after, u.mentions = [] := fun h =>
        hsilent fun u hu => h u (hmem u hu)
      rw [if_neg hsilent]
      rw [if_neg hmention] at hblocks
      omega

theorem FitsMessage.of_infix (hpart : part <:+: group) (h : FitsMessage limit group)
    (hlimit : 0 ≤ limit) : FitsMessage limit part := by
  rcases h with ⟨status, blocks, rfl⟩ | h
  · rcases List.sublist_singleton.1 hpart.sublist with rfl | rfl
    · exact .inr ⟨by simp, by simpa using hlimit, by simp⟩
    · exact .inl ⟨status, blocks, rfl⟩
  · exact .inr (h.of_infix hpart)

/-- What the packing counts of units are their blocks, and one for all mentions. -/
theorem blockCount_eq (group : List MessageUnit) :
    blockCount group = (group.flatMap MessageUnit.blocks).length +
      (if ∀ u ∈ group, u.mentions = [] then 0 else 1) := by
  have hsilent : (group.flatMap MessageUnit.mentions).isEmpty ↔ ∀ u ∈ group, u.mentions = [] := by
    rw [List.isEmpty_iff, List.flatMap_eq_nil_iff]
  rw [blockCount, if_congr hsilent rfl rfl]

/-- A unit fits exactly if it can share a message with those that are there. -/
theorem shares_snoc_iff :
    Shares limit (batch ++ [unit]) ↔
      (∀ u ∈ batch ++ [unit], u.isTable = false) ∧ fits limit batch unit := by
  have hlength : (batch ++ [unit]).length = batch.length + 1 := by
    rw [List.length_append, List.length_singleton]
  rw [fits_iff, blockCount_eq]
  constructor
  · intro h
    have hle := h.length_le
    exact ⟨h.plain, by omega, h.blocks_le⟩
  · rintro ⟨hplain, hlt, hblocks⟩
    exact ⟨hplain, by omega, hblocks⟩

theorem shares_singleton (hlimit : 1 ≤ limit) (hplain : unit.isTable = false)
    (hunit : FitsAlone unit) : Shares limit [unit] := by
  have hblocks := hunit hplain
  refine ⟨by simpa using hplain, by simpa using hlimit, ?_⟩
  by_cases hsilent : unit.mentions = []
  · simpa [hsilent] using hblocks
  · simpa [hsilent] using hblocks

/-! ## The pieces of the packing -/

theorem not_shares_of_table {status : Json} {blocks : List Json}
    (htable : .table status blocks ∈ group) : ¬ Shares limit group := by
  intro h
  cases h.plain _ htable

/-- More than one unit is in no message but those of plain units. -/
theorem not_fitsMessage_snoc (hne : batch ≠ []) (hshares : ¬ Shares limit (batch ++ [unit])) :
    ¬ FitsMessage limit (batch ++ [unit]) := by
  rintro (⟨status, blocks, htable⟩ | h)
  · have hlength := congrArg List.length htable
    rw [List.length_append, List.length_singleton, List.length_singleton] at hlength
    exact hne (List.length_eq_zero_iff.1 (by omega))
  · exact hshares h

/-- No piece can take the unit behind it, if the open one has units. -/
theorem isGreedy_batchesFrom (hlimit : 1 ≤ limit) (hunits : ∀ u ∈ units, FitsAlone u)
    {open_ : Option (List MessageUnit)} (hopen : ∀ b ∈ open_, b ≠ []) :
    IsGreedy (FitsMessage limit) (batchesFrom limit open_ units) := by
  fun_induction batchesFrom limit open_ units with
  | case1 open_ =>
    cases open_ with
    | none => exact .nil
    | some b => exact .cons (hopen b rfl) (by simp) .nil
  | case2 open_ status blocks rest ih =>
    have hrest := ih (fun u hu => hunits u (List.mem_cons_of_mem _ hu)) (by simp)
    have htable : IsGreedy (FitsMessage limit)
        ([.table status blocks] :: batchesFrom limit none rest) := by
      refine .cons (List.cons_ne_nil _ _) (fun u _ => ?_) hrest
      exact not_fitsMessage_snoc (List.cons_ne_nil _ _) (not_shares_of_table List.mem_cons_self)
    cases open_ with
    | none => exact htable
    | some b =>
      refine .cons (hopen b rfl) (fun u hu => ?_) htable
      obtain rfl : .table status blocks = u := by simpa using hu
      exact not_fitsMessage_snoc (hopen b rfl) (not_shares_of_table List.mem_concat_self)
  | case3 open_ unit rest hnot units hfits ih =>
    exact ih (fun u hu => hunits u (List.mem_cons_of_mem _ hu)) (by simp)
  | case4 open_ unit rest hnot units hfits ih =>
    have hplain : unit.isTable = false := isTable_eq_false_of_ne hnot
    have hrest := ih (fun u hu => hunits u (List.mem_cons_of_mem _ hu)) (by simp)
    have hshares : ¬ Shares limit (units ++ [unit]) := fun h => hfits (shares_snoc_iff.1 h).2
    have hne : units ≠ [] := by
      intro hnil
      rw [hnil] at hshares
      exact hshares (shares_singleton hlimit hplain (hunits unit List.mem_cons_self))
    refine .cons hne (fun u hu => ?_) hrest
    obtain rfl : unit = u := by simpa [flatten_batchesFrom] using hu
    exact not_fitsMessage_snoc hne hshares

/-- The pieces of the packing are such a cut. -/
theorem isSplit_batches (hlimit : 1 ≤ limit) (hunits : ∀ u ∈ units, FitsAlone u) :
    IsSplit limit units (batches limit units) where
  flatten_eq := flatten_batches limit units
  fits := by
    refine table_or_of_mem_batchesFrom (fun u hu hplain => ?_)
      (fun u _ hplain batch hbatch hfits => ?_) (by simp)
    · have hshares : Shares limit ([] ++ [u]) := shares_singleton hlimit hplain (hunits u hu)
      exact ⟨(shares_snoc_iff.1 hshares).2, hshares⟩
    · refine shares_snoc_iff.2 ⟨?_, hfits⟩
      exact List.forall_mem_append.2 ⟨hbatch.plain, by simpa using hplain⟩

/-- **Packing gives the fewest messages.** Units of which each plain one has room in a message of
its own can be cut into as many groups as there are messages, one for each of them, and into no
fewer. -/
theorem isLeast_length_packUnits (hlimit : 1 ≤ limit) (hunits : ∀ u ∈ units, FitsAlone u) :
    IsLeast {n | ∃ groups, IsSplit limit units groups ∧ groups.length = n}
      (packUnits limit units).length := by
  rw [packUnits, List.length_map]
  refine ⟨⟨_, isSplit_batches hlimit hunits, rfl⟩, ?_⟩
  rintro n ⟨groups, hsplit, rfl⟩
  have hgreedy : IsGreedy (FitsMessage limit) (batches limit units) :=
    isGreedy_batchesFrom hlimit hunits (by simp)
  have hsame : (batches limit units).flatten = groups.flatten := by
    rw [flatten_batches, hsplit.flatten_eq]
  exact hgreedy.length_le (fun hpart h => h.of_infix hpart (by omega)) hsplit.fits
    (hsame ▸ List.suffix_rfl)

/-- Units at the bounds: one that leaves room only for its mentions, one that has nothing but a
mention, and one that fills a message as it makes none. -/
def crowdedUnits : List MessageUnit :=
  [.plain (.str "firing") (List.replicate 49 .null) ["<@a>"],
    .plain (.str "firing") [.null] [],
    .plain (.str "firing") [] ["<@b>"],
    .table (.str "firing") [.null, .null],
    .plain (.str "firing") (List.replicate 50 .null) []]

/-- They need four messages of at most two units. -/
theorem isLeast_length_packUnits_crowdedUnits :
    (1 : Int) ≤ 2 ∧ (∀ u ∈ crowdedUnits, FitsAlone u) ∧ (packUnits 2 crowdedUnits).length = 4 ∧
      IsLeast {n | ∃ groups, IsSplit 2 crowdedUnits groups ∧ groups.length = n} 4 := by
  have hlimit : (1 : Int) ≤ 2 := by decide
  have hunits : ∀ u ∈ crowdedUnits, FitsAlone u := by
    simp [crowdedUnits, FitsAlone, MessageUnit.isTable, MessageUnit.blocks, MessageUnit.mentions]
  have hlength : (packUnits 2 crowdedUnits).length = 4 := by decide +kernel
  exact ⟨hlimit, hunits, hlength, hlength ▸ isLeast_length_packUnits hlimit hunits⟩

end Slack

end AlertBridge
