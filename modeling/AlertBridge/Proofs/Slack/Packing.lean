import AlertBridge.Proofs.FirstOccurrence
import AlertBridge.Slack.Packing
import Mathlib.Data.List.Forall2

/-!
# What the messages of packed units hold

The units are cut into groups, one for each message. A table is a group of its own and its blocks
are the message. The other groups are made of plain units, no more than the limit, and their
message has the blocks of all units, then one section for all mentions if there are any.

The invariant of the packing is `Batch`: what it says of the open piece is kept by adding a unit
that fits, and holds of a unit that starts a piece because a plain unit has at most 49 blocks, so
that there is room for the section that makes its mentions.

Main statement: `exists_groups_packUnits`.
-/

namespace AlertBridge.Slack

/-! ## The message of a group -/

/-- The section that makes mentions. -/
def mentionBlock (mentions : List String) : Json :=
  .obj [("type", .str "section"),
    ("text", .obj [("type", .str "mrkdwn"), ("text", .str (" ".intercalate mentions))])]

/-- What a message of plain units holds. -/
structure PlainMessage (limit : Int) (group : List MessageUnit) (message : List Json) : Prop where
  plain : ∀ u ∈ group, u.isTable = false
  one_le_length : 1 ≤ group.length
  length_le_limit : group.length ≤ limit
  of_silent : (∀ u ∈ group, u.mentions = []) → message = group.flatMap MessageUnit.blocks
  of_mention : (∃ u ∈ group, u.mentions ≠ []) →
    ∃ mentions, FirstOccurrences (group.flatMap MessageUnit.mentions) mentions ∧
      message = group.flatMap MessageUnit.blocks ++ [mentionBlock mentions]
  length_le_fifty : message.length ≤ 50

/-- What a message holds: the blocks of one table, or those of plain units. -/
def IsMessage (limit : Int) (group : List MessageUnit) (message : List Json) : Prop :=
  (∃ status, group = [.table status message]) ∨ PlainMessage limit group message

/-- A unit that can be in a message with others: it leaves room for a block that makes mentions,
and none of its mentions is empty. -/
def Packable (u : MessageUnit) : Prop :=
  u.isTable = false → u.blocks.length ≤ 49 ∧ ∀ m ∈ u.mentions, m ≠ ""

/-! ## The section of the mentions -/

theorem joinWith_eq_intercalate (separator : String) (parts : List String) :
    joinWith separator parts = separator.intercalate parts := by
  fun_induction joinWith separator parts with
  | case1 => rfl
  | case2 part => simp
  | case3 part parts h ih =>
    obtain ⟨next, rest, rfl⟩ := List.exists_cons_of_ne_nil h
    rw [ih, String.intercalate_cons_cons]

theorem joinWith_ne_empty {separator : String} {parts : List String} (hne : parts ≠ [])
    (h : ∀ part ∈ parts, part ≠ "") : joinWith separator parts ≠ "" := by
  fun_cases joinWith separator parts with
  | case1 => exact absurd rfl hne
  | case2 part => exact h part List.mem_cons_self
  | case3 part parts =>
    have hpart : part ≠ "" := h part List.mem_cons_self
    simp [String.append_eq_empty_iff, hpart]

theorem mentionBlocks_of_ne_nil {mentions : List String} (hne : mentions ≠ [])
    (h : ∀ m ∈ mentions, m ≠ "") : mentionBlocks mentions = [mentionBlock mentions] := by
  have hjoin : " ".intercalate mentions ≠ "" := by
    rw [← joinWith_eq_intercalate]
    exact joinWith_ne_empty hne h
  simp [mentionBlocks, hne, textSection?, sectionBlock?, Json.truthy, joinWith_eq_intercalate,
    hjoin, mentionBlock, Schema.typed, Schema.textObject]

/-- The message of units ends with one block for their mentions, if they have any. -/
theorem mentionBlocks_dedup_of_ne_nil {mentions : List String} (hne : mentions ≠ [])
    (h : ∀ m ∈ mentions, m ≠ "") :
    mentionBlocks (dedup mentions) = [mentionBlock (dedup mentions)] :=
  mentionBlocks_of_ne_nil (by simpa using hne) fun m hm => h m (mem_dedup.1 hm)

theorem length_mentionBlocks (mentions : List String) :
    (mentionBlocks mentions).length = if mentions.isEmpty then 0 else 1 := by
  unfold mentionBlocks
  split <;> rfl

/-- The blocks of a message are as many as the packing counts. -/
theorem length_batchBlocks (units : List MessageUnit) :
    (batchBlocks units).length = blockCount units := by
  have hempty (mentions : List String) : (dedup mentions).isEmpty = mentions.isEmpty := by
    cases mentions <;> rfl
  rw [batchBlocks, blockCount, List.length_append, length_mentionBlocks, hempty]

/-! ## The pieces -/

theorem isTable_eq_false_of_ne {unit : MessageUnit}
    (h : ∀ status blocks, unit = .table status blocks → False) : unit.isTable = false := by
  cases unit with
  | table status blocks => exact (h status blocks rfl).elim
  | plain => rfl

theorem fits_iff {limit : Int} {batch : List MessageUnit} {unit : MessageUnit} :
    fits limit batch unit ↔ batch.length < limit ∧ blockCount (batch ++ [unit]) ≤ 50 := by
  simp only [fits, Bool.and_eq_true, decide_eq_true_eq]
  rfl

/-- Plain units that share a message. -/
structure Batch (limit : Int) (units : List MessageUnit) : Prop where
  plain : ∀ u ∈ units, u.isTable = false
  nonempty_mentions : ∀ u ∈ units, ∀ m ∈ u.mentions, m ≠ ""
  one_le_length : 1 ≤ units.length
  length_le_limit : units.length ≤ limit
  blockCount_le : blockCount units ≤ 50

namespace Batch

variable {limit : Int} {units : List MessageUnit} {unit : MessageUnit}

/-- A plain unit can start a piece: its blocks and the one of its mentions are at most 50. -/
theorem singleton (hlimit : 1 ≤ limit) (hplain : unit.isTable = false) (h : Packable unit) :
    Batch limit [unit] := by
  obtain ⟨hblocks, hmentions⟩ := h hplain
  refine ⟨by simpa using hplain, by simpa using hmentions, by simp, by simpa using hlimit, ?_⟩
  simp only [blockCount, List.flatMap_cons, List.flatMap_nil, List.append_nil]
  split <;> omega

/-- A piece stays one when a unit joins that fits. -/
theorem snoc (hbatch : Batch limit units) (hplain : unit.isTable = false) (h : Packable unit)
    (hfits : fits limit units unit) : Batch limit (units ++ [unit]) := by
  obtain ⟨-, hmentions⟩ := h hplain
  obtain ⟨hroom, hcount⟩ := fits_iff.1 hfits
  refine ⟨?_, ?_, by simp, by simp; omega, hcount⟩
  · intro u hu
    rcases List.mem_append.1 hu with hu | hu
    · exact hbatch.plain u hu
    · exact List.mem_singleton.1 hu ▸ hplain
  · intro u hu
    rcases List.mem_append.1 hu with hu | hu
    · exact hbatch.nonempty_mentions u hu
    · exact List.mem_singleton.1 hu ▸ hmentions

/-- A plain unit fits where no piece is open. -/
theorem fits_nil (hlimit : 1 ≤ limit) (hplain : unit.isTable = false) (h : Packable unit) :
    fits limit [] unit :=
  fits_iff.2 ⟨by simp; omega, (singleton hlimit hplain h).blockCount_le⟩

/-- The message of a piece. -/
theorem plainMessage (hbatch : Batch limit units) :
    PlainMessage limit units (batchBlocks units) where
  plain := hbatch.plain
  one_le_length := hbatch.one_le_length
  length_le_limit := hbatch.length_le_limit
  of_silent hsilent := by
    have hnone : units.flatMap MessageUnit.mentions = [] := by simpa using hsilent
    simp [batchBlocks, hnone, dedup, mentionBlocks]
  of_mention hmention := by
    have hne : units.flatMap MessageUnit.mentions ≠ [] := by simpa using hmention
    refine ⟨_, firstOccurrences_dedup _, ?_⟩
    rw [batchBlocks, mentionBlocks_dedup_of_ne_nil hne]
    intro m hm
    obtain ⟨u, hu, hm⟩ := List.mem_flatMap.1 hm
    exact hbatch.nonempty_mentions u hu m hm
  length_le_fifty := by
    rw [length_batchBlocks]
    exact hbatch.blockCount_le

end Batch

/-- A piece: one table, or plain units that share a message. -/
def IsPiece (limit : Int) (piece : List MessageUnit) : Prop :=
  (∃ status blocks, piece = [.table status blocks]) ∨ Batch limit piece

/-- The invariant of the packing. Every piece that is not a table has a property if each plain unit
has it alone and has room alone, and if it is kept when a unit joins that fits. A table ends the
open piece, a unit that fits joins it or starts one, and one that does not fit ends it and starts
another. -/
theorem table_or_of_mem_batchesFrom {limit : Int} {Q : List MessageUnit → Prop}
    {units : List MessageUnit}
    (hstart : ∀ u ∈ units, u.isTable = false → fits limit [] u ∧ Q [u])
    (hjoin : ∀ u ∈ units, u.isTable = false → ∀ b, Q b → fits limit b u → Q (b ++ [u]))
    {batch : Option (List MessageUnit)} (hbatch : ∀ b ∈ batch, Q b) :
    ∀ piece ∈ batchesFrom limit batch units,
      (∃ status blocks, piece = [.table status blocks]) ∨ Q piece := by
  fun_induction batchesFrom limit batch units with
  | case1 batch =>
    intro piece hpiece
    exact .inr (hbatch piece (by simpa using hpiece))
  | case2 batch status blocks rest ih =>
    have ih := ih (fun u hu => hstart u (List.mem_cons_of_mem _ hu))
      (fun u hu => hjoin u (List.mem_cons_of_mem _ hu)) (by simp)
    intro piece hpiece
    rcases List.mem_append.1 hpiece with hpiece | hpiece
    · exact .inr (hbatch piece (by simpa using hpiece))
    rcases List.mem_cons.1 hpiece with rfl | hpiece
    · exact .inl ⟨status, blocks, rfl⟩
    · exact ih piece hpiece
  | case3 batch unit rest hnot units hfits ih =>
    have hplain : unit.isTable = false := isTable_eq_false_of_ne hnot
    refine ih (fun u hu => hstart u (List.mem_cons_of_mem _ hu))
      (fun u hu => hjoin u (List.mem_cons_of_mem _ hu)) fun b hb => ?_
    obtain rfl : units ++ [unit] = b := by simpa using hb
    cases batch with
    | none => exact (hstart unit List.mem_cons_self hplain).2
    | some open_ => exact hjoin unit List.mem_cons_self hplain open_ (hbatch open_ rfl) hfits
  | case4 batch unit rest hnot units hfits ih =>
    have hplain : unit.isTable = false := isTable_eq_false_of_ne hnot
    obtain ⟨hroom, hunit⟩ := hstart unit List.mem_cons_self hplain
    have ih := ih (fun u hu => hstart u (List.mem_cons_of_mem _ hu))
      (fun u hu => hjoin u (List.mem_cons_of_mem _ hu)) (by simpa using hunit)
    intro piece hpiece
    rcases List.mem_cons.1 hpiece with rfl | hpiece
    · cases batch with
      | none => exact absurd hroom hfits
      | some open_ => exact .inr (hbatch open_ rfl)
    · exact ih piece hpiece

/-- As long as the open piece is one, all pieces are. -/
theorem isPiece_of_mem_batchesFrom {limit : Int} (hlimit : 1 ≤ limit)
    {units : List MessageUnit} (hunits : ∀ u ∈ units, Packable u)
    {batch : Option (List MessageUnit)} (hbatch : ∀ b ∈ batch, Batch limit b) :
    ∀ piece ∈ batchesFrom limit batch units, IsPiece limit piece := by
  refine table_or_of_mem_batchesFrom (fun u hu hplain => ?_) (fun u hu hplain b hb hfits => ?_)
    hbatch
  · exact ⟨Batch.fits_nil hlimit hplain (hunits u hu), .singleton hlimit hplain (hunits u hu)⟩
  · exact hb.snoc hplain (hunits u hu) hfits

/-- The messages are those of consecutive groups of units. -/
theorem exists_groups_packUnits {limit : Int} (hlimit : 1 ≤ limit) {units : List MessageUnit}
    (hunits : ∀ u ∈ units, Packable u) :
    ∃ groups : List (List MessageUnit), groups.flatten = units ∧
      List.Forall₂ (IsMessage limit) groups (packUnits limit units) := by
  refine ⟨batches limit units, flatten_batches limit units, ?_⟩
  rw [packUnits, List.forall₂_map_right_iff, List.forall₂_same]
  intro piece hpiece
  rcases isPiece_of_mem_batchesFrom hlimit hunits (by simp) piece hpiece with
    ⟨status, blocks, rfl⟩ | hbatch
  · exact .inl ⟨status, by simp [batchBlocks, MessageUnit.blocks, MessageUnit.mentions, dedup,
      mentionBlocks]⟩
  · exact .inr hbatch.plainMessage

/-- Units at the bounds: one that leaves room only for its mentions, and one that makes the same
mention twice. -/
def boundaryUnits : List MessageUnit :=
  [.plain (.str "firing") (List.replicate 49 .null) ["<@a>"],
    .plain (.str "firing") [.null] ["<@b>", "<@a>", "<@b>"],
    .plain (.str "firing") [.null] ["<@a>"],
    .table (.str "firing") [.null, .null],
    .plain (.str "firing") [.null] []]

theorem exists_groups_packUnits_boundaryUnits :
    (1 : Int) ≤ 2 ∧ (∀ u ∈ boundaryUnits, Packable u) ∧
      ∃ groups : List (List MessageUnit), groups.flatten = boundaryUnits ∧
        List.Forall₂ (IsMessage 2) groups (packUnits 2 boundaryUnits) := by
  have hlimit : (1 : Int) ≤ 2 := by decide
  have hunits : ∀ u ∈ boundaryUnits, Packable u := by
    simp [boundaryUnits, Packable, MessageUnit.isTable, MessageUnit.blocks, MessageUnit.mentions]
  exact ⟨hlimit, hunits, exists_groups_packUnits hlimit hunits⟩

end AlertBridge.Slack
