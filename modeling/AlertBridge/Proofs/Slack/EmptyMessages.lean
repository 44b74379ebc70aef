import AlertBridge.Proofs.Slack.Packing
import AlertBridge.Proofs.Slack.StatusGroups
import AlertBridge.Proofs.Text.Trim
import Mathlib.Data.List.Nodup

/-!
# Messages without blocks

The first alert of a status speaks for all alerts of it, and it alone is asked whether there is
something to show. Another alert of the status then has a unit even if it has nothing to show, and
so has the first one if its title is made of blanks, which are cut off only when the unit is made.
Such a unit has no block, and neither has a message of such units only.

An alert whose unit has nothing is called silent. There are as many units with nothing as there are
silent alerts. Where each message takes a single unit, the messages without blocks are as many too,
and larger messages can only have fewer of them. So there is no limit with a message without blocks
if no alert is silent, and else there is one.

## Main definitions

* `ShowsNothing`: what an alert has to lack
* `IsSilent`: the alert has a unit, and the unit has nothing

## Main results

* `countP_isBare_units?`: as many units have nothing as alerts are silent
* `emptyMessages_units?`: which messages have no blocks, and how many
* `nil_mem_packUnits_titledAndBare`: two alerts of which one is sent as a message without blocks
-/

namespace AlertBridge

/-! ## Texts that come to nothing -/

theorem Mrkdwn.markBold_ne_nil (c : Char) (cs : List Char) : markBold (c :: cs) ≠ [] := by
  unfold markBold
  split
  · split <;> simp
  · simp

theorem Mrkdwn.markLinks_ne_nil (c : Char) (cs : List Char) : markLinks (c :: cs) ≠ [] := by
  unfold markLinks
  split
  · split <;> simp
  · simp

/-- Slack's markup for a text is empty only if the text is. -/
theorem Mrkdwn.ofMarkdown_eq_empty_iff {s : String} : ofMarkdown s = "" ↔ s = "" := by
  rw [ofMarkdown, String.ofList_eq_empty_iff, ← String.toList_eq_nil_iff (b := s)]
  cases s.toList with
  | nil => simp [markBold, markLinks]
  | cons c cs =>
    refine iff_of_false ?_ (List.cons_ne_nil c cs)
    obtain ⟨d, ds, hbold⟩ := List.exists_cons_of_ne_nil (markBold_ne_nil c cs)
    rw [hbold]
    exact markLinks_ne_nil d ds

namespace Slack

open Alert (annotationText status? IsProper)

/-! ## What has nothing -/

/-- A unit has neither blocks nor mentions. -/
def MessageUnit.isBare (u : MessageUnit) : Bool := u.blocks.isEmpty && u.mentions.isEmpty

/-- An alert has nothing to show where another one speaks for it: no emoji and no title but blanks,
no description, no footer, and no mention. -/
structure ShowsNothing (first alert : Json) : Prop where
  emoji : allBlank (annotationText first "emoji").toList
  title : allBlank (ownTitle (IsResolved first) alert).toList
  description : ownDescription (IsResolved first) alert = ""
  footer_text : annotationText first "footer_text" = ""
  footer_icon : annotationText first "footer_icon_url" = ""
  mentions : mentionsOf alert = []

theorem showsNothing_iff {first alert : Json} : ShowsNothing first alert ↔
    allBlank (annotationText first "emoji").toList ∧
      allBlank (ownTitle (IsResolved first) alert).toList ∧
      ownDescription (IsResolved first) alert = "" ∧
      annotationText first "footer_text" = "" ∧ annotationText first "footer_icon_url" = "" ∧
      mentionsOf alert = [] :=
  ⟨fun h => ⟨h.emoji, h.title, h.description, h.footer_text, h.footer_icon, h.mentions⟩,
    fun ⟨emoji, title, description, text, icon, mentions⟩ =>
      ⟨emoji, title, description, text, icon, mentions⟩⟩

instance : DecidableRel ShowsNothing := fun _ _ => decidable_of_iff' _ showsNothing_iff

/-- An alert gets a unit that has nothing in a group of plain units. -/
def IsSilentUnder (first alert : Json) : Prop :=
  HasContent first ∧ ¬ HasField first ∧ ShowsNothing first alert

instance : DecidableRel IsSilentUnder := fun _ _ => inferInstanceAs (Decidable (_ ∧ _ ∧ _))

/-- An alert gets a unit that has nothing, as the first alert of its status decides. -/
def IsSilent (alerts : List Json) (alert : Json) : Prop :=
  ∃ first ∈ (groupOf alerts (status? alert)).head?, IsSilentUnder first alert

instance (alerts : List Json) : DecidablePred (IsSilent alerts) := fun alert =>
  inferInstanceAs (Decidable (∃ first ∈ (groupOf alerts (status? alert)).head?,
    IsSilentUnder first alert))

/-! ## Sections that are left out -/

theorem textSection?_eq_none_iff {text : String} : textSection? text = none ↔ text = "" := by
  simp [textSection?, sectionBlock?, Json.truthy]

theorem textSections_eq_nil_iff {title description : String} :
    textSections title description = [] ↔ title = "" ∧ description = "" := by
  rw [textSections, List.append_eq_nil_iff, Option.toList_eq_nil_iff, Option.toList_eq_nil_iff,
    textSection?_eq_none_iff, textSection?_eq_none_iff]

theorem length_textSections_le (title description : String) :
    (textSections title description).length ≤ 2 := by
  have hle : ∀ block : Option Json, block.toList.length ≤ 1 := fun block => by cases block <;> simp
  rw [textSections, List.length_append]
  exact Nat.add_le_add (hle _) (hle _)

/-- A title comes to nothing only if it is empty, also as a link. -/
theorem linkedTitle?_eq_empty_iff {title written : String} {url : Json} {resolved : Bool}
    (h : linkedTitle? (.str title) url resolved = .ok written) : written = "" ↔ title = "" := by
  unfold linkedTitle? at h
  rw [bind_of_ok (Json.Denotes.text title).ofValue?] at h
  split at h
  · next hlink =>
    obtain rfl := Except.ok.inj h
    have htitle : title ≠ "" := by
      rintro rfl
      simp [Json.truthy] at hlink
    simp [String.append_eq_empty_iff, htitle]
  · obtain rfl := Except.ok.inj h
    exact Mrkdwn.ofMarkdown_eq_empty_iff

theorem contextBlock?_eq_none_iff {text icon : String} {footer : Option Json}
    (h : contextBlock? (.str text) (.str icon) = .ok footer) :
    footer = none ↔ text = "" ∧ icon = "" := by
  have hempty : ((!(Json.str text).truthy && !(Json.str icon).truthy) = true) ↔
      text = "" ∧ icon = "" := by
    simp [Json.truthy]
  unfold contextBlock? at h
  split at h
  · next hnone =>
    obtain rfl := Except.ok.inj h
    exact iff_of_true rfl (hempty.1 hnone)
  · next hsome =>
    refine iff_of_false ?_ fun hnone => hsome (hempty.2 hnone)
    rintro rfl
    dsimp only at h
    split at h
    · obtain ⟨caption, -, h⟩ := bind_eq_ok_iff.1 h
      cases h
    · cases h

/-! ## Units -/

variable {first : Json} {h : Heading} {alerts group : List Json} {rows : Nat}
  {units : List MessageUnit} {unit : MessageUnit}

theorem MessageUnit.isBare_iff : unit.isBare ↔ unit.blocks = [] ∧ unit.mentions = [] := by
  simp [MessageUnit.isBare]

/-- The emoji of a heading is blank exactly if the one of its alert is. -/
theorem HeadingOf.allBlank_emoji_iff (hheading : HeadingOf first h) :
    allBlank h.emoji.toList ↔ allBlank (annotationText first "emoji").toList := by
  rw [hheading.emoji]
  split
  · next hnone => rw [hnone]
  · simp [allBlank, isBlank]

/-- A plain unit has nothing exactly if its alert has nothing to show. -/
theorem IsPlainUnit.isBare_iff {alert : Json} (hunit : IsPlainUnit h alert unit)
    (hheading : HeadingOf first h) : unit.isBare ↔ ShowsNothing first alert := by
  obtain ⟨title, htitle, rfl⟩ := hunit
  have hblank : title = "" ↔ allBlank (annotationText first "emoji").toList ∧
      allBlank (ownTitle (IsResolved first) alert).toList := by
    rw [linkedTitle?_eq_empty_iff htitle, trim_eq_empty_iff, String.toList_append, allBlank,
      List.all_append, Bool.and_eq_true, hheading.resolved]
    exact and_congr_left' hheading.allBlank_emoji_iff
  rw [MessageUnit.isBare_iff, showsNothing_iff, MessageUnit.blocks, MessageUnit.mentions,
    List.append_eq_nil_iff, textSections_eq_nil_iff, Mrkdwn.ofMarkdown_eq_empty_iff,
    Option.toList_eq_nil_iff, contextBlock?_eq_none_iff hheading.footer, hblank, hheading.resolved]
  simp only [and_assoc]

/-- A table has at least its rows. -/
theorem IsTableUnit.not_isBare (hunit : IsTableUnit h alerts unit) : ¬ unit.isBare := by
  obtain ⟨title, mentions, -, -, rfl⟩ := hunit
  simp [MessageUnit.isBare_iff, MessageUnit.blocks]

/-- A plain unit has at most the sections of its texts and a footer. -/
theorem IsPlainUnit.packable {alert : Json} (hunit : IsPlainUnit h alert unit) :
    Packable unit := by
  obtain ⟨title, -, rfl⟩ := hunit
  intro _
  refine ⟨?_, fun m hm => ne_empty_of_mem_mentionsOf hm⟩
  have hfooter : h.footer.toList.length ≤ 1 := by cases h.footer <;> simp
  have hsections :=
    length_textSections_le title (Mrkdwn.ofMarkdown (ownDescription h.resolved alert))
  rw [MessageUnit.blocks, List.length_append]
  omega

theorem IsGroupUnits.packable (hunits : IsGroupUnits rows group units) :
    ∀ u ∈ units, Packable u := by
  cases hunits with
  | silent => simp
  | tables _ _ _ _ hunits =>
    intro u hu
    obtain ⟨part, -, title, mentions, -, -, rfl⟩ := exists_mem_of_forall₂ hunits u hu
    intro htable
    cases htable
  | plain _ _ _ hunits =>
    intro u hu
    obtain ⟨alert, -, hunit⟩ := exists_mem_of_forall₂ hunits u hu
    exact hunit.packable

/-! ## How many units have nothing -/

/-- Two lists whose elements correspond have as many that pass. -/
theorem countP_eq_of_forall₂ {α β : Type} {R : α → β → Prop} {p : α → Bool} {q : β → Bool}
    {xs : List α} {ys : List β} (h : List.Forall₂ R xs ys)
    (hpass : ∀ x y, R x y → q y = p x) : ys.countP q = xs.countP p := by
  induction h with
  | nil => rfl
  | cons hxy _ ih => rw [List.countP_cons, List.countP_cons, ih, hpass _ _ hxy]

/-- In a group as many units have nothing as alerts are silent. -/
theorem IsGroupUnits.countP_isBare (hunits : IsGroupUnits rows group units) :
    units.countP MessageUnit.isBare =
      group.countP fun alert => ∃ first ∈ group.head?, IsSilentUnder first alert := by
  cases hunits with
  | silent hcontent => simp [IsSilentUnder, hcontent]
  | tables hcontent hfield _ _ hunits =>
    rw [List.countP_eq_zero.2, List.countP_eq_zero.2]
    · simp [IsSilentUnder, hfield]
    · intro u hu
      obtain ⟨part, -, hunit⟩ := exists_mem_of_forall₂ hunits u hu
      exact hunit.not_isBare
  | plain hcontent hfield hheading hunits =>
    refine countP_eq_of_forall₂ hunits fun alert u hunit => ?_
    rw [Bool.eq_iff_iff, hunit.isBare_iff hheading, decide_eq_true_eq]
    simp [IsSilentUnder, hcontent, hfield]

/-- The groups together have the alerts. -/
theorem perm_flatMap_groupOf (hproper : ∀ alert ∈ alerts, IsProper alert) :
    ((statuses alerts).flatMap (groupOf alerts)).Perm alerts := by
  have hgroups : (groupBy (Alert.withStatus alerts)).flatMap Prod.snd =
      (statuses alerts).flatMap (groupOf alerts) := by
    rw [List.flatMap_def, Alert.map_snd_groupBy_withStatus (Alert.classifies_asText? hproper),
      List.flatMap_def]
    refine congrArg List.flatten (List.map_congr_left fun status _ => ?_)
    exact ofClass_asText? alerts status
  have hsnd : (Alert.withStatus alerts).map Prod.snd = alerts := map_snd_withKeys
  have hperm := perm_groupBy (Alert.withStatus alerts)
  rwa [hgroups, hsnd] at hperm

/-- The units of all groups have nothing as often as alerts are silent. -/
theorem countP_isBare_flatMap {part : Option String → List MessageUnit}
    (hproper : ∀ alert ∈ alerts, IsProper alert)
    (hpart : ∀ status ∈ statuses alerts,
      IsGroupUnits rows (groupOf alerts status) (part status)) :
    ((statuses alerts).flatMap part).countP MessageUnit.isBare =
      alerts.countP fun alert => IsSilent alerts alert := by
  have hgroup : ∀ status ∈ statuses alerts, (part status).countP MessageUnit.isBare =
      (groupOf alerts status).countP fun alert => IsSilent alerts alert := by
    intro status hstatus
    rw [(hpart status hstatus).countP_isBare]
    refine List.countP_congr fun alert halert => ?_
    rw [decide_eq_true_eq, decide_eq_true_eq, IsSilent, (mem_groupOf.1 halert).2]
  calc ((statuses alerts).flatMap part).countP MessageUnit.isBare
      = ((statuses alerts).map fun status => (part status).countP MessageUnit.isBare).sum :=
        List.countP_flatMap
    _ = ((statuses alerts).map fun status =>
          (groupOf alerts status).countP fun alert => IsSilent alerts alert).sum :=
        congrArg List.sum (List.map_congr_left hgroup)
    _ = ((statuses alerts).flatMap (groupOf alerts)).countP fun alert => IsSilent alerts alert :=
        List.countP_flatMap.symm
    _ = alerts.countP fun alert => IsSilent alerts alert :=
        (perm_flatMap_groupOf hproper).countP_eq _

/-- **The units of alerts**: all can be packed, and as many have nothing as alerts are silent. -/
theorem countP_isBare_units? {rows : Int} (hrows : 1 ≤ rows)
    (hproper : ∀ alert ∈ alerts, IsProper alert) :
    ∃ units, units? rows alerts = .ok units ∧ (∀ u ∈ units, Packable u) ∧
      units.countP MessageUnit.isBare = alerts.countP fun alert => IsSilent alerts alert := by
  obtain ⟨part, hpart, hunits⟩ := exists_parts hrows hproper
  refine ⟨_, hunits, fun u hu => ?_, ?_⟩
  · obtain ⟨status, hstatus, hu⟩ := List.mem_flatMap.1 (mem_resolvedFirst.1 hu)
    exact (hpart status hstatus).packable u hu
  · have hperm : (resolvedFirst ((statuses alerts).flatMap part)).Perm _ :=
      List.filter_append_perm _ _
    rw [hperm.countP_eq, countP_isBare_flatMap hproper hpart]

/-! ## How many messages have no blocks -/

/-- A message has no blocks exactly if no unit of it has anything. -/
theorem batchBlocks_eq_nil_iff : batchBlocks units = [] ↔ ∀ u ∈ units, u.isBare := by
  rw [← List.length_eq_zero_iff, length_batchBlocks, blockCount, Nat.add_eq_zero_iff,
    List.length_eq_zero_iff, List.flatMap_eq_nil_iff]
  have hmentions : (if (units.flatMap MessageUnit.mentions).isEmpty then 0 else 1) = 0 ↔
      ∀ u ∈ units, u.mentions = [] := by
    simp
  rw [hmentions, ← forall₂_and]
  exact forall₂_congr fun u _ => MessageUnit.isBare_iff.symm

theorem countP_isEmpty_packUnits (limit : Int) (units : List MessageUnit) :
    (packUnits limit units).countP List.isEmpty =
      (batches limit units).countP fun piece => piece.all MessageUnit.isBare := by
  rw [packUnits, List.countP_map]
  refine List.countP_congr fun piece _ => ?_
  rw [Function.comp_apply, List.isEmpty_iff, batchBlocks_eq_nil_iff, List.all_eq_true]

theorem IsPiece.one_le_length {limit : Int} {piece : List MessageUnit} (h : IsPiece limit piece) :
    1 ≤ piece.length := by
  rcases h with ⟨status, blocks, rfl⟩ | hbatch
  · exact Nat.le_refl 1
  · exact hbatch.one_le_length

theorem IsPiece.length_le {limit : Int} (hlimit : 1 ≤ limit) {piece : List MessageUnit}
    (h : IsPiece limit piece) : piece.length ≤ limit := by
  rcases h with ⟨status, blocks, rfl⟩ | hbatch
  · exact hlimit
  · exact hbatch.length_le_limit

/-- Pieces all of whose elements pass are at most as many as the elements that pass, since each has
one. -/
theorem countP_all_le_countP_flatten {α : Type} {p : α → Bool} {pieces : List (List α)}
    (h : ∀ piece ∈ pieces, 1 ≤ piece.length) :
    pieces.countP (·.all p) ≤ pieces.flatten.countP p := by
  induction pieces with
  | nil => exact Nat.le_refl 0
  | cons piece pieces ih =>
    obtain ⟨hpiece, hpieces⟩ := List.forall_mem_cons.1 h
    have ih := ih hpieces
    rw [List.countP_cons, List.flatten_cons, List.countP_append]
    split
    · next hall =>
      have hcount : piece.countP p = piece.length :=
        List.countP_eq_length.2 (List.all_eq_true.1 hall)
      omega
    · omega

/-- Pieces of a single element pass as often as elements do. -/
theorem countP_all_eq_countP_flatten {α : Type} {p : α → Bool} {pieces : List (List α)}
    (h : ∀ piece ∈ pieces, piece.length = 1) :
    pieces.countP (·.all p) = pieces.flatten.countP p := by
  induction pieces with
  | nil => rfl
  | cons piece pieces ih =>
    obtain ⟨hpiece, hpieces⟩ := List.forall_mem_cons.1 h
    obtain ⟨x, rfl⟩ := List.length_eq_one_iff.1 hpiece
    rw [List.countP_cons, ih hpieces, List.flatten_cons, List.countP_append,
      List.countP_singleton, Nat.add_comm]
    simp

/-- At most as many messages have no blocks as units have nothing, and as many where each message
takes a single unit. -/
theorem countP_isEmpty_packUnits_le {limit : Int} (hlimit : 1 ≤ limit)
    (hunits : ∀ u ∈ units, Packable u) :
    (packUnits limit units).countP List.isEmpty ≤ units.countP MessageUnit.isBare := by
  have hpieces : ∀ piece ∈ batches limit units, IsPiece limit piece :=
    isPiece_of_mem_batchesFrom hlimit hunits (by simp)
  have hle : (batches limit units).countP (·.all MessageUnit.isBare) ≤
      (batches limit units).flatten.countP MessageUnit.isBare :=
    countP_all_le_countP_flatten fun piece hpiece => (hpieces piece hpiece).one_le_length
  rwa [← countP_isEmpty_packUnits, flatten_batches] at hle

theorem countP_isEmpty_packUnits_one (hunits : ∀ u ∈ units, Packable u) :
    (packUnits 1 units).countP List.isEmpty = units.countP MessageUnit.isBare := by
  have hone : (1 : Int) ≤ 1 := Int.le_refl 1
  have hpieces : ∀ piece ∈ batches 1 units, IsPiece 1 piece :=
    isPiece_of_mem_batchesFrom hone hunits (by simp)
  have hlength : ∀ piece ∈ batches 1 units, piece.length = 1 := by
    intro piece hpiece
    have hge := (hpieces piece hpiece).one_le_length
    have hle := (hpieces piece hpiece).length_le hone
    omega
  rw [countP_isEmpty_packUnits, countP_all_eq_countP_flatten hlength, flatten_batches]

/-- **The messages without blocks.** They are those of units that all have nothing. No more of them
can be than alerts are silent, and there are as many where a message takes a single unit. So all
messages have blocks, whatever the limit, exactly if no alert is silent. -/
theorem emptyMessages_units? {rows : Int} (hrows : 1 ≤ rows)
    (hproper : ∀ alert ∈ alerts, IsProper alert) :
    ∃ units, units? rows alerts = .ok units ∧
      (∀ limit, [] ∈ packUnits limit units ↔
        ∃ piece ∈ batches limit units, ∀ u ∈ piece, u.isBare) ∧
      (∀ limit, 1 ≤ limit → (packUnits limit units).countP List.isEmpty ≤
        alerts.countP fun alert => IsSilent alerts alert) ∧
      (packUnits 1 units).countP List.isEmpty =
        alerts.countP (fun alert => IsSilent alerts alert) ∧
      ((∀ limit, 1 ≤ limit → ∀ message ∈ packUnits limit units, 1 ≤ message.length) ↔
        ∀ alert ∈ alerts, ¬ IsSilent alerts alert) := by
  obtain ⟨units, hunits, hpackable, hbare⟩ := countP_isBare_units? hrows hproper
  have hle : ∀ limit, 1 ≤ limit → (packUnits limit units).countP List.isEmpty ≤
      alerts.countP fun alert => IsSilent alerts alert := fun limit hlimit =>
    (countP_isEmpty_packUnits_le hlimit hpackable).trans_eq hbare
  have hone := (countP_isEmpty_packUnits_one hpackable).trans hbare
  have hblocks : ∀ limit, (∀ message ∈ packUnits limit units, 1 ≤ message.length) ↔
      (packUnits limit units).countP List.isEmpty = 0 := by
    intro limit
    rw [List.countP_eq_zero]
    refine forall₂_congr fun message _ => ?_
    rw [List.isEmpty_iff, ← List.length_eq_zero_iff]
    omega
  have hnone : alerts.countP (fun alert => IsSilent alerts alert) = 0 ↔
      ∀ alert ∈ alerts, ¬ IsSilent alerts alert := by
    simp [List.countP_eq_zero]
  refine ⟨units, hunits, fun limit => ?_, hle, hone, ?_⟩
  · rw [packUnits, List.mem_map]
    exact exists_congr fun piece => and_congr_right' batchBlocks_eq_nil_iff
  · rw [← hnone]
    constructor
    · intro hall
      rw [← hone]
      exact (hblocks 1).1 (hall 1 (Int.le_refl 1))
    · intro hzero limit hlimit
      exact (hblocks limit).2 (Nat.le_zero.1 (hzero ▸ hle limit hlimit))

/-- An alert with a title, and another one of its status whose title is a blank. -/
def downThenBlank : List Json :=
  [Alert.ofTexts (some "firing") [("summary", "Down")] [],
    Alert.ofTexts (some "firing") [("summary", " ")] []]

theorem isProper_of_mem_downThenBlank : ∀ alert ∈ downThenBlank, IsProper alert := by
  simp [downThenBlank, Alert.isProper_ofTexts]

/-- One of the alerts is silent, so that one message has no blocks where each takes one unit. -/
theorem emptyMessages_units?_downThenBlank :
    (1 : Int) ≤ 1 ∧ (∀ alert ∈ downThenBlank, IsProper alert) ∧
      ∃ units, units? 1 downThenBlank = .ok units ∧
        (packUnits 1 units).countP List.isEmpty = 1 := by
  obtain ⟨units, hunits, -, -, hone, -⟩ :=
    emptyMessages_units? (Int.le_refl 1) isProper_of_mem_downThenBlank
  refine ⟨Int.le_refl 1, isProper_of_mem_downThenBlank, units, hunits, hone.trans ?_⟩
  decide

/-- Where each message takes one unit, the second alert is sent as a message without blocks. -/
theorem nil_mem_packUnits_titledAndBare :
    (∀ alert ∈ titledAndBare, IsProper alert) ∧
      ∃ units, units? 20 titledAndBare = .ok units ∧
        (packUnits 1 units).map List.length = [1, 0] := by
  exact ⟨isProper_of_mem_titledAndBare, _, by rfl, by decide +kernel⟩

end Slack

end AlertBridge
