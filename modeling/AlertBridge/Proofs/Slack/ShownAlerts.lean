import AlertBridge.Proofs.Slack.StatusGroups
import Mathlib.Data.List.Nodup

/-!
# Which alerts are shown

An alert is shown by a plain unit of its own or by a row of a table. Of the alerts of a status all
are shown or none: all if the first of them has a title or a description of its own, and none if it
has not. So alerts are lost exactly where the first alert of their status has no content and they
have some. Their own content does not help them, and the same alerts in another order are shown.

## Main definitions

* `shownCount`: how many alerts of a status units show

## Main results

* `shownCount_units?`: how many alerts are shown, and when none with content is lost
* `shownCount_lt_of_bareFirst`: two alerts of which one is lost
-/

namespace AlertBridge

open Json (fieldOf?)

/-- The number of rows of a table; other blocks have none. -/
def Json.rowCount : Json → Nat
  | .obj fields => match fieldOf? fields "type", fieldOf? fields "rows" with
    | some (.str "table"), some (.arr rows) => rows.length
    | _, _ => 0
  | _ => 0

namespace Slack

open Alert (annotationText status? IsProper)

/-- How many alerts a unit shows: a table one in each row, and a plain unit one. -/
def MessageUnit.alertCount : MessageUnit → Nat
  | .table _ blocks => (blocks.map Json.rowCount).sum
  | .plain .. => 1

/-- How many alerts of a status units show. -/
def shownCount (status : Option String) (units : List MessageUnit) : Nat :=
  ((units.filter fun u => u.status.asText? = status).map MessageUnit.alertCount).sum

/-- The alert that speaks for a group has content. -/
def HasHeading (group : List Json) : Prop := ∃ first ∈ group.head?, HasContent first

/-! ## The rows of a unit -/

/-- A block of another type has no rows. -/
theorem rowCount_typed {type : String} (h : type ≠ "table") (fields : List (String × Json)) :
    (Schema.typed type fields).rowCount = 0 := by
  have htype : fieldOf? (("type", .str type) :: fields) "type" = some (.str type) := by
    simp [fieldOf?]
  rw [Schema.typed, Json.rowCount, htype]
  split
  · next heq _ => exact absurd (Json.str.inj (Option.some.inj heq)) h
  · rfl

theorem rowCount_of_mem_textSections {title description : String} :
    ∀ block ∈ textSections title description, block.rowCount = 0 := by
  have hsection : ∀ text, ∀ block ∈ textSection? text, block.rowCount = 0 := by
    intro text block hblock
    unfold textSection? sectionBlock? at hblock
    split at hblock
    · obtain rfl := Option.some.inj hblock
      exact rowCount_typed (by decide) _
    · cases hblock
  intro block hblock
  rcases List.mem_append.1 hblock with hblock | hblock
  · exact hsection title block (Option.mem_toList.1 hblock)
  · exact hsection description block (Option.mem_toList.1 hblock)

theorem rowCount_of_mem_mentionSections {mentions : List String} :
    ∀ block ∈ mentionSections mentions, block.rowCount = 0 := by
  intro block hblock
  unfold mentionSections at hblock
  split at hblock
  · cases hblock
  · obtain rfl := List.mem_singleton.1 hblock
    exact rowCount_typed (by decide) _

theorem rowCount_contextBlock? {text icon : Json} {footer : Option Json}
    (h : contextBlock? text icon = .ok footer) : ∀ block ∈ footer, block.rowCount = 0 := by
  have hcontext : ∀ elements, (Schema.typed "context" [("elements", .arr elements)]).rowCount = 0 :=
    fun elements => rowCount_typed (by decide) _
  intro block hblock
  unfold contextBlock? at h
  split at h
  · cases h
    cases hblock
  · dsimp only at h
    split at h
    · obtain ⟨written, -, h⟩ := bind_eq_ok_iff.1 h
      cases h
      obtain rfl := Option.some.inj hblock
      exact hcontext _
    · cases h
      obtain rfl := Option.some.inj hblock
      exact hcontext _

theorem rowCount_fieldTable (alerts : List Json) :
    (fieldTable alerts).rowCount = alerts.length :=
  List.length_mapIdx

theorem sum_map_rowCount_eq_zero {blocks : List Json} (h : ∀ block ∈ blocks, block.rowCount = 0) :
    (blocks.map Json.rowCount).sum = 0 := by
  rw [List.map_congr_left h]
  simp

variable {first : Json} {h : Heading} {alerts group : List Json}

/-- A table shows its alerts. -/
theorem IsTableUnit.alertCount_eq {unit : MessageUnit} (hunit : IsTableUnit h alerts unit)
    (hheading : HeadingOf first h) : unit.alertCount = alerts.length := by
  obtain ⟨title, mentions, -, -, rfl⟩ := hunit
  have hfooter : ∀ block ∈ h.footer.toList, block.rowCount = 0 := fun block hblock =>
    rowCount_contextBlock? hheading.footer block (Option.mem_toList.1 hblock)
  simp only [MessageUnit.alertCount, List.map_append, List.sum_append, List.map_cons, List.map_nil,
    List.sum_cons, List.sum_nil]
  rw [sum_map_rowCount_eq_zero rowCount_of_mem_textSections,
    sum_map_rowCount_eq_zero rowCount_of_mem_mentionSections, sum_map_rowCount_eq_zero hfooter,
    rowCount_fieldTable]
  omega

/-- Tables show the alerts into which they are cut. -/
theorem sum_alertCount_tables {parts : List (List Json)} {units : List MessageUnit}
    (hunits : List.Forall₂ (IsTableUnit h) parts units) (hheading : HeadingOf first h) :
    (units.map MessageUnit.alertCount).sum = parts.flatten.length := by
  induction hunits with
  | nil => rfl
  | cons hunit _ ih =>
    rw [List.map_cons, List.sum_cons, ih, hunit.alertCount_eq hheading, List.flatten_cons,
      List.length_append]

/-- Plain units show one alert each. -/
theorem sum_alertCount_plain {units : List MessageUnit}
    (hunits : List.Forall₂ (IsPlainUnit h) alerts units) :
    (units.map MessageUnit.alertCount).sum = alerts.length := by
  induction hunits with
  | nil => rfl
  | cons hunit _ ih =>
    obtain ⟨title, -, rfl⟩ := hunit
    rw [List.map_cons, List.sum_cons, ih, MessageUnit.alertCount, List.length_cons]
    omega

/-! ## The alerts of a status -/

theorem hasHeading_cons {rest : List Json} : HasHeading (first :: rest) ↔ HasContent first := by
  simp [HasHeading]

/-- A group that has a heading shows all of its alerts, and another one shows none. -/
theorem IsGroupUnits.sum_alertCount {rows : Nat} {units : List MessageUnit}
    (hunits : IsGroupUnits rows group units) :
    (HasHeading group → (units.map MessageUnit.alertCount).sum = group.length) ∧
      (¬ HasHeading group → (units.map MessageUnit.alertCount).sum = 0) := by
  cases hunits with
  | silent hcontent =>
    rw [hasHeading_cons]
    exact ⟨fun h => absurd h hcontent, fun _ => rfl⟩
  | tables hcontent _ hheading hparts hunits =>
    rw [hasHeading_cons]
    refine ⟨fun _ => ?_, fun h => absurd hcontent h⟩
    rw [sum_alertCount_tables hunits hheading, hparts.flatten_eq]
  | plain hcontent _ _ hunits =>
    rw [hasHeading_cons]
    exact ⟨fun _ => sum_alertCount_plain hunits, fun h => absurd hcontent h⟩

/-- The order of units does not matter for how many alerts they show. -/
theorem shownCount_resolvedFirst (status : Option String) (units : List MessageUnit) :
    shownCount status (resolvedFirst units) = shownCount status units := by
  have hperm : (resolvedFirst units).Perm units := List.filter_append_perm _ _
  exact ((hperm.filter _).map _).sum_nat

/-- Of the units of all groups those of a status are the units of its group. -/
theorem filter_status_flatMap {rows : Nat} {part : Option String → List MessageUnit}
    (hpart : ∀ status ∈ statuses alerts,
      IsGroupUnits rows (groupOf alerts status) (part status)) (status : Option String) :
    ((statuses alerts).flatMap part).filter (fun u => u.status.asText? = status) =
      if status ∈ statuses alerts then part status else [] := by
  have hstatus : ∀ s ∈ statuses alerts, ∀ u ∈ part s,
      decide (u.status.asText? = status) = decide (s = status) := by
    intro s hs u hu
    rw [(hpart s hs).status_eq (fun alert halert => (mem_groupOf.1 halert).2) u hu,
      Json.asText?_ofOption]
  rw [filter_flatMap_of_forall hstatus, List.filter_eq]
  split
  · next hmem =>
    rw [List.count_eq_one_of_mem (nodup_statuses _) hmem]
    simp
  · next hmem =>
    rw [List.count_eq_zero_of_not_mem hmem]
    rfl

theorem groupOf_eq_nil {status : Option String} (h : status ∉ statuses alerts) :
    groupOf alerts status = [] := by
  by_contra hne
  obtain ⟨alert, halert⟩ := List.exists_mem_of_ne_nil _ hne
  exact h (mem_statuses.2 ⟨alert, mem_groupOf.1 halert⟩)

/-- **How many alerts of a status are shown**: all if the first of them has content, else none. So
all alerts with content are shown exactly if the first of the status has content, or none has. -/
theorem shownCount_units? {rows : Int} (hrows : 1 ≤ rows)
    (hproper : ∀ alert ∈ alerts, IsProper alert) :
    ∃ units, units? rows alerts = .ok units ∧ ∀ status,
      (HasHeading (groupOf alerts status) →
        shownCount status units = (groupOf alerts status).length) ∧
      (¬ HasHeading (groupOf alerts status) → shownCount status units = 0) ∧
      ((groupOf alerts status).countP (fun alert => HasContent alert) ≤ shownCount status units ↔
        HasHeading (groupOf alerts status) ∨
          ∀ alert ∈ groupOf alerts status, ¬ HasContent alert) := by
  obtain ⟨part, hpart, hunits⟩ := exists_parts hrows hproper
  refine ⟨_, hunits, fun status => ?_⟩
  have hcount : (HasHeading (groupOf alerts status) →
        shownCount status (resolvedFirst ((statuses alerts).flatMap part)) =
          (groupOf alerts status).length) ∧
      (¬ HasHeading (groupOf alerts status) →
        shownCount status (resolvedFirst ((statuses alerts).flatMap part)) = 0) := by
    rw [shownCount_resolvedFirst, shownCount, filter_status_flatMap hpart]
    split
    · next hmem => exact (hpart status hmem).sum_alertCount
    · next hmem =>
      rw [groupOf_eq_nil hmem]
      exact ⟨fun _ => rfl, fun _ => rfl⟩
  obtain ⟨hall, hnone⟩ := hcount
  refine ⟨hall, hnone, ?_⟩
  by_cases hheading : HasHeading (groupOf alerts status)
  · rw [hall hheading]
    exact iff_of_true List.countP_le_length (.inl hheading)
  · rw [hnone hheading, Nat.le_zero, List.countP_eq_zero]
    simp [hheading]

/-- Where the alert with the title comes first, both are shown. -/
theorem shownCount_units?_titledAndBare :
    (1 : Int) ≤ 1 ∧ (∀ alert ∈ titledAndBare, IsProper alert) ∧
      ∃ units, units? 1 titledAndBare = .ok units ∧ shownCount (some "firing") units = 2 := by
  obtain ⟨units, hunits, hcounts⟩ :=
    shownCount_units? (Int.le_refl 1) isProper_of_mem_titledAndBare
  have hheading : HasHeading (groupOf titledAndBare (some "firing")) :=
    ⟨_, rfl, .inl (by decide)⟩
  exact ⟨Int.le_refl 1, isProper_of_mem_titledAndBare, units, hunits,
    (hcounts (some "firing")).1 hheading⟩

/-- In the other order neither is shown, so that an alert with content of its own is lost. -/
theorem shownCount_lt_of_bareFirst :
    (∀ alert ∈ titledAndBare.reverse, IsProper alert) ∧
      ∃ units, units? 1 titledAndBare.reverse = .ok units ∧
        shownCount (some "firing") units <
          (groupOf titledAndBare.reverse (some "firing")).countP fun alert => HasContent alert := by
  refine ⟨fun alert halert => isProper_of_mem_titledAndBare alert (List.mem_reverse.1 halert), [],
    by rfl, ?_⟩
  decide

end Slack

end AlertBridge
