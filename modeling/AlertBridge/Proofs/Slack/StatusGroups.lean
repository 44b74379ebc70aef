import AlertBridge.Proofs.Slack.GroupUnits
import AlertBridge.Proofs.Slack.ResolvedFirst
import AlertBridge.Proofs.Slack.Units

/-!
# The units of alerts

Alerts of the proper form are sorted by their status, each status has its units, and the units of
resolved alerts come first. `statusGroups` says which alerts these are: all alerts of one status, in
their order, where the statuses stand in the order in which they first appear, except that resolved
alerts come before all others. That units are sorted only at the end makes no difference, since the
units of a group all have its status.

## Main definitions

* `statuses`, `groupOf`, `statusGroups`: the alerts by their status

## Main results

* `exists_parts`: each group has the units that it should have
* `units?_eq_ok_flatten`: the units of alerts
-/

namespace AlertBridge.Slack

open Alert (IsProper classifies_asText? ofClass status? statusClasses)

/-! ## The alerts by their status -/

/-- The statuses of alerts, each once, in the order of their first appearance. -/
def statuses (alerts : List Json) : List (Option String) := dedup (alerts.map status?)

/-- The alerts of a status. -/
def groupOf (alerts : List Json) (status : Option String) : List Json :=
  alerts.filter fun alert => status? alert = status

/-- The alerts of each status. Resolved alerts come first. -/
def statusGroups (alerts : List Json) : List (List Json) :=
  ((statuses alerts).filter (· = some "resolved")
    ++ (statuses alerts).filter (· ≠ some "resolved")).map (groupOf alerts)

theorem mem_statuses {alerts : List Json} {status : Option String} :
    status ∈ statuses alerts ↔ ∃ alert ∈ alerts, status? alert = status := by
  rw [statuses, mem_dedup, List.mem_map]

theorem nodup_statuses (alerts : List Json) : (statuses alerts).Nodup := nodup_dedup _

theorem mem_groupOf {alerts : List Json} {status : Option String} {alert : Json} :
    alert ∈ groupOf alerts status ↔ alert ∈ alerts ∧ status? alert = status := by
  simp [groupOf]

theorem groupOf_ne_nil {alerts : List Json} {status : Option String}
    (h : status ∈ statuses alerts) : groupOf alerts status ≠ [] := by
  obtain ⟨alert, halert, hstatus⟩ := mem_statuses.1 h
  exact List.ne_nil_of_mem (mem_groupOf.2 ⟨halert, hstatus⟩)

variable {alerts : List Json}

/-! ## Grouping by status -/

/-- A text is the class of the alerts whose status it is. -/
theorem ofClass_asText? (alerts : List Json) (status : Option String) :
    ofClass Json.asText? alerts status = groupOf alerts status := by
  refine List.filter_congr fun alert _ => ?_
  rw [beq_eq_decide]
  rfl

/-! ## Resolved alerts first -/

/-- All units of a group have its status. -/
theorem IsGroupUnits.status_eq {rows : Nat} {group : List Json} {units : List MessageUnit}
    (h : IsGroupUnits rows group units) {status : Option String}
    (hstatus : ∀ alert ∈ group, status? alert = status) :
    ∀ u ∈ units, u.status = .ofOption status := by
  cases h with
  | silent => simp
  | tables _ _ hheading _ hunits =>
    intro u hu
    obtain ⟨part, -, title, mentions, -, -, rfl⟩ := exists_mem_of_forall₂ hunits u hu
    rw [MessageUnit.status, hheading.status, hstatus _ List.mem_cons_self]
  | plain _ _ hheading hunits =>
    intro u hu
    obtain ⟨alert, -, title, -, rfl⟩ := exists_mem_of_forall₂ hunits u hu
    rw [MessageUnit.status, hheading.status, hstatus _ List.mem_cons_self]

/-- Each status has the units that it should have, and these make up the units of alerts. -/
theorem exists_parts {rows : Int} (hrows : 1 ≤ rows)
    (hproper : ∀ alert ∈ alerts, IsProper alert) :
    ∃ part : Option String → List MessageUnit,
      (∀ status ∈ statuses alerts,
        IsGroupUnits rows.toNat (groupOf alerts status) (part status)) ∧
      units? rows alerts = .ok (resolvedFirst ((statuses alerts).flatMap part)) := by
  have hgroup : ∀ status ∈ statuses alerts, ∃ units,
      groupUnits? rows (groupOf alerts status) = .ok units ∧
        IsGroupUnits rows.toNat (groupOf alerts status) units := fun status hstatus =>
    exists_groupUnits? hrows (groupOf_ne_nil hstatus) fun alert halert =>
      hproper alert (mem_groupOf.1 halert).1
  choose! part hpart hunits using hgroup
  refine ⟨part, hunits, ?_⟩
  have hparts : (statusClasses Json.asText? alerts).mapM
      (fun status => groupUnits? rows (ofClass Json.asText? alerts status)) =
        .ok ((statuses alerts).map part) := by
    refine mapM_eq_ok_map fun status hstatus => ?_
    rw [ofClass_asText?]
    exact hpart status hstatus
  rw [units?_eq rows (fun alert halert => (hproper alert halert).hasStatus)
    (classifies_asText? hproper), hparts, List.flatMap_def]
  rfl

/-- Sorting the units of the statuses comes to the same as sorting the statuses. -/
theorem resolvedFirst_flatMap {rows : Nat} {part : Option String → List MessageUnit}
    (hpart : ∀ status ∈ statuses alerts,
      IsGroupUnits rows (groupOf alerts status) (part status)) :
    resolvedFirst ((statuses alerts).flatMap part) =
      ((statuses alerts).filter (· = some "resolved")
        ++ (statuses alerts).filter (· ≠ some "resolved")).flatMap part := by
  have hresolved : ∀ status ∈ statuses alerts, ∀ u ∈ part status,
      isResolved u.status = decide (status = some "resolved") := by
    intro status hstatus u hu
    rw [(hpart status hstatus).status_eq (fun alert halert => (mem_groupOf.1 halert).2) u hu,
      isResolved_ofOption]
  simpa only [decide_not] using resolvedFirst_flatMap_of_forall hresolved

/-- **The units of alerts** are those of the groups, one group after the other. -/
theorem units?_eq_ok_flatten {rows : Int} (hrows : 1 ≤ rows)
    (hproper : ∀ alert ∈ alerts, IsProper alert) :
    ∃ parts, List.Forall₂ (IsGroupUnits rows.toNat) (statusGroups alerts) parts ∧
      units? rows alerts = .ok parts.flatten := by
  obtain ⟨part, hpart, hunits⟩ := exists_parts hrows hproper
  refine ⟨((statuses alerts).filter (· = some "resolved")
    ++ (statuses alerts).filter (· ≠ some "resolved")).map part, ?_, ?_⟩
  · rw [statusGroups, List.forall₂_map_left_iff, List.forall₂_map_right_iff, List.forall₂_same]
    intro status hstatus
    rcases List.mem_append.1 hstatus with hmem | hmem
    · exact hpart status (List.mem_filter.1 hmem).1
    · exact hpart status (List.mem_filter.1 hmem).1
  · rw [hunits, resolvedFirst_flatMap hpart, List.flatMap_def]

/-- Two firing alerts that make a table, with a resolved one between them. -/
def interleavedAlerts : List Json :=
  [Alert.ofTexts (some "firing")
      [("summary", "Disk"), ("field_name", "a"), ("field_value", "91%")] [],
    Alert.ofTexts (some "resolved") [("summary", "Net")] [("slack_mentions", "U1")],
    Alert.ofTexts (some "firing") [("field_name", "b"), ("field_value", "95%")] []]

/-- The resolved alert comes first, and the other two follow it as one group. -/
theorem units?_eq_ok_flatten_interleavedAlerts :
    (1 : Int) ≤ 1 ∧ (∀ alert ∈ interleavedAlerts, IsProper alert) ∧
      ∃ resolved firing, IsGroupUnits 1 [interleavedAlerts[1]] resolved ∧
        IsGroupUnits 1 [interleavedAlerts[0], interleavedAlerts[2]] firing ∧
        units? 1 interleavedAlerts = .ok (resolved ++ firing) := by
  have hproper : ∀ alert ∈ interleavedAlerts, IsProper alert := by
    simp [interleavedAlerts, Alert.isProper_ofTexts]
  have hgroups : statusGroups interleavedAlerts =
      [[interleavedAlerts[1]], [interleavedAlerts[0], interleavedAlerts[2]]] := by rfl
  obtain ⟨parts, hparts, hunits⟩ := units?_eq_ok_flatten (Int.le_refl 1) hproper
  rw [hgroups] at hparts
  obtain _ | ⟨hresolved, _ | ⟨hfiring, _ | _⟩⟩ := hparts
  exact ⟨Int.le_refl 1, hproper, _, _, hresolved, hfiring, by simpa using hunits⟩

/-- An alert with a title, and one of the same status with nothing in it. -/
def titledAndBare : List Json :=
  [Alert.ofTexts (some "firing") [("summary", "Down")] [], Alert.ofTexts (some "firing") [] []]

theorem isProper_of_mem_titledAndBare : ∀ alert ∈ titledAndBare, IsProper alert := by
  simp [titledAndBare, Alert.isProper_ofTexts]

end AlertBridge.Slack
