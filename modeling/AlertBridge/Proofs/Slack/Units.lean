import AlertBridge.Proofs.Alert.ByStatus
import AlertBridge.Slack.Unit

/-!
# The units of alerts that may be anything

The units of alerts are those of the groups into which the alerts fall by their status. So they can
be made exactly if all alerts can be grouped and the units of each group can be made, and alerts of
one status have the units of the one group that they are.

## Main results

* `units?_eq`: the units group by group
* `succeeds_units?_iff`: when units can be made
* `units?_of_oneStatus`: the units of alerts of one status
-/

namespace AlertBridge.Slack

open Alert (HasStatus classifies_keyClass groupBy?_eq_ok map_snd_groupBy_withStatus ofClass
  statusClasses succeeds_groupBy?_iff withStatus)

variable {rows : Int} {alerts : List Json} {units : List MessageUnit}

/-! ## Group by group -/

/-- The units of alerts are those of their groups. -/
theorem units?_eq {β : Type} [BEq β] [LawfulBEq β] {e : Json → β} (rows : Int)
    (hstatus : ∀ alert ∈ alerts, HasStatus alert)
    (hclasses : Classifies e (alerts.map fun alert => alert.part "status")) :
    units? rows alerts =
      ((statusClasses e alerts).mapM fun b => groupUnits? rows (ofClass e alerts b)).map
        fun parts => resolvedFirst parts.flatten := by
  have hparts : (groupBy (withStatus alerts)).mapM (fun g => groupUnits? rows g.2) =
      (statusClasses e alerts).mapM fun b => groupUnits? rows (ofClass e alerts b) := by
    change (groupBy (withStatus alerts)).mapM (groupUnits? rows ∘ Prod.snd) = _
    rw [← List.mapM_map, map_snd_groupBy_withStatus hclasses, List.mapM_map]
    rfl
  unfold units?
  rw [bind_of_ok (groupBy?_eq_ok hstatus), hparts]
  cases (statusClasses e alerts).mapM fun b => groupUnits? rows (ofClass e alerts b) <;> rfl

theorem succeeds_units?_iff : Succeeds (units? rows alerts) ↔
    (∀ alert ∈ alerts, HasStatus alert) ∧ ∀ b ∈ statusClasses Json.keyClass alerts,
      Succeeds (groupUnits? rows (ofClass Json.keyClass alerts b)) := by
  by_cases hstatus : ∀ alert ∈ alerts, HasStatus alert
  · rw [units?_eq rows hstatus (classifies_keyClass hstatus), succeeds_map_iff, succeeds_mapM_iff,
      and_iff_right hstatus]
  · refine iff_of_false (fun h => hstatus ?_) fun h => hstatus h.1
    obtain ⟨groups, hgroups, -⟩ := succeeds_bind_iff.1 h
    exact succeeds_groupBy?_iff.1 ⟨groups, hgroups⟩

theorem mem_resolvedFirst {u : MessageUnit} : u ∈ resolvedFirst units ↔ u ∈ units :=
  (List.filter_append_perm _ _).mem_iff

/-- The units of alerts are those of their groups. -/
theorem mem_units?_iff (hunits : units? rows alerts = .ok units) {u : MessageUnit} :
    u ∈ units ↔ ∃ b ∈ statusClasses Json.keyClass alerts,
      ∃ part, groupUnits? rows (ofClass Json.keyClass alerts b) = .ok part ∧ u ∈ part := by
  have hstatus := (succeeds_units?_iff.1 ⟨units, hunits⟩).1
  rw [units?_eq rows hstatus (classifies_keyClass hstatus)] at hunits
  obtain ⟨parts, hparts, rfl⟩ := map_eq_ok_iff.1 hunits
  have hgroups := mapM_eq_ok_iff.1 hparts
  rw [mem_resolvedFirst, List.mem_flatten]
  constructor
  · rintro ⟨part, hpart, hu⟩
    obtain ⟨b, hb, hgroup⟩ := exists_mem_of_forall₂ hgroups part hpart
    exact ⟨b, hb, part, hgroup, hu⟩
  · rintro ⟨b, hb, part, hgroup, hu⟩
    obtain ⟨part', hpart', hgroup'⟩ := exists_mem_of_forall₂ hgroups.flip b hb
    obtain rfl : part = part' := Except.ok.inj (hgroup.symm.trans hgroup')
    exact ⟨part, hpart', hu⟩

/-! ## Alerts of one status -/

/-- What the alert's status names. -/
def statusKey (alert : Json) : KeyClass := (alert.part "status").keyClass

/-- Alerts of one status are a single group. -/
theorem units?_of_oneStatus {b : KeyClass} (hne : alerts ≠ [])
    (hstatus : ∀ alert ∈ alerts, HasStatus alert) (hone : ∀ alert ∈ alerts, statusKey alert = b) :
    units? rows alerts = (groupUnits? rows alerts).map resolvedFirst := by
  have hclasses : statusClasses Json.keyClass alerts = [b] := by
    obtain ⟨first, rest, rfl⟩ := List.exists_cons_of_ne_nil hne
    obtain ⟨hfirst, hrest⟩ := List.forall_mem_cons.1 hone
    rw [statusClasses, List.map_cons, dedup, List.filter_eq_nil_iff.2]
    · exact congrArg ([·]) hfirst
    · intro c hc
      obtain ⟨alert, halert, rfl⟩ := List.mem_map.1 (mem_dedup.1 hc)
      have hsame : statusKey alert = statusKey first := (hrest alert halert).trans hfirst.symm
      simpa [statusKey] using hsame
  have hgroup : ofClass Json.keyClass alerts b = alerts :=
    List.filter_eq_self.2 fun alert halert => by simpa [statusKey] using hone alert halert
  rw [units?_eq rows hstatus (classifies_keyClass hstatus), hclasses, List.mapM_cons, hgroup]
  cases groupUnits? rows alerts with
  | error fault => rfl
  | ok part => exact congrArg Except.ok (by simp)

end AlertBridge.Slack
