import AlertBridge.Proofs.Alert.Form
import AlertBridge.Proofs.Alert.Partition

/-!
# Alerts by their status

Alerts are grouped by their statuses, which may be any values that name keys. Grouping succeeds
exactly if all alerts are objects with such a status, and then there is one group for each class of
statuses. What the classes are is open: among texts a class is a text, and in general it is what
the status names.

## Main definitions

* `HasStatus`: the alert can be grouped
* `statusClasses`, `ofClass`: the classes of statuses, and the alerts of a class

## Main results

* `map_snd_groupBy_withStatus`: the groups are the alerts of each class
* `succeeds_groupBy?_iff`: when grouping succeeds
-/

namespace AlertBridge.Alert

/-- The alert is an object, and its status can name a key. -/
structure HasStatus (alert : Json) : Prop where
  isObject : ∃ fields, alert = .obj fields
  isKey : (alert.part "status").isKey

theorem IsProper.hasStatus {alert : Json} (h : IsProper alert) : HasStatus alert where
  isObject := h.isObject
  isKey := by
    obtain ⟨text, htext⟩ := h.status
    rw [htext]
    cases text <;> rfl

/-- The alerts with the keys under which they are grouped. -/
def withStatus (alerts : List Json) : List (Json × Json) :=
  alerts.map fun alert => (alert.part "status", alert)

/-! ## When alerts can be grouped -/

theorem HasStatus.get {alert : Json} (h : HasStatus alert) :
    alert.get "status" = .ok (alert.part "status") := by
  obtain ⟨⟨fields, rfl⟩, -⟩ := h
  exact Json.get_obj_eq fields _

theorem succeeds_keyed?_iff {alert : Json} :
    Succeeds (keyed? (fun alert => alert.get "status") alert) ↔ HasStatus alert := by
  constructor
  · intro h
    cases alert with
    | obj fields =>
      rw [keyed?, bind_of_ok (Json.get_obj_eq fields _)] at h
      split at h
      · next hkey => exact ⟨⟨fields, rfl⟩, hkey⟩
      · exact absurd h (not_succeeds_error _)
    | _ => exact absurd h (not_succeeds_error _)
  · intro h
    rw [keyed?, bind_of_ok h.get, isKey_json, if_pos h.isKey]
    exact succeeds_ok _

variable {alerts : List Json}

theorem groupBy?_eq_ok (h : ∀ alert ∈ alerts, HasStatus alert) :
    groupBy? (fun alert => alert.get "status") alerts = .ok (groupBy (withStatus alerts)) :=
  groupBy?_eq_groupBy (fun alert halert => (h alert halert).get) fun alert halert =>
    (h alert halert).isKey

theorem succeeds_groupBy?_iff :
    Succeeds (groupBy? (fun alert => alert.get "status") alerts) ↔
      ∀ alert ∈ alerts, HasStatus alert := by
  rw [groupBy?, succeeds_map_iff, succeeds_mapM_iff]
  exact forall₂_congr fun alert _ => succeeds_keyed?_iff

/-! ## The groups -/

variable {β : Type} [BEq β] {e : Json → β}

/-- The classes of the alerts' statuses, in the order of their first appearance. -/
def statusClasses (e : Json → β) (alerts : List Json) : List β :=
  dedup (alerts.map fun alert => e (alert.part "status"))

/-- The alerts whose status is of a class. -/
def ofClass (e : Json → β) (alerts : List Json) (b : β) : List Json :=
  alerts.filter fun alert => e (alert.part "status") == b

variable [LawfulBEq β]

theorem mem_statusClasses {b : β} :
    b ∈ statusClasses e alerts ↔ ∃ alert ∈ alerts, e (alert.part "status") = b := by
  rw [statusClasses, mem_dedup, List.mem_map]

theorem mem_ofClass {b : β} {alert : Json} :
    alert ∈ ofClass e alerts b ↔ alert ∈ alerts ∧ e (alert.part "status") = b := by
  rw [ofClass, List.mem_filter, beq_iff_eq]

/-- **The groups are the alerts of each class**, where a class is what makes two statuses the
same. -/
theorem map_snd_groupBy_withStatus
    (h : Classifies e (alerts.map fun alert => alert.part "status")) :
    (groupBy (withStatus alerts)).map Prod.snd = (statusClasses e alerts).map (ofClass e alerts) := by
  have hlabels := congrArg (List.map Prod.snd) (labels_groupBy_withKeys h)
  rw [AlertBridge.labels, List.map_map, List.map_map] at hlabels
  exact hlabels

/-- Statuses are the same exactly if they name the same. -/
theorem classifies_keyClass (h : ∀ alert ∈ alerts, HasStatus alert) :
    Classifies Json.keyClass (alerts.map fun alert => alert.part "status") := by
  intro k hk k' hk'
  obtain ⟨alert, halert, rfl⟩ := List.mem_map.1 hk
  obtain ⟨alert', halert', rfl⟩ := List.mem_map.1 hk'
  exact Json.sameKey_iff (h alert halert).isKey (h alert' halert').isKey

/-- Statuses that are texts or null are the same exactly if their texts are. -/
theorem classifies_asText? (h : ∀ alert ∈ alerts, IsProper alert) :
    Classifies Json.asText? (alerts.map fun alert => alert.part "status") := by
  intro k hk k' hk'
  obtain ⟨alert, halert, rfl⟩ := List.mem_map.1 hk
  obtain ⟨alert', halert', rfl⟩ := List.mem_map.1 hk'
  obtain ⟨text, htext⟩ := (h alert halert).status
  obtain ⟨text', htext'⟩ := (h alert' halert').status
  rw [htext, htext', Json.asText?_ofOption, Json.asText?_ofOption, same_json]
  cases text <;> cases text' <;> simp [Json.ofOption, Json.sameKey]

end AlertBridge.Alert
