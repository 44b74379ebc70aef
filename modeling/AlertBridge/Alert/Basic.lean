import AlertBridge.Json.Access

/-!
# Alerts

An alert is an object with a status, labels and annotations, but nothing vouches for that: each
part may be absent or of another kind. `annotations` and `labels` take what is absent for empty.
The alerts of a notification are those of its array `alerts`.
-/

namespace AlertBridge.Alert

/-- The object under a name, an empty one where nothing counts as present. -/
def objectAt (alert : Json) (name : String) : Except Fault Json := do
  return (← alert.get name).orElse (.obj [])

/-- The annotations of an alert. -/
def annotations (alert : Json) : Except Fault Json := objectAt alert "annotations"

/-- The labels of an alert. -/
def labels (alert : Json) : Except Fault Json := objectAt alert "labels"

/-- The alerts of a notification, none if it has no array of them. -/
def ofBody? (body : Json) : Option (List Json) :=
  match body with
  | .obj fields => match Json.fieldOf? fields "alerts" with
    | some (.arr alerts) => some alerts
    | _ => none
  | _ => none

end AlertBridge.Alert
