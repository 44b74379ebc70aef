import AlertBridge.Alert.Basic
import AlertBridge.Slack.Mrkdwn

/-!
# Titles and descriptions on Slack

An alert's title is its summary. A resolved alert may have a summary and a description of its own,
which then take the place of the others, even where they are empty. The title of an alert that is
not resolved is a link if the alert has an address.
-/

namespace AlertBridge.Slack

/-- The status says that an alert is resolved. -/
def isResolved (status : Json) : Bool :=
  match status with
  | .str "resolved" => true
  | _ => false

/-- The annotation of a name; for a resolved alert the one of the other name, unless it is null.
An alert without annotations has an empty text. -/
def annotation? (name resolvedName : String) (resolved : Bool) (alert : Json) :
    Except Fault Json := do
  let annotations ← (alert.orElse (.obj [])).get "annotations"
  if !annotations.truthy then return .str ""
  if resolved then
    match ← annotations.get resolvedName with
    | .null => annotations.get name
    | own => return own
  else annotations.get name

/-- The title of an alert. -/
def title? (resolved : Bool) (alert : Json) : Except Fault Json :=
  annotation? "summary" "resolved_summary" resolved alert

/-- The description of an alert. -/
def description? (resolved : Bool) (alert : Json) : Except Fault Json :=
  annotation? "description" "resolved_description" resolved alert

/-- A title in Slack's markup, as a link if the alert is not resolved and has an address. -/
def linkedTitle? (title url : Json) (resolved : Bool) : Except Fault String := do
  let written ← Mrkdwn.ofValue? title
  if title.truthy && !resolved && url.truthy then
    return "<" ++ url.shown ++ "|" ++ written ++ ">"
  else return written

end AlertBridge.Slack
