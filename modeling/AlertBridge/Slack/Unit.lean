import AlertBridge.Alert.Group
import AlertBridge.Chunk
import AlertBridge.Slack.Block
import AlertBridge.Slack.Mention
import AlertBridge.Slack.Title

/-!
# Units of messages on Slack

Alerts of one status form a group, and the first alert of a group speaks for it: the group is left
out unless that alert has annotations and a title or a description. If it names a field and its
value, the group becomes tables with a row for each alert; otherwise each alert becomes a plain
unit of its own. Units of resolved alerts come first.
-/

namespace AlertBridge.Slack

/-- Blocks that stay together in a message. A plain unit leaves its mentions to the message. -/
inductive MessageUnit where
  | table (status : Json) (blocks : List Json)
  | plain (status : Json) (blocks : List Json) (mentions : List String)

namespace MessageUnit

/-- The status of the unit's alerts. -/
def status : MessageUnit → Json
  | table status _ => status
  | plain status _ _ => status

/-- The blocks of the unit. -/
def blocks : MessageUnit → List Json
  | table _ blocks => blocks
  | plain _ blocks _ => blocks

/-- The mentions that the unit leaves to the message. -/
def mentions : MessageUnit → List String
  | table .. => []
  | plain _ _ mentions => mentions

/-- The unit is a table. -/
def isTable : MessageUnit → Bool
  | table .. => true
  | plain .. => false

/-- The unit as data. -/
def toJson : MessageUnit → Json
  | table status blocks =>
    .obj [("type", .str "table"), ("status", status), ("blocks", .arr blocks)]
  | plain status blocks mentions =>
    .obj [("type", .str "plain"), ("status", status), ("blocks", .arr blocks),
      ("mentions", Json.ofTexts mentions)]

/-- The unit that data describe. -/
def ofJson? (v : Json) : Except Fault MessageUnit := do
  let isTable := match ← v.require "type" with
    | .str "table" => true
    | _ => false
  if isTable then return table (← v.get "status") (← (← v.require "blocks").items)
  else
    let mentions ← Json.joinable (← (← v.require "mentions").items)
    return plain (← v.get "status") (← (← v.require "blocks").items) mentions

end MessageUnit

/-- What the first alert of a group says for all of its alerts. -/
structure Heading where
  /-- The first alert. -/
  alert : Json
  status : Json
  resolved : Bool
  /-- The emoji in front of each title, with a space behind it. -/
  emoji : String
  /-- The address to which titles link. -/
  url : Json
  footer : Option Json

/-- The section of a title. -/
def titleSection? (h : Heading) (title : String) : Except Fault (Option Json) := do
  return textSection? (← linkedTitle? (.str title) h.url h.resolved)

/-- The section of a description. -/
def descriptionSection? (description : Json) : Except Fault (Option Json) := do
  return textSection? (← Mrkdwn.ofValue? description)

/-- The mentions that an alert's labels ask for. -/
def alertMentions? (alert : Json) : Except Fault (List String) := do
  Mention.ofLabels? (← Alert.labels alert)

/-- The field of an alert: its name and its value. -/
def alertField? (alert : Json) : Except Fault (Json × Json) := do
  let name ← (← Alert.annotations alert).get "field_name"
  return (name, ← (← Alert.annotations alert).get "field_value")

/-- The section that makes mentions, if there are any. -/
def mentionBlocks (mentions : List String) : List Json :=
  if mentions.isEmpty then [] else [(textSection? (joinWith " " mentions)).getD .null]

/-! ### Tables -/

/-- The title of a table: the emoji, the number of alerts, and the title of the first. -/
def tableTitle (h : Heading) (title : Json) (count : Nat) : String :=
  trim (h.emoji ++ toString count ++ (if title.truthy then " " ++ title.shown else ""))

/-- The unit of the alerts of one table. -/
def tableUnit? (h : Heading) (title description : Json) (alerts : List Json) :
    Except Fault MessageUnit := do
  let titleBlock ← titleSection? h (tableTitle h title alerts.length)
  let descriptionBlock ← descriptionSection? description
  let mentions ← alerts.mapM alertMentions?
  let rows ← alerts.mapM alertField?
  return .table h.status (titleBlock.toList ++ descriptionBlock.toList
    ++ mentionBlocks (dedup mentions.flatten) ++ [tableBlock rows] ++ h.footer.toList)

/-- The units of a group whose alerts have fields, with at most `rows` alerts in a table. -/
def tableUnits? (h : Heading) (rows : Int) (alerts : List Json) :
    Except Fault (List MessageUnit) := do
  let title ← title? h.resolved h.alert
  let description ← description? h.resolved h.alert
  (← chunks rows alerts).mapM (tableUnit? h title description)

/-! ### Plain units -/

/-- The title of an alert: the emoji and the alert's own title. -/
def plainTitle (h : Heading) (title : Json) : String :=
  trim (h.emoji ++ (title.orElse (.str "")).shown)

/-- The unit of one alert. -/
def plainUnit? (h : Heading) (alert : Json) : Except Fault MessageUnit := do
  let titleBlock ← titleSection? h (plainTitle h (← title? h.resolved alert))
  let descriptionBlock ← descriptionSection? (← description? h.resolved alert)
  return .plain h.status (titleBlock.toList ++ descriptionBlock.toList ++ h.footer.toList)
    (← alertMentions? alert)

/-! ### Groups -/

/-- What the first alert of a group says for all, none if it has no annotations, or neither title
nor description. -/
def heading? (alert : Json) : Except Fault (Option Heading) := do
  let annotations ← alert.get "annotations"
  if !annotations.truthy then return none
  let status ← alert.get "status"
  let resolved := isResolved status
  if !(← title? resolved alert).truthy then
    if !(← description? resolved alert).truthy then return none
  let emoji ← annotations.get "emoji"
  let url ← annotations.get "url"
  let footer ← contextBlock? (← annotations.get "footer_text")
    (← annotations.get "footer_icon_url")
  return some {
    alert, status, resolved, footer
    emoji := if emoji.truthy then emoji.shown ++ " " else ""
    url := if resolved then .str "" else url.orElse (.str "") }

/-- The alert names a field and its value. -/
def hasField? (alert : Json) : Except Fault Bool := do
  let annotations ← alert.get "annotations"
  return (← annotations.get "field_name").truthy && (← annotations.get "field_value").truthy

/-- The units of the alerts of one status. -/
def groupUnits? (rows : Int) (alerts : List Json) : Except Fault (List MessageUnit) := do
  match alerts with
  | [] => return []
  | first :: _ =>
    match ← heading? first with
    | none => return []
    | some h =>
      if ← hasField? first then tableUnits? h rows alerts
      else alerts.mapM (plainUnit? h)

/-- The units of resolved alerts first, each part in its order. -/
def resolvedFirst (units : List MessageUnit) : List MessageUnit :=
  units.filter (fun u => isResolved u.status) ++ units.filter (fun u => !isResolved u.status)

/-- The units of alerts. -/
def units? (rows : Int) (alerts : List Json) : Except Fault (List MessageUnit) := do
  let groups ← groupBy? (fun alert => alert.get "status") alerts
  let units ← groups.mapM fun (_, group) => groupUnits? rows group
  return resolvedFirst units.flatten

end AlertBridge.Slack
