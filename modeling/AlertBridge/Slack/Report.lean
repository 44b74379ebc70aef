import AlertBridge.Json.Access
import AlertBridge.Log.Record
import AlertBridge.Webhook.Request

/-!
# Reports about messages to Slack

What the log says about the answer to a message and about one that failed. Where a message is one
of several, the record tells its place among them.
-/

namespace AlertBridge.Slack

/-- The place of a message among those of one notification. -/
structure MessagePlace where
  /-- The number of the message, counted from zero. -/
  index : Int
  total : Int
  blocks : Int
  alerts : Int

namespace MessagePlace

/-- The place of a message, for the log. -/
def describe (place : MessagePlace) : String :=
  " [message " ++ toString (place.index + 1) ++ "/" ++ toString place.total
    ++ ", blocks=" ++ toString place.blocks ++ ", alerts=" ++ toString place.alerts ++ "]"

/-- The integer under a name that an object has to have. -/
def number? (v : Json) (name : String) : Except Fault Int := do
  match ← v.require name with
  | .int n => return n
  | _ => throw .notAddable

/-- The place that data describe, none if they do not count as present. -/
def ofJson? (v : Json) : Except Fault (Option MessagePlace) := do
  if !v.truthy then return none
  return some {
    index := ← number? v "message_index"
    total := ← number? v "total_messages"
    blocks := ← number? v "blocks_count"
    alerts := ← number? v "alerts_count" }

end MessagePlace

/-- The place of a message, if it has one. -/
def describePlace (place : Option MessagePlace) : String :=
  (place.map MessagePlace.describe).getD ""

/-- The record about an answer. -/
def replyRecord (reply : Webhook.Reply) (place : Option MessagePlace) : LogRecord :=
  ⟨.debug, "relay.slack_helpers", "Slack response: " ++ toString reply.status ++ " "
    ++ takeText 500 reply.text ++ describePlace place, none⟩

/-- The record about a failed request. -/
def errorRecord (error : Webhook.RequestError) (place : Option MessagePlace) : LogRecord :=
  let details := match error.reply with
    | some reply =>
      "; Status: " ++ toString reply.status ++ "; Body: " ++ takeText 1000 reply.text
    | none => ""
  ⟨.error, "relay.slack_helpers", "Slack webhook error: " ++ error.message ++ details
    ++ describePlace place, none⟩

/-- The record about what came of a message. -/
def reportRecord (place : Option MessagePlace)
    (result : Except Webhook.RequestError Webhook.Reply) : LogRecord :=
  match result with
  | .ok reply => replyRecord reply place
  | .error error => errorRecord error place

end AlertBridge.Slack
