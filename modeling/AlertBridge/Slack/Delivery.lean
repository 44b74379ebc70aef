import AlertBridge.Delivery.Basic
import AlertBridge.Slack.Packing
import AlertBridge.Slack.Report
import AlertBridge.Slack.Rich

/-!
# Deliveries to Slack

Each alert with content is sent as a rich message of its own, or all alerts become units that are
packed into messages. Failed requests are in the log, and do not change the status.
-/

namespace AlertBridge.Slack

/-- The logger of deliveries with a message for each alert. -/
def richLogger : String := "relay.handlers_slack_default"

/-- The logger of deliveries with packed messages. -/
def packedLogger : String := "relay.handlers_slack_alternative"

/-- A message of blocks. -/
def message (blocks : List Json) : Json := .obj [("text", .str ""), ("blocks", .arr blocks)]

/-- The record about an alert that is left out for a fault. -/
def failedRecord (index : Nat) (fault : Fault) : LogRecord :=
  ⟨.error, richLogger, "Skip alert with index " ++ toString index ++ ": " ++ fault.inMessage,
    some fault.inRecord⟩

/-- The record about an alert that is left out because it has no content. -/
def emptyRecord (index : Nat) : LogRecord :=
  ⟨.warning, richLogger, "Skip alert with index " ++ toString index
    ++ ": empty 'summary' and 'description'", none⟩

/-- The blocks of each alert, without those that fail or have no content. -/
def richAlerts (n : Notification) (alerts : List Json) : Logged (List (List Json)) :=
  gather (alertBlocks? n.lexer n.ceiling) failedRecord (fun index => [emptyRecord index]) 0 alerts

/-- A notification is delivered with a rich message for each alert. -/
def deliverRich (n : Notification) (script : List Webhook.Outcome) : Delivery :=
  Delivery.ofAlerts richLogger n script fun alerts =>
    let ⟨built, log⟩ := richAlerts n alerts
    .after log <|
      if built.isEmpty then
        .silent (.ok 400) [Delivery.nothingRecord richLogger alerts] script
      else
        let sending := sendAll n.hook [] (fun _ result => [reportRecord none result]) 0
          (built.map message) script
        sending.delivery 200
          ⟨.info, richLogger, toString sending.answered ++ "/" ++ toString built.length ++ "/"
            ++ toString alerts.length ++ " objects have been sent", none⟩

/-- The place of one of several messages. -/
def placeOf (messages : List (List Json)) (alerts : Nat) (index : Nat) : MessagePlace :=
  ⟨index, messages.length, (messages.getD index []).length, alerts⟩

/-- Units are packed and sent. -/
def sendUnits (n : Notification) (units : List MessageUnit) (alerts : Nat)
    (script : List Webhook.Outcome) : Delivery :=
  let messages := packUnits n.limits.embeds units
  let sending := sendAll n.hook []
    (fun index result => [reportRecord (some (placeOf messages alerts index)) result]) 0
    (messages.map message) script
  sending.delivery 200
    ⟨.info, packedLogger, toString messages.length ++ " message(s) sent from "
      ++ toString units.length ++ " unit(s), " ++ toString alerts ++ " alert(s)", none⟩

/-- The record about a notification whose alerts make no blocks. -/
def noDataRecord : LogRecord := ⟨.warning, packedLogger, "No data to write to Slack blocks", none⟩

/-- A notification is delivered with packed messages. A fault of any alert ends the delivery. -/
def deliverPacked (n : Notification) (script : List Webhook.Outcome) : Delivery :=
  Delivery.ofAlerts packedLogger n script fun alerts =>
    .after [⟨.info, packedLogger, "Received " ++ toString alerts.length
      ++ " alert(s) from Alertmanager", none⟩] <|
      match units? n.limits.rows alerts with
      | .error fault => .silent (.error fault) [] script
      | .ok [] => .silent (.ok 400) [noDataRecord] script
      | .ok units => sendUnits n units alerts.length script

end AlertBridge.Slack
