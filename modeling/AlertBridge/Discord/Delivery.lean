import AlertBridge.Delivery.Basic
import AlertBridge.Discord.Message

/-!
# Deliveries to Discord

Each alert with content is sent, in a message of its own or packed with others. The query of the
notification goes along with every request. The status tells whether all requests went well.
-/

namespace AlertBridge.Discord

/-- The logger of deliveries with a message for each alert. -/
def singleLogger : String := "relay.handlers_default"

/-- The logger of deliveries with packed messages. -/
def packedLogger : String := "relay.handlers_alternative"

/-- The record about an alert that is left out. -/
def skippedRecord (logger : String) (index : Nat) (fault : Fault) : LogRecord :=
  ⟨.error, logger, "Skip alert with index " ++ toString index, some fault.inRecord⟩

/-- The embeds of alerts, without those that fail or have no content. -/
def cards (logger : String) (n : Notification) (alerts : List Json) : Logged (List Card) :=
  gather (card? n.lexer n.limits.fields) (skippedRecord logger) (fun _ => []) 0 alerts

/-- The records about what came of a request: only a failed one has any. -/
def report (_ : Nat) : SendResult → List LogRecord
  | .ok _ => []
  | .error error =>
    [⟨.error, singleLogger, "Request error in \"" ++ singleLogger ++ "\": " ++ error.describe,
      none⟩]

/-- Messages are sent. -/
def send (n : Notification) (messages : List Json) (script : List Webhook.Outcome) : Sending :=
  sendAll n.hook n.query report 0 messages script

/-- The status of a delivery: an error if any request failed. -/
def statusOf (sending : Sending) : Int := if sending.failed = 0 then 200 else 500

/-- A notification is delivered with a message for each alert. -/
def deliverSingle (n : Notification) (script : List Webhook.Outcome) : Delivery :=
  Delivery.ofAlerts singleLogger n script fun alerts =>
    let ⟨cards, log⟩ := cards singleLogger n alerts
    .after log <|
      if cards.isEmpty then
        .silent (.ok 400) [Delivery.nothingRecord singleLogger alerts] script
      else
        let sending := send n (cards.map Card.message) script
        sending.delivery (statusOf sending)
          ⟨.info, singleLogger, toString cards.length ++ " objects have been sent", none⟩

/-- Packed messages are sent. -/
def sendPacked (n : Notification) (cards : List Card) (script : List Webhook.Outcome) : Delivery :=
  match packMessages n.limits.embeds cards with
  | .error fault => .silent (.error fault) [] script
  | .ok messages =>
    let sending := send n messages script
    sending.delivery (statusOf sending)
      ⟨.info, packedLogger, toString messages.length ++ " message(s) sent from "
        ++ toString cards.length ++ " alert(s)", none⟩

/-- A notification is delivered with packed messages. -/
def deliverPacked (n : Notification) (script : List Webhook.Outcome) : Delivery :=
  Delivery.ofAlerts packedLogger n script fun alerts =>
    let ⟨cards, log⟩ := cards packedLogger n alerts
    .after log <|
      if cards.isEmpty then
        .silent (.ok 400) [Delivery.nothingRecord packedLogger alerts] script
      else sendPacked n cards script

end AlertBridge.Discord
