import AlertBridge.Alert.Basic
import AlertBridge.Settings
import AlertBridge.Token.Lexer
import AlertBridge.Webhook.Request

/-!
# Deliveries

A notification that has come in is delivered: its alerts become payloads, and these are posted to
a webhook. `gather` builds something out of each alert, and an alert for which that fails is left
out without harm to the others. `sendAll` posts payloads one after the other; a failed request
does not keep the next one from being sent, only a broken transport does.
-/

namespace AlertBridge

/-- A notification, and all that its delivery depends on. -/
structure Notification where
  hook : String
  body : Json
  query : List (String × String)
  limits : Limits
  lexer : Lexer
  ceiling : Int

/-- What a delivery did: the status it ends with, or the fault that ended it, the requests sent,
the records written, and what is left of the script of outcomes. -/
structure Delivery where
  status : Except Fault Int
  posts : List Webhook.Post
  log : List LogRecord
  script : List Webhook.Outcome

namespace Delivery

/-- A delivery that sends nothing. -/
def silent (status : Except Fault Int) (log : List LogRecord) (script : List Webhook.Outcome) :
    Delivery := ⟨status, [], log, script⟩

/-- The delivery with records in front of its own. -/
def after (log : List LogRecord) (delivery : Delivery) : Delivery :=
  { delivery with log := log ++ delivery.log }

/-- The record about a notification without alerts. -/
def unexpectedRecord (logger : String) (body : Json) : LogRecord :=
  ⟨.error, logger, "Unexpected request from Alertmanager: " ++ body.written Json.spacedAscii, none⟩

/-- The record about alerts of which none is left to send. -/
def nothingRecord (logger : String) (alerts : List Json) : LogRecord :=
  ⟨.warning, logger, "Nothing to send, all alerts has been filtered out. Received data: "
    ++ (Json.arr alerts).written Json.spacedAscii, none⟩

/-- The delivery of a notification's alerts; a notification that has none is refused. -/
def ofAlerts (logger : String) (n : Notification) (script : List Webhook.Outcome)
    (deliver : List Json → Delivery) : Delivery :=
  match Alert.ofBody? n.body with
  | some alerts => deliver alerts
  | none => silent (.ok 400) [unexpectedRecord logger n.body] script

end Delivery

/-! ### Building -/

variable {α : Type}

/-- What is built out of alerts, in their order, where `index` is the number of the first one. An
alert for which the building fails or gives nothing leaves the records of `failed` or `empty`. -/
def gather (build : Json → Logged (Except Fault (Option α))) (failed : Nat → Fault → LogRecord)
    (empty : Nat → List LogRecord) (index : Nat) : List Json → Logged (List α)
  | [] => return []
  | alert :: rest => do
    match ← build alert with
    | .ok (some x) => return x :: (← gather build failed empty (index + 1) rest)
    | .ok none => do
      ⟨(), empty index⟩
      gather build failed empty (index + 1) rest
    | .error fault => do
      Logged.write (failed index fault)
      gather build failed empty (index + 1) rest

/-! ### Sending -/

/-- What came of posting payloads: the requests sent, the records written, the script that is
left, how many requests were answered and how many failed, and the fault that ended it, if any. -/
structure Sending where
  posts : List Webhook.Post
  log : List LogRecord
  script : List Webhook.Outcome
  answered : Nat
  failed : Nat
  fault : Option Fault

namespace Sending

/-- Nothing is left to post. -/
def done (script : List Webhook.Outcome) : Sending := ⟨[], [], script, 0, 0, none⟩

end Sending

/-- What a report is about: an answer or a failed request. -/
abbrev SendResult := Except Webhook.RequestError Webhook.Reply

/-- Payloads are posted to a webhook, where `index` is the number of the first one. `report` gives
the records about each. -/
def sendAll (hook : String) (query : List (String × String))
    (report : Nat → SendResult → List LogRecord) (index : Nat) :
    List Json → List Webhook.Outcome → Sending
  | [], script => .done script
  | payload :: rest, script =>
    let (attempt, left) := Webhook.post hook query payload script
    match attempt.result with
    | .ok reply =>
      let next := sendAll hook query report (index + 1) rest left
      { next with
        posts := attempt.post.toList ++ next.posts
        log := attempt.log ++ report index (.ok reply) ++ next.log
        answered := next.answered + 1 }
    | .error (.request error) =>
      let next := sendAll hook query report (index + 1) rest left
      { next with
        posts := attempt.post.toList ++ next.posts
        log := attempt.log ++ report index (.error error) ++ next.log
        failed := next.failed + 1 }
    | .error (.transport label message) =>
      ⟨attempt.post.toList, attempt.log, left, 0, 0, some (.transport label message)⟩

/-- The delivery that a sending makes, with the status and the last record of one that came to its
end. -/
def Sending.delivery (sending : Sending) (status : Int) (last : LogRecord) : Delivery :=
  match sending.fault with
  | some fault => ⟨.error fault, sending.posts, sending.log, sending.script⟩
  | none => ⟨.ok status, sending.posts, sending.log ++ [last], sending.script⟩

end AlertBridge
