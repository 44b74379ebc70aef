import AlertBridge.Json.Written
import AlertBridge.Log.Record
import AlertBridge.Webhook.Address

/-!
# Requests to webhooks

A payload is posted to a webhook as JSON. What comes of it is the next outcome of a script: an
answer, or a failure of the transport. An answer of 400 or more is a failed request, and so is a
payload that JSON cannot write, which is not even sent.
-/

namespace AlertBridge.Webhook

/-- What comes of a request that is sent. -/
inductive Outcome where
  /-- There is an answer with a status, its reason and a text. -/
  | answered (status : Int) (reason text : String)
  /-- The request failed. -/
  | failed (message : String)
  /-- The transport itself failed, which is not a failed request. -/
  | broken (label message : String)

/-- What comes of a request once the script is over. -/
def Outcome.default : Outcome := .answered 200 "" "ok"

/-- A request as it is sent. -/
structure Post where
  url : String
  body : Json
  timeout : Int

/-- An answer. -/
structure Reply where
  status : Int
  text : String

/-- What is known of the request behind a failure. -/
structure RequestPart where
  method : String
  /-- The length of the body, if there is one. -/
  length : Option Nat

/-- A failed request. -/
structure RequestError where
  message : String
  request : Option RequestPart
  reply : Option Reply

namespace RequestError

/-- What is known of a request, for the log. -/
def describeRequest (request : RequestPart) : String :=
  (if request.method = "" then "" else "; Method: " ++ request.method)
    ++ match request.length with
      | some n => "; Request data length: " ++ toString n
      | none => ""

/-- A failed request, for the log. -/
def describe (error : RequestError) : String :=
  error.message ++ (error.request.map describeRequest).getD ""
    ++ match error.reply with
      | some reply => "; Status: " ++ toString reply.status
      | none => ""

end RequestError

/-- Why there is no answer to use. -/
inductive SendFault where
  | request (error : RequestError)
  | transport (label message : String)

/-- What was done to post one payload: the request, unless it was not sent, what came of it, and
the records on the way. -/
structure Attempt where
  post : Option Post
  result : Except SendFault Reply
  log : List LogRecord

/-- How long to wait for an answer, in seconds. -/
def timeout : Int := 10

/-- A record of the sender. -/
def senderRecord (event : String) : LogRecord := ⟨.debug, "relay.services", event, none⟩

/-- The records about an answer; that of an error tells what it says. -/
def replyLog (reply : Reply) : List LogRecord :=
  senderRecord ("Webhook response: " ++ toString reply.status) ::
    if reply.status ≥ 400 then
      [senderRecord ("Response content: " ++ takeText 1000 reply.text)]
    else []

/-- The message about an answer that is an error. -/
def statusMessage? (status : Int) (reason url : String) : Option String :=
  let text (side : String) : String :=
    toString status ++ " " ++ side ++ " Error: " ++ reason ++ " for url: " ++ url
  if 400 ≤ status ∧ status < 500 then some (text "Client")
  else if 500 ≤ status ∧ status < 600 then some (text "Server")
  else none

/-- The attempt at a request, with its outcome. -/
def Outcome.attempt (outcome : Outcome) (post : Post) : Attempt :=
  let sent : RequestPart := ⟨"POST", some (post.body.written Json.spacedAscii).length⟩
  match outcome with
  | .failed message => ⟨some post, .error (.request ⟨message, some sent, none⟩), []⟩
  | .broken label message => ⟨some post, .error (.transport label message), []⟩
  | .answered status reason text =>
    let reply : Reply := ⟨status, text⟩
    ⟨some post, match statusMessage? status reason post.url with
      | some message => .error (.request ⟨message, some sent, some reply⟩)
      | none => .ok reply, replyLog reply⟩

/-- The attempt at a request that is not sent. -/
def unsent (message : String) (request : Option RequestPart) : Attempt :=
  ⟨none, .error (.request ⟨message, request, none⟩), []⟩

/-- The message about a webhook whose address has no scheme. -/
def noScheme (hook : String) : String :=
  "Invalid URL '" ++ hook ++ "': No scheme supplied. Perhaps you meant https://" ++ hook ++ "?"

/-- A payload is posted to a webhook with parameters. The result is the attempt and what is left
of the script. -/
def post (hook : String) (parameters : List (String × String)) (payload : Json)
    (script : List Outcome) : Attempt × List Outcome :=
  match target? hook parameters with
  | none => (unsent (noScheme hook) none, script)
  | some url =>
    if payload.isFinite then
      ((script.headD .default).attempt ⟨url, payload, timeout⟩, script.tail)
    else
      (unsent "Out of range float values are not JSON compliant" (some ⟨"POST", none⟩), script)

end AlertBridge.Webhook
