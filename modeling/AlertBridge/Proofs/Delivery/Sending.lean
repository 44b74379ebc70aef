import AlertBridge.Delivery.Basic

/-!
# What posting payloads does

Payloads are posted one after the other, each whatever came of those before it: only a transport
that breaks would end the sending. So the requests are those of the payloads that can be sent at
all, and what can go wrong with them is counted.

## Main definitions

* `Webhook.request?`: the request that posts a payload
* `Webhook.attempts`: an attempt for each payload
* `IsSent`: all payloads are attempted, and the failed ones are counted
* `Delivery.shown`: the status and the requests of a delivery

## Main results

* `isSent_sendAll`: payloads are sent if the transport holds
-/

namespace AlertBridge

namespace Webhook

/-- The transport broke. -/
def Outcome.isBroken : Outcome → Bool
  | .broken .. => true
  | _ => false

/-- The request that posts a payload, none if it cannot be sent: the address has no scheme, or JSON
cannot write the payload. -/
def request? (hook : String) (parameters : List (String × String)) (payload : Json) :
    Option Post :=
  (target? hook parameters).bind fun url =>
    if payload.isFinite then some ⟨url, payload, timeout⟩ else none

/-- The attempt did not come to an answer that is a success. -/
def Attempt.isFailed (attempt : Attempt) : Bool :=
  match attempt.result with
  | .ok _ => false
  | .error _ => true

/-- Each payload is attempted, with what the attempts before it left of the script. -/
def attempts (hook : String) (parameters : List (String × String)) :
    List Json → List Outcome → List Attempt
  | [], _ => []
  | payload :: rest, script =>
    let (attempt, left) := post hook parameters payload script
    attempt :: attempts hook parameters rest left

variable {hook : String} {parameters : List (String × String)} {payload : Json}
  {payloads : List Json} {script : List Outcome}

/-! ## One attempt -/

theorem request?_eq_some_iff {post : Post} : request? hook parameters payload = some post ↔
    ∃ url, target? hook parameters = some url ∧ payload.isFinite ∧
      post = ⟨url, payload, timeout⟩ := by
  rw [request?, Option.bind_eq_some_iff]
  refine exists_congr fun url => and_congr_right fun _ => ?_
  by_cases hfinite : payload.isFinite
  · simp [hfinite, eq_comm]
  · simp [hfinite]

/-- The request of an attempt does not depend on what comes of it. -/
theorem post_fst_post : (post hook parameters payload script).1.post =
    request? hook parameters payload := by
  unfold post request?
  cases htarget : target? hook parameters with
  | none => rfl
  | some url =>
    by_cases hfinite : payload.isFinite
    · simp only [hfinite, if_true, Option.bind_some]
      cases script.headD .default <;> rfl
    · simp only [hfinite, Bool.false_eq_true, if_false, Option.bind_some]
      rfl

/-- The request of the first payload stands in front of those of the rest. -/
theorem filterMap_request?_cons (payload : Json) (rest : List Json) :
    (payload :: rest).filterMap (request? hook parameters) =
      (post hook parameters payload script).1.post.toList ++
        rest.filterMap (request? hook parameters) := by
  rw [post_fst_post, List.filterMap_cons]
  cases request? hook parameters payload <;> rfl

theorem mem_of_mem_post_snd {outcome : Outcome}
    (h : outcome ∈ (post hook parameters payload script).2) : outcome ∈ script := by
  unfold post at h
  split at h
  · exact h
  · split at h
    · exact List.mem_of_mem_tail h
    · exact h

/-- An outcome other than a broken transport leads to an answer or to a failed request. -/
theorem result_attempt_ne_transport {outcome : Outcome} (h : outcome.isBroken = false)
    (request : Post) (label message : String) :
    (outcome.attempt request).result ≠ .error (.transport label message) := by
  cases outcome with
  | failed text => simp [Outcome.attempt]
  | broken => cases h
  | answered status reason text =>
    rw [Outcome.attempt]
    dsimp only
    split <;> simp

theorem result_post_ne_transport (hscript : ∀ outcome ∈ script, outcome.isBroken = false)
    (label message : String) :
    (post hook parameters payload script).1.result ≠ .error (.transport label message) := by
  have hnext : (script.headD .default).isBroken = false := by
    cases script with
    | nil => rfl
    | cons outcome rest => exact hscript outcome List.mem_cons_self
  unfold post
  split
  · simp [unsent]
  · split
    · exact result_attempt_ne_transport hnext _ label message
    · simp [unsent]

end Webhook

open Webhook (Attempt Outcome request? attempts)

/-- Every payload is attempted, and the failed ones are counted. -/
structure IsSent (hook : String) (parameters : List (String × String)) (payloads : List Json)
    (script : List Outcome) (sending : Sending) : Prop where
  fault_eq : sending.fault = none
  posts_eq : sending.posts = payloads.filterMap (request? hook parameters)
  failed_eq : sending.failed = (attempts hook parameters payloads script).countP Attempt.isFailed
  answered_add_failed : sending.answered + sending.failed = payloads.length

/-- What a delivery shows: its status and its requests. -/
def Delivery.shown (d : Delivery) : Except Fault Int × List Webhook.Post := (d.status, d.posts)

variable {hook : String} {parameters : List (String × String)}

/-- What a sending shows: the status that its delivery has if no fault ended it, and its requests. -/
def Sending.shown (sending : Sending) (status : Int) : Except Fault Int × List Webhook.Post :=
  (match sending.fault with
    | some fault => .error fault
    | none => .ok status, sending.posts)

theorem Sending.shown_delivery (sending : Sending) (status : Int) (last : LogRecord) :
    (sending.delivery status last).shown = sending.shown status := by
  rw [Sending.delivery, Sending.shown]
  cases sending.fault <;> rfl

/-- A sending that came to its end shows its requests. -/
theorem IsSent.shown_eq {payloads : List Json} {script : List Outcome} {sending : Sending}
    (h : IsSent hook parameters payloads script sending) (status : Int) :
    sending.shown status = (.ok status, payloads.filterMap (request? hook parameters)) := by
  rw [Sending.shown, h.fault_eq, h.posts_eq]

theorem IsSent.shown_delivery {payloads : List Json} {script : List Outcome} {sending : Sending}
    (h : IsSent hook parameters payloads script sending) (status : Int) (last : LogRecord) :
    (sending.delivery status last).shown =
      (.ok status, payloads.filterMap (request? hook parameters)) :=
  (sending.shown_delivery status last).trans (h.shown_eq status)

/-- However a sending ends, its requests are those of the payloads in front: an answer and a failed
request go on with the rest, and a broken transport ends it. -/
theorem isPrefix_posts_sendAll (report : Nat → SendResult → List LogRecord) (index : Nat)
    (payloads : List Json) (script : List Outcome) :
    (sendAll hook parameters report index payloads script).posts <+:
      payloads.filterMap (request? hook parameters) := by
  induction payloads generalizing index script with
  | nil => exact List.prefix_refl _
  | cons payload rest ih =>
    rw [Webhook.filterMap_request?_cons, sendAll]
    dsimp only
    split
    · exact (List.prefix_append_right_inj _).2 (ih _ _)
    · exact (List.prefix_append_right_inj _).2 (ih _ _)
    · exact List.prefix_append _ _

/-- **Payloads are sent** if the transport holds, one whatever came of the others. -/
theorem isSent_sendAll (hook : String) (parameters : List (String × String))
    (report : Nat → SendResult → List LogRecord) (index : Nat) (payloads : List Json)
    {script : List Outcome} (hscript : ∀ outcome ∈ script, outcome.isBroken = false) :
    IsSent hook parameters payloads script
      (sendAll hook parameters report index payloads script) := by
  induction payloads generalizing index script with
  | nil => exact ⟨rfl, rfl, rfl, rfl⟩
  | cons payload rest ih =>
    have hleft : ∀ outcome ∈ (Webhook.post hook parameters payload script).2,
        outcome.isBroken = false := fun outcome h =>
      hscript outcome (Webhook.mem_of_mem_post_snd h)
    have hrest := ih (index + 1) hleft
    rw [sendAll]
    dsimp only
    split
    · next reply hresult =>
      have hfailed : (Webhook.post hook parameters payload script).1.isFailed = false := by
        rw [Attempt.isFailed, hresult]
      refine ⟨hrest.fault_eq, ?_, ?_, ?_⟩
      · rw [Webhook.filterMap_request?_cons, hrest.posts_eq]
      · rw [attempts, List.countP_cons_of_neg (by simp [hfailed]), hrest.failed_eq]
      · exact (Nat.add_right_comm _ 1 _).trans (congrArg (· + 1) hrest.answered_add_failed)
    · next error hresult =>
      have hfailed : (Webhook.post hook parameters payload script).1.isFailed = true := by
        rw [Attempt.isFailed, hresult]
      refine ⟨hrest.fault_eq, ?_, ?_, ?_⟩
      · rw [Webhook.filterMap_request?_cons, hrest.posts_eq]
      · rw [attempts, List.countP_cons_of_pos hfailed, hrest.failed_eq]
      · exact congrArg (· + 1) hrest.answered_add_failed
    · next label message hresult =>
      exact absurd hresult (Webhook.result_post_ne_transport hscript label message)

end AlertBridge
