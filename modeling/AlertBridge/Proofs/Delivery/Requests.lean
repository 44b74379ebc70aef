import AlertBridge.Proofs.Delivery.Isolation

/-!
# Where the requests of a delivery go

However a delivery ends, all its requests go to one address, that of the webhook with the parameters
that the platform gets. A delivery that is refused has made none. This holds of all handlers, also if
the transport breaks, and whatever the notification is.

## Main definitions

* `Delivery.IsDirected`: what a delivery can come to, and where its requests go

## Main results

* `Handler.isDirected_deliver`: the delivery of any notification by any handler
-/

namespace AlertBridge

open Webhook (Outcome request? target?)

/-- A delivery ends with a success, a refusal or an error, or with a fault. A refused one sends
nothing, and all requests go to a webhook with parameters. -/
structure Delivery.IsDirected (hook : String) (parameters : List (String × String))
    (d : Delivery) : Prop where
  status_mem : ∀ status, d.status = .ok status → status ∈ [200, 400, 500]
  posts_of_refused : d.status = .ok 400 → d.posts = []
  target_eq : ∀ post ∈ d.posts, target? hook parameters = some post.url

variable {hook : String} {parameters : List (String × String)} {script : List Outcome}

/-! ## Requests -/

theorem Webhook.target?_of_request? {payload : Json} {post : Webhook.Post}
    (h : request? hook parameters payload = some post) :
    target? hook parameters = some post.url := by
  obtain ⟨url, hurl, -, rfl⟩ := Webhook.request?_eq_some_iff.1 h
  exact hurl

/-- Each payload goes to the same webhook, also if the transport breaks on the way. -/
theorem target?_of_mem_posts_sendAll (report : Nat → SendResult → List LogRecord) (index : Nat)
    (payloads : List Json) {post : Webhook.Post}
    (h : post ∈ (sendAll hook parameters report index payloads script).posts) :
    target? hook parameters = some post.url := by
  obtain ⟨payload, -, hpost⟩ := List.mem_filterMap.1
    ((isPrefix_posts_sendAll report index payloads script).subset h)
  exact Webhook.target?_of_request? hpost

/-! ## Deliveries -/

namespace Delivery

theorem isDirected_refusal (log : List LogRecord) :
    IsDirected hook parameters (silent (.ok 400) log script) where
  status_mem status h := by
    obtain rfl : (400 : Int) = status := Except.ok.inj h
    simp
  posts_of_refused _ := rfl
  target_eq _ h := by cases h

theorem isDirected_fault (fault : Fault) (log : List LogRecord) :
    IsDirected hook parameters (silent (.error fault) log script) where
  status_mem _ h := by cases h
  posts_of_refused _ := rfl
  target_eq _ h := by cases h

/-- Records in front of a delivery do not matter. -/
theorem IsDirected.after {d : Delivery} (h : d.IsDirected hook parameters)
    (log : List LogRecord) : (d.after log).IsDirected hook parameters :=
  ⟨h.status_mem, h.posts_of_refused, h.target_eq⟩

/-- A sending is no refusal. -/
theorem isDirected_delivery {sending : Sending} {status : Int} (last : LogRecord)
    (hstatus : status = 200 ∨ status = 500)
    (htarget : ∀ post ∈ sending.posts, target? hook parameters = some post.url) :
    (sending.delivery status last).IsDirected hook parameters := by
  unfold Sending.delivery
  split
  · constructor
    · intro _ h
      cases h
    · intro h
      cases h
    · exact htarget
  · constructor
    · intro s h
      obtain rfl := Except.ok.inj h
      rcases hstatus with rfl | rfl <;> simp
    · intro h
      obtain rfl := Except.ok.inj h
      rcases hstatus with hstatus | hstatus <;> cases hstatus
    · exact htarget

/-- A notification without alerts is refused. -/
theorem isDirected_ofAlerts {logger : String} {n : Notification}
    {deliver : List Json → Delivery}
    (h : ∀ alerts, (deliver alerts).IsDirected hook parameters) :
    (ofAlerts logger n script deliver).IsDirected hook parameters := by
  unfold ofAlerts
  split
  · exact h _
  · exact isDirected_refusal _

end Delivery

open Delivery (isDirected_refusal isDirected_fault isDirected_delivery isDirected_ofAlerts)

variable (n : Notification)

theorem isDirected_sendAll {payloads : List Json} {report : Nat → SendResult → List LogRecord}
    {status : Int} (last : LogRecord) (hstatus : status = 200 ∨ status = 500) :
    ((sendAll hook parameters report 0 payloads script).delivery status last).IsDirected
      hook parameters :=
  isDirected_delivery last hstatus fun _ h => target?_of_mem_posts_sendAll report 0 payloads h

/-! ## Handlers -/

theorem Discord.statusOf_eq_or (sending : Sending) :
    statusOf sending = 200 ∨ statusOf sending = 500 :=
  ite_eq_or_eq _ _ _

theorem Discord.isDirected_deliverSingle (script : List Outcome) :
    (deliverSingle n script).IsDirected n.hook n.query := by
  refine isDirected_ofAlerts fun alerts => .after ?_ _
  split
  · exact isDirected_refusal _
  · exact isDirected_sendAll _ (statusOf_eq_or _)

theorem Discord.isDirected_deliverPacked (script : List Outcome) :
    (deliverPacked n script).IsDirected n.hook n.query := by
  refine isDirected_ofAlerts fun alerts => .after ?_ _
  split
  · exact isDirected_refusal _
  · unfold sendPacked
    split
    · exact isDirected_fault _ _
    · exact isDirected_sendAll _ (statusOf_eq_or _)

theorem Slack.isDirected_deliverRich (script : List Outcome) :
    (deliverRich n script).IsDirected n.hook [] := by
  refine isDirected_ofAlerts fun alerts => .after ?_ _
  split
  · exact isDirected_refusal _
  · exact isDirected_sendAll _ (.inl rfl)

theorem Slack.isDirected_deliverPacked (script : List Outcome) :
    (deliverPacked n script).IsDirected n.hook [] := by
  refine isDirected_ofAlerts fun alerts => .after ?_ _
  split
  · exact isDirected_fault _ _
  · exact isDirected_refusal _
  · exact isDirected_sendAll _ (.inl rfl)

/-- **All requests of a delivery go to the webhook**, those to Discord with the parameters of the
notification. -/
theorem Handler.isDirected_deliver (h : Handler) (script : List Outcome) :
    (h.deliver n script).IsDirected n.hook (h.parameters n) := by
  obtain ⟨_ | _, _ | _⟩ := h
  · exact Discord.isDirected_deliverSingle n script
  · exact Discord.isDirected_deliverPacked n script
  · exact Slack.isDirected_deliverRich n script
  · exact Slack.isDirected_deliverPacked n script

end AlertBridge
