import AlertBridge.Endpoint.Handler
import AlertBridge.Proofs.Chunk
import AlertBridge.Proofs.Delivery.Sending
import AlertBridge.Proofs.Fault.Sequence

/-!
# Alerts that do not harm each other

All handlers but that of packed Slack messages build something out of each alert by itself. An
alert for which that fails, or that has no content, is as good as absent: the delivery ends as it
would without the alert, with the same requests. The delivery is refused if no alert is left, and
else every message is attempted. A failed request shows in the status of a delivery to Discord, and
nowhere in that of one to Slack.

## Main definitions

* `Handler.kept`: the alerts of which something can be built
* `Handler.bodies`: the messages for alerts
* `Handler.Isolates`: how a delivery comes out

## Main results

* `Handler.isolates_deliver`: how the delivery of any alerts comes out
-/

namespace AlertBridge

open Webhook (Attempt Outcome attempts request?)

variable {α : Type}

/-! ## Building -/

/-- What is built, none if the building fails or gives nothing. -/
def Logged.built? (building : Logged (Except Fault (Option α))) : Option α :=
  building.value.toOption.join

/-- What is gathered is built out of the single alerts, in their order. -/
theorem value_gather (build : Json → Logged (Except Fault (Option α)))
    (failed : Nat → Fault → LogRecord) (empty : Nat → List LogRecord) (index : Nat)
    (alerts : List Json) :
    (gather build failed empty index alerts).value =
      alerts.filterMap fun alert => (build alert).built? := by
  induction alerts generalizing index with
  | nil => rfl
  | cons alert rest ih =>
    rw [gather, Logged.value_bind]
    split
    · next x hbuilt =>
      rw [Logged.value_bind, Logged.value_pure, ih,
        List.filterMap_cons_some (by rw [Logged.built?, hbuilt]; rfl)]
    · next hbuilt =>
      rw [Logged.value_bind, ih, List.filterMap_cons_none (by rw [Logged.built?, hbuilt]; rfl)]
    · next fault hbuilt =>
      rw [Logged.value_bind, ih, List.filterMap_cons_none (by rw [Logged.built?, hbuilt]; rfl)]

/-- Only the elements of which something is made matter for what is made. -/
theorem filterMap_filter_isSome (f : Json → Option α) (alerts : List Json) :
    (alerts.filter fun alert => (f alert).isSome).filterMap f = alerts.filterMap f := by
  rw [List.filterMap_filter]
  refine List.filterMap_congr fun alert _ => ?_
  cases f alert <;> rfl

theorem filterMap_eq_nil_iff_filter (f : Json → Option α) (alerts : List Json) :
    alerts.filterMap f = [] ↔ (alerts.filter fun alert => (f alert).isSome) = [] := by
  rw [List.filterMap_eq_nil_iff, List.filter_eq_nil_iff]
  simp

namespace Handler

/-- The card that Discord shows for an alert. -/
def card? (n : Notification) (alert : Json) : Option Discord.Card :=
  (Discord.card? n.lexer n.limits.fields alert).built?

/-- The blocks that Slack shows for an alert. -/
def blocks? (n : Notification) (alert : Json) : Option (List Json) :=
  (Slack.alertBlocks? n.lexer n.ceiling alert).built?

/-- Something can be built of an alert by itself. -/
def builds (h : Handler) (n : Notification) (alert : Json) : Bool :=
  match h.platform with
  | .discord => (card? n alert).isSome
  | .slack => (blocks? n alert).isSome

/-- The alerts of which something can be built. -/
def kept (h : Handler) (n : Notification) (alerts : List Json) : List Json :=
  alerts.filter (h.builds n)

/-- The messages for alerts. -/
def bodies (h : Handler) (n : Notification) (alerts : List Json) : List Json :=
  match h.platform, h.packed with
  | .discord, false => (alerts.filterMap (card? n)).map Discord.Card.message
  | .discord, true =>
    (pieces (n.limits.embeds.toNat - 1) (alerts.filterMap (card? n))).map Discord.packedMessage
  | .slack, _ => (alerts.filterMap (blocks? n)).map Slack.message

/-- The parameters of the requests: Discord gets those of the notification. -/
def parameters (h : Handler) (n : Notification) : List (String × String) :=
  match h.platform with
  | .discord => n.query
  | .slack => []

/-- The status of a delivery with a failed request. -/
def failure (h : Handler) : Int :=
  match h.platform with
  | .discord => 500
  | .slack => 200

/-- The handler builds each alert by itself. -/
def IsPerAlert (h : Handler) : Prop := h ≠ ⟨.slack, true⟩

instance (h : Handler) : Decidable h.IsPerAlert := inferInstanceAs (Decidable (h ≠ _))

theorem isPerAlert_discord (packed : Bool) : IsPerAlert ⟨.discord, packed⟩ := by
  simp [IsPerAlert]

/-- How a delivery of alerts comes out that do not harm each other. -/
structure Isolates (h : Handler) (n : Notification) (alerts : List Json)
    (script : List Outcome) : Prop where
  succeeds : Succeeds (h.deliver n script).status
  /-- Without the other alerts, those of which something can be built show the same. -/
  shown_eq_of_kept {body : Json} (hbody : Alert.ofBody? body = some (h.kept n alerts)) :
    (h.deliver n script).shown = (h.deliver { n with body } script).shown
  refused_iff : (h.deliver n script).status = .ok 400 ↔ h.kept n alerts = []
  posts_of_refused : h.kept n alerts = [] → (h.deliver n script).posts = []
  /-- Every message is attempted. -/
  posts_eq : (h.deliver n script).posts =
    (h.bodies n (h.kept n alerts)).filterMap (request? n.hook (h.parameters n))
  status_eq : h.kept n alerts ≠ [] → (h.deliver n script).status =
    .ok (if (attempts n.hook (h.parameters n) (h.bodies n (h.kept n alerts)) script).any
      Attempt.isFailed then h.failure else 200)

/-! ## Messages -/

variable {h : Handler} {n : Notification} {alerts : List Json} {script : List Outcome}

theorem kept_kept : h.kept n (h.kept n alerts) = h.kept n alerts := by
  rw [kept, kept, List.filter_filter]
  simp

/-- The alerts of which nothing can be built are in no message. -/
theorem bodies_kept : h.bodies n (h.kept n alerts) = h.bodies n alerts := by
  obtain ⟨platform, packed⟩ := h
  cases platform with
  | discord =>
    have hcards : (alerts.filter fun alert => (card? n alert).isSome).filterMap (card? n) =
        alerts.filterMap (card? n) := filterMap_filter_isSome _ _
    cases packed with
    | false => exact congrArg (List.map Discord.Card.message) hcards
    | true =>
      exact congrArg (fun cards => (pieces (n.limits.embeds.toNat - 1) cards).map
        Discord.packedMessage) hcards
  | slack => exact congrArg (List.map Slack.message) (filterMap_filter_isSome (blocks? n) alerts)

theorem bodies_nil : h.bodies n [] = [] := by
  obtain ⟨platform, packed⟩ := h
  cases platform with
  | discord =>
    cases packed with
    | false => rfl
    | true => simp [bodies, pieces]
  | slack => rfl

/-! ## Deliveries -/

/-- What the delivery of alerts shows, if the transport holds. -/
def answer (h : Handler) (n : Notification) (alerts : List Json) (script : List Outcome) :
    Except Fault Int × List Webhook.Post :=
  if h.kept n alerts = [] then (.ok 400, [])
  else
    (.ok (if (attempts n.hook (h.parameters n) (h.bodies n alerts) script).any Attempt.isFailed
      then h.failure else 200),
    (h.bodies n alerts).filterMap (request? n.hook (h.parameters n)))

/-- Records in front of a delivery do not show, and without parts there is nothing to send. -/
theorem shown_after_ite {built : List α} {log refusal : List LogRecord} {d : Delivery} :
    (Delivery.after log
      (if built.isEmpty then .silent (.ok 400) refusal script else d)).shown =
        if built = [] then (.ok 400, []) else d.shown := by
  cases built <;> rfl

/-- The status of a delivery to Discord tells whether a request failed. -/
theorem statusOf_eq {hook : String} {parameters : List (String × String)} {payloads : List Json}
    {sending : Sending} (hsending : IsSent hook parameters payloads script sending) :
    Discord.statusOf sending =
      if (attempts hook parameters payloads script).any Attempt.isFailed then 500 else 200 := by
  rw [Discord.statusOf, hsending.failed_eq]
  by_cases hany : (attempts hook parameters payloads script).any Attempt.isFailed
  · obtain ⟨attempt, hmem, hfailed⟩ := List.any_eq_true.1 hany
    rw [if_pos hany, if_neg (Nat.ne_of_gt (List.countP_pos_iff.2 ⟨attempt, hmem, hfailed⟩))]
  · rw [if_neg hany, if_pos]
    rw [List.countP_eq_zero]
    exact fun attempt hmem hfailed => hany (List.any_eq_true.2 ⟨attempt, hmem, hfailed⟩)

/-- What Discord shows of the messages for alerts, whatever comes of the requests. -/
def sentAnswer (packed : Bool) (n : Notification) (alerts : List Json) (script : List Outcome) :
    Except Fault Int × List Webhook.Post :=
  if kept ⟨.discord, packed⟩ n alerts = [] then (.ok 400, [])
  else
    let sending := Discord.send n (bodies ⟨.discord, packed⟩ n alerts) script
    sending.shown (Discord.statusOf sending)

theorem sentAnswer_eq_answer (packed : Bool)
    (hscript : ∀ outcome ∈ script, outcome.isBroken = false) :
    sentAnswer packed n alerts script = answer ⟨.discord, packed⟩ n alerts script := by
  have hsent := isSent_sendAll n.hook n.query Discord.report 0
    (bodies ⟨.discord, packed⟩ n alerts) hscript
  refine if_congr Iff.rfl rfl ((hsent.shown_eq _).trans ?_)
  rw [Discord.send, statusOf_eq hsent]
  rfl

theorem shown_deliverSingle (hbody : Alert.ofBody? n.body = some alerts) :
    (Discord.deliverSingle n script).shown = sentAnswer false n alerts script := by
  have hcards : (Discord.cards Discord.singleLogger n alerts).value = alerts.filterMap (card? n) :=
    value_gather _ _ _ _ _
  rw [Discord.deliverSingle, Delivery.ofAlerts, hbody]
  dsimp only
  rw [shown_after_ite, hcards, Sending.shown_delivery, sentAnswer]
  exact if_congr (filterMap_eq_nil_iff_filter _ _) rfl rfl

theorem shown_deliverPacked (hembeds : 1 ≤ n.limits.embeds)
    (hbody : Alert.ofBody? n.body = some alerts) :
    (Discord.deliverPacked n script).shown = sentAnswer true n alerts script := by
  have hcards : (Discord.cards Discord.packedLogger n alerts).value = alerts.filterMap (card? n) :=
    value_gather _ _ _ _ _
  have hmessages : Discord.packMessages n.limits.embeds (alerts.filterMap (card? n)) =
      .ok (bodies ⟨.discord, true⟩ n alerts) := by
    rw [Discord.packMessages, chunks_eq_ok hembeds]
    rfl
  rw [Discord.deliverPacked, Delivery.ofAlerts, hbody]
  dsimp only
  rw [shown_after_ite, hcards, Discord.sendPacked, hmessages]
  dsimp only
  rw [Sending.shown_delivery, sentAnswer]
  exact if_congr (filterMap_eq_nil_iff_filter _ _) rfl rfl

/-- What a delivery to Discord shows is that of sending its messages. -/
theorem shown_deliver_discord (packed : Bool) (hembeds : 1 ≤ n.limits.embeds)
    (hbody : Alert.ofBody? n.body = some alerts) (script : List Outcome) :
    (deliver ⟨.discord, packed⟩ n script).shown = sentAnswer packed n alerts script := by
  cases packed with
  | false => exact shown_deliverSingle hbody
  | true => exact shown_deliverPacked hembeds hbody

/-- However the requests end, those to Discord are those of the messages in front. -/
theorem isPrefix_posts_deliver_discord (packed : Bool) (hembeds : 1 ≤ n.limits.embeds)
    (hbody : Alert.ofBody? n.body = some alerts) (script : List Outcome) :
    (deliver ⟨.discord, packed⟩ n script).posts <+:
      (bodies ⟨.discord, packed⟩ n alerts).filterMap (request? n.hook n.query) := by
  have hposts : (deliver ⟨.discord, packed⟩ n script).posts =
      (sentAnswer packed n alerts script).2 :=
    congrArg Prod.snd (shown_deliver_discord packed hembeds hbody script)
  rw [hposts, sentAnswer]
  split
  · exact List.nil_prefix
  · exact isPrefix_posts_sendAll Discord.report 0 _ script

theorem shown_deliverRich (hbody : Alert.ofBody? n.body = some alerts)
    (hscript : ∀ outcome ∈ script, outcome.isBroken = false) :
    (Slack.deliverRich n script).shown = answer ⟨.slack, false⟩ n alerts script := by
  have hbuilt : (Slack.richAlerts n alerts).value = alerts.filterMap (blocks? n) :=
    value_gather _ _ _ _ _
  have hsent := isSent_sendAll n.hook [] (fun _ result => [Slack.reportRecord none result]) 0
    ((alerts.filterMap (blocks? n)).map Slack.message) hscript
  rw [Slack.deliverRich, Delivery.ofAlerts, hbody]
  dsimp only
  rw [shown_after_ite, hbuilt, hsent.shown_delivery, answer]
  rw [failure, ite_self]
  exact if_congr (filterMap_eq_nil_iff_filter _ _) rfl rfl

theorem shown_deliver (hh : h.IsPerAlert) (hembeds : 1 ≤ n.limits.embeds)
    (hbody : Alert.ofBody? n.body = some alerts)
    (hscript : ∀ outcome ∈ script, outcome.isBroken = false) :
    (h.deliver n script).shown = h.answer n alerts script := by
  obtain ⟨_ | _, packed⟩ := h
  · exact (shown_deliver_discord packed hembeds hbody script).trans
      (sentAnswer_eq_answer packed hscript)
  · cases packed with
    | false => exact shown_deliverRich hbody hscript
    | true => exact absurd rfl hh

/-- What a delivery shows depends on those alerts only of which something can be built. -/
theorem answer_kept : h.answer n (h.kept n alerts) script = h.answer n alerts script := by
  rw [answer, answer, kept_kept, bodies_kept]

theorem answer_fst : (h.answer n alerts script).1 =
    .ok (if h.kept n alerts = [] then 400
      else if (attempts n.hook (h.parameters n) (h.bodies n (h.kept n alerts)) script).any
        Attempt.isFailed then h.failure else 200) := by
  rw [answer, bodies_kept]
  split <;> rfl

/-- Where nothing can be built, there are no messages either. -/
theorem answer_snd : (h.answer n alerts script).2 =
    (h.bodies n (h.kept n alerts)).filterMap (request? n.hook (h.parameters n)) := by
  rw [answer]
  split
  · next hnone =>
    rw [hnone, bodies_nil]
    rfl
  · rw [bodies_kept]

/-- Every message is attempted if the transport holds. -/
theorem posts_deliver (hh : h.IsPerAlert) (hembeds : 1 ≤ n.limits.embeds)
    (hbody : Alert.ofBody? n.body = some alerts)
    (hscript : ∀ outcome ∈ script, outcome.isBroken = false) :
    (h.deliver n script).posts =
      (h.bodies n alerts).filterMap (request? n.hook (h.parameters n)) := by
  rw [← bodies_kept, ← answer_snd]
  exact congrArg Prod.snd (shown_deliver hh hembeds hbody hscript)

/-- The status of a delivery with something to send is not that of a refusal. -/
theorem status_ne_refused (failed : Bool) : (if failed then h.failure else 200) ≠ 400 := by
  obtain ⟨_ | _, _ | _⟩ := h <;> cases failed <;> decide

/-- **Alerts do not harm each other**: a delivery comes out as that of the alerts of which
something can be built. -/
theorem isolates_deliver (hh : h.IsPerAlert) (hembeds : 1 ≤ n.limits.embeds)
    (hbody : Alert.ofBody? n.body = some alerts)
    (hscript : ∀ outcome ∈ script, outcome.isBroken = false) :
    h.Isolates n alerts script := by
  have hshown : (h.deliver n script).shown = h.answer n alerts script :=
    shown_deliver hh hembeds hbody hscript
  have hstatus := (congrArg Prod.fst hshown).trans answer_fst
  have hposts := (congrArg Prod.snd hshown).trans answer_snd
  refine
    { succeeds := ⟨_, hstatus⟩
      shown_eq_of_kept := fun {body} hkept => ?_
      refused_iff := ?_
      posts_of_refused := fun hnone => ?_
      posts_eq := hposts
      status_eq := fun hsome => ?_ }
  · rw [hshown, ← answer_kept]
    exact (shown_deliver (n := { n with body }) hh hembeds hkept hscript).symm
  · show (h.deliver n script).shown.1 = .ok 400 ↔ h.kept n alerts = []
    rw [hstatus]
    constructor
    · intro h400
      by_contra hsome
      rw [if_neg hsome] at h400
      exact status_ne_refused _ (Except.ok.inj h400)
    · intro hnone
      rw [if_pos hnone]
  · show (h.deliver n script).shown.2 = []
    rw [hposts, hnone, bodies_nil]
    rfl
  · show (h.deliver n script).shown.1 = _
    rw [hstatus, if_neg hsome]

/-- Two alerts with a summary, between a text and an empty object. -/
def mixedAlerts : List Json :=
  [.str "alert", .obj [("annotations", .obj [("summary", .str "Down")])],
    .obj [("annotations", .obj [("summary", .str "Up")])], .obj []]

/-- A notification of them, where a reader finds nothing in any Markdown. -/
def mixedNotification : Notification where
  hook := "http://host/"
  body := .obj [("alerts", .arr mixedAlerts)]
  query := []
  limits := ⟨10, 25, 20⟩
  lexer := fun _ => pure (.ok [])
  ceiling := 16

/-- Two of four alerts are sent, the second one although the request of the first failed. -/
theorem isolates_deliver_mixedAlerts :
    (⟨.discord, false⟩ : Handler).IsPerAlert ∧ 1 ≤ mixedNotification.limits.embeds ∧
      Alert.ofBody? mixedNotification.body = some mixedAlerts ∧
      (∀ outcome ∈ [Outcome.failed "reset"], outcome.isBroken = false) ∧
      (deliver ⟨.discord, false⟩ mixedNotification [.failed "reset"]).posts.length = 2 ∧
      (deliver ⟨.discord, false⟩ mixedNotification [.failed "reset"]).status = .ok 500 := by
  have hscript : ∀ outcome ∈ [Outcome.failed "reset"], outcome.isBroken = false := by
    simp [Outcome.isBroken]
  have hisolates : Isolates ⟨.discord, false⟩ mixedNotification mixedAlerts [.failed "reset"] :=
    isolates_deliver (by decide) (by decide) rfl hscript
  have hsome : kept ⟨.discord, false⟩ mixedNotification mixedAlerts ≠ [] := by decide
  refine ⟨by decide, by decide, rfl, hscript, ?_, ?_⟩
  · rw [hisolates.posts_eq]
    rfl
  · rw [hisolates.status_eq hsome]
    rfl

end Handler

end AlertBridge
