import AlertBridge.Proofs.Discord.Limits
import AlertBridge.Proofs.FirstOccurrence
import AlertBridge.Proofs.Json.Finite

/-!
# Both ways to deliver to Discord agree

A message for each alert and packed messages carry the same embeds, in the same order, and both kinds
of messages are sent in the same way. What arrives is then the same, unless the transport breaks on
the way, and even then it is a part in front of it. Where a message has room for one embed only, and
no alert mentions anybody twice, the two ways do not differ at all: the messages are the same, and so
are all requests and the status, whatever comes of the requests.

A number that is not finite cannot be written into a message. Alerts that were sent as JSON have none,
and then every message can be written.

## Main definitions

* `postedEmbeds`: the embeds that a delivery posts
* `Agree`: how the two deliveries of alerts come out

## Main results

* `agree_deliver`: the two deliveries of any alerts agree
-/

namespace AlertBridge

open Webhook (Outcome request? target?)
open Handler (bodies deliver sentAnswer)

namespace Discord

variable {n : Notification} {alert body : Json} {alerts payloads : List Json} {card : Card}
  {base : List (String × Json)} {fields : List Json} {packed : Bool} {script : List Outcome}

/-- The embeds that a delivery posts, message by message. -/
def postedEmbeds (d : Delivery) : List Json := d.posts.flatMap fun post => embedsOf post.body

/-- The two deliveries of alerts to Discord agree. -/
structure Agree (n : Notification) (alerts : List Json) : Prop where
  /-- Both come to sending their messages. -/
  shown_eq (packed : Bool) (script : List Outcome) :
    (deliver ⟨.discord, packed⟩ n script).shown = sentAnswer packed n alerts script
  /-- The embeds of the messages are the same, one message after the other. -/
  embeds_eq : (bodies ⟨.discord, true⟩ n alerts).flatMap embedsOf =
    (bodies ⟨.discord, false⟩ n alerts).flatMap embedsOf
  /-- Where the transport breaks, the embeds behind are missing. -/
  posted_isPrefix (halerts : ∀ alert ∈ alerts, alert.isFinite) (packed : Bool)
    (script : List Outcome) : postedEmbeds (deliver ⟨.discord, packed⟩ n script) <+:
      (bodies ⟨.discord, false⟩ n alerts).flatMap embedsOf
  /-- Where it holds, the embeds that are posted are the same, whatever the answers are. -/
  posted_eq (halerts : ∀ alert ∈ alerts, alert.isFinite) {script script' : List Outcome}
    (hscript : ∀ outcome ∈ script, outcome.isBroken = false)
    (hscript' : ∀ outcome ∈ script', outcome.isBroken = false) :
    postedEmbeds (deliver ⟨.discord, true⟩ n script) =
      postedEmbeds (deliver ⟨.discord, false⟩ n script')
  /-- With one embed for each message they are the same. -/
  shown_eq_of_one (hone : n.limits.embeds = 1)
    (hmentions : ∀ alert ∈ alerts, ∀ mentions, mentions? alert = .ok mentions → mentions.Nodup)
    (script : List Outcome) : (deliver ⟨.discord, true⟩ n script).shown =
      (deliver ⟨.discord, false⟩ n script).shown

/-! ## The messages -/

/-- However cards are packed, their embeds stay as they are. -/
theorem flatMap_embedsOf_bodies (packed : Bool) :
    (bodies ⟨.discord, packed⟩ n alerts).flatMap embedsOf =
      (alerts.filterMap (Handler.card? n)).map Card.embed := by
  cases packed with
  | false =>
    rw [bodies]
    dsimp only
    rw [List.flatMap_map]
    exact List.map_eq_flatMap.symm
  | true =>
    rw [bodies]
    dsimp only
    rw [flatMap_embedsOf_packedMessage, flatten_pieces]

theorem packedMessage_singleton (h : card.mentions.Nodup) : packedMessage [card] = card.message := by
  have hmentions : dedup ([card].flatMap Card.mentions) = card.mentions := by
    rw [List.flatMap_singleton, dedup_of_nodup h]
  rw [packedMessage, hmentions]
  rfl

/-- Packed one by one, cards without repeated mentions have messages of their own. -/
theorem bodies_packed_of_one (hone : n.limits.embeds = 1)
    (hmentions : ∀ alert ∈ alerts, ∀ mentions, mentions? alert = .ok mentions → mentions.Nodup) :
    bodies ⟨.discord, true⟩ n alerts = bodies ⟨.discord, false⟩ n alerts := by
  have hcard : ∀ card ∈ alerts.filterMap (Handler.card? n),
      packedMessage [card] = card.message := by
    intro card hcard
    obtain ⟨alert, halert, hcard⟩ := List.mem_filterMap.1 hcard
    obtain ⟨-, base, fields, mentions, -, -, hlisted, rfl⟩ := card?_eq_some_iff.1 hcard
    exact packedMessage_singleton (hmentions alert halert mentions hlisted)
  rw [bodies, bodies]
  dsimp only
  rw [hone, Int.toNat_one, Nat.sub_self, pieces_zero, List.map_map]
  exact List.map_congr_left hcard

/-! ## What can be written -/

theorem isFinite_withFields (hbase : ∀ f ∈ base, f.2.isFinite)
    (hfields : ∀ f ∈ fields, f.isFinite) : (withFields base fields).isFinite := by
  rw [withFields]
  split
  · exact Json.areFiniteFields_iff.2 hbase
  · refine Json.areFiniteFields_iff.2 (List.forall_mem_append.2 ⟨hbase, ?_⟩)
    exact List.forall_mem_singleton.2 (Json.areFiniteItems_iff.2 hfields)

theorem isFinite_message {embeds : List Json} (hembeds : ∀ embed ∈ embeds, embed.isFinite)
    (mentions : List String) : (message embeds mentions).isFinite := by
  have hmentions : ∀ f ∈ mentionFields mentions, f.2.isFinite := by
    rw [mentionFields]
    split
    · simp
    · simp [Json.ofTexts, Json.isFinite, Json.areFiniteFields, Json.areFiniteItems]
  refine Json.areFiniteFields_iff.2 (List.forall_mem_cons.2 ⟨?_, hmentions⟩)
  exact Json.areFiniteItems_iff.2 hembeds

theorem isFinite_embedFields (halert : alert.isFinite) (h : embedFields? alert = .ok base) :
    ∀ f ∈ base, f.2.isFinite := by
  obtain ⟨annotations, title, description, status, color, hannotations, htitle, hdescription, -, -,
    rfl⟩ := embedFields?_eq_ok_iff.1 h
  have hfinite : annotations.isFinite := Alert.isFinite_annotations halert hannotations
  simp only [List.forall_mem_cons, List.not_mem_nil, false_implies, implies_true, and_true]
  exact ⟨Json.isFinite_of_get hfinite htitle, Json.isFinite_of_get hfinite hdescription, rfl⟩

/-- Inline fields hold texts only. -/
theorem isFinite_of_mem_fields {lexer : Lexer} {limit : Int} {f : Json}
    (h : (fields? lexer limit alert).value = .ok fields) (hf : f ∈ fields) : f.isFinite := by
  obtain ⟨-, -, -, -, -⟩ := listsFields_of_value_fields? h (List.ne_nil_of_mem hf)
  obtain ⟨item, -, rfl⟩ := List.mem_map.1 hf
  rfl

/-- The embed of an alert without infinite numbers has none. -/
theorem isFinite_embed (halert : alert.isFinite) (h : Handler.card? n alert = some card) :
    card.embed.isFinite := by
  obtain ⟨-, base, fields, mentions, hbase, hfields, -, rfl⟩ := card?_eq_some_iff.1 h
  exact isFinite_withFields (isFinite_embedFields halert hbase) fun f hf =>
    isFinite_of_mem_fields hfields hf

theorem isFinite_of_mem_bodies (halerts : ∀ alert ∈ alerts, alert.isFinite)
    (h : body ∈ bodies ⟨.discord, packed⟩ n alerts) : body.isFinite := by
  have hcards : ∀ card ∈ alerts.filterMap (Handler.card? n), card.embed.isFinite := by
    intro card hcard
    obtain ⟨alert, halert, hcard⟩ := List.mem_filterMap.1 hcard
    exact isFinite_embed (halerts alert halert) hcard
  cases packed with
  | false =>
    obtain ⟨card, hcard, rfl⟩ := List.mem_map.1 h
    exact isFinite_message (List.forall_mem_singleton.2 (hcards card hcard)) _
  | true =>
    obtain ⟨piece, hpiece, rfl⟩ := List.mem_map.1 h
    refine isFinite_message (List.forall_mem_map.2 fun card hcard => hcards card ?_) _
    rw [← flatten_pieces (n.limits.embeds.toNat - 1) (alerts.filterMap (Handler.card? n))]
    exact List.mem_flatten_of_mem hpiece hcard

/-- Of messages that can be written all embeds are posted, or none if the webhook has no proper
address. -/
theorem flatMap_embedsOf_filterMap_request? {hook : String} {parameters : List (String × String)}
    (hpayloads : ∀ payload ∈ payloads, payload.isFinite) :
    (payloads.filterMap (request? hook parameters)).flatMap (fun post => embedsOf post.body) =
      if (target? hook parameters).isSome then payloads.flatMap embedsOf else [] := by
  cases htarget : target? hook parameters with
  | none =>
    have hnone : payloads.filterMap (request? hook parameters) = [] := by
      rw [List.filterMap_eq_nil_iff]
      intro payload _
      rw [request?, htarget]
      rfl
    rw [hnone]
    rfl
  | some url =>
    have hpost : ∀ payload ∈ payloads,
        request? hook parameters payload = some ⟨url, payload, Webhook.timeout⟩ :=
      fun payload hpayload =>
        Webhook.request?_eq_some_iff.2 ⟨url, htarget, hpayloads payload hpayload, rfl⟩
    rw [List.filterMap_congr hpost, List.filterMap_eq_map', List.flatMap_map]
    rfl

/-! ## The deliveries -/

/-- The embeds of a delivery whose transport holds do not depend on how the alerts are packed, nor on
what comes of the requests. -/
theorem postedEmbeds_deliver (hembeds : 1 ≤ n.limits.embeds)
    (hbody : Alert.ofBody? n.body = some alerts) (halerts : ∀ alert ∈ alerts, alert.isFinite)
    (hscript : ∀ outcome ∈ script, outcome.isBroken = false) :
    postedEmbeds (deliver ⟨.discord, packed⟩ n script) =
      if (target? n.hook n.query).isSome then (alerts.filterMap (Handler.card? n)).map Card.embed
      else [] := by
  rw [postedEmbeds,
    Handler.posts_deliver (Handler.isPerAlert_discord packed) hembeds hbody hscript,
    ← flatMap_embedsOf_bodies packed]
  exact flatMap_embedsOf_filterMap_request? fun body hmem => isFinite_of_mem_bodies halerts hmem

theorem isPrefix_postedEmbeds (hembeds : 1 ≤ n.limits.embeds)
    (hbody : Alert.ofBody? n.body = some alerts) (halerts : ∀ alert ∈ alerts, alert.isFinite) :
    postedEmbeds (deliver ⟨.discord, packed⟩ n script) <+:
      (alerts.filterMap (Handler.card? n)).map Card.embed := by
  have hposted := (Handler.isPrefix_posts_deliver_discord packed hembeds hbody script).flatMap
    fun post => embedsOf post.body
  rw [flatMap_embedsOf_filterMap_request? fun body hmem => isFinite_of_mem_bodies halerts hmem,
    flatMap_embedsOf_bodies packed] at hposted
  refine hposted.trans ?_
  split
  · exact List.prefix_refl _
  · exact List.nil_prefix

/-- **The two deliveries to Discord agree**, for any alerts, any query and any limits. -/
theorem agree_deliver (hembeds : 1 ≤ n.limits.embeds)
    (hbody : Alert.ofBody? n.body = some alerts) : Agree n alerts where
  shown_eq packed script := Handler.shown_deliver_discord packed hembeds hbody script
  embeds_eq := (flatMap_embedsOf_bodies true).trans (flatMap_embedsOf_bodies false).symm
  posted_isPrefix halerts packed script := by
    rw [flatMap_embedsOf_bodies]
    exact isPrefix_postedEmbeds hembeds hbody halerts
  posted_eq halerts {script script'} hscript hscript' := by
    rw [postedEmbeds_deliver hembeds hbody halerts hscript,
      postedEmbeds_deliver hembeds hbody halerts hscript']
  shown_eq_of_one hone hmentions script := by
    rw [Handler.shown_deliver_discord true hembeds hbody,
      Handler.shown_deliver_discord false hembeds hbody, sentAnswer, sentAnswer,
      bodies_packed_of_one hone hmentions]
    rfl

/-- An alert that goes down and mentions two users, between alerts that cannot be shown. -/
def mentioningAlerts : List Json := [
  .str "alert",
  .obj [("annotations", .obj [("summary", .str "Down")]),
    ("labels", .obj [("mentions", .str "1, 2")])],
  .obj []]

/-- A notification of them, with one embed for each message. -/
def mentioningNotification : Notification where
  hook := "http://host/"
  body := .obj [("alerts", .arr mentioningAlerts)]
  query := [("wait", "true")]
  limits := ⟨1, 25, 20⟩
  lexer := fun _ => pure (.ok [])
  ceiling := 16

/-- Nobody is mentioned twice, so that the two deliveries are the same. The embeds are also the same
where one request fails and the other does not. -/
theorem agree_deliver_mentioningAlerts :
    1 ≤ mentioningNotification.limits.embeds ∧
      Alert.ofBody? mentioningNotification.body = some mentioningAlerts ∧
      postedEmbeds (deliver ⟨.discord, true⟩ mentioningNotification [.failed "reset"]) =
        postedEmbeds (deliver ⟨.discord, false⟩ mentioningNotification []) ∧
      ∀ script, (deliver ⟨.discord, true⟩ mentioningNotification script).shown =
        (deliver ⟨.discord, false⟩ mentioningNotification script).shown := by
  have hembeds : 1 ≤ mentioningNotification.limits.embeds := by decide
  have hagree : Agree mentioningNotification mentioningAlerts := agree_deliver hembeds rfl
  have hnodup : ∀ alert ∈ mentioningAlerts,
      ((mentions? alert).toOption.getD []).Nodup := by decide +kernel
  have hfinite : ∀ alert ∈ mentioningAlerts, alert.isFinite := by decide
  have hscript : ∀ outcome ∈ [Outcome.failed "reset"], outcome.isBroken = false := by
    simp [Outcome.isBroken]
  refine ⟨hembeds, rfl, hagree.posted_eq hfinite hscript (by simp), hagree.shown_eq_of_one rfl ?_⟩
  intro alert halert mentions hmentions
  have halertNodup := hnodup alert halert
  rwa [hmentions] at halertNodup

end Discord

end AlertBridge
