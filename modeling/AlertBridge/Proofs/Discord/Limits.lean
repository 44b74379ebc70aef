import AlertBridge.Proofs.Alert.Form
import AlertBridge.Proofs.Delivery.Isolation
import AlertBridge.Proofs.Discord.InlineFields

/-!
# Messages to Discord keep to the limits

A message has at least one embed, and no more than a message may have: one if there is a message for
each alert, and else the limit of the notification. An embed has fields only if the first list in the
Markdown of its alert keeps to the limits of fields. A list that does not costs the alert its fields
and nothing else.

## Main definitions

* `embedsOf`: the embeds of a message
* `IsEmbedOf`, `IsMessageOf`: an embed of an alert, and a message with embeds of alerts
* `RefusesFields`: an alert whose fields break a limit
* `KeepsLimits`: how a delivery keeps to the limits

## Main results

* `keepsLimits_deliver`: every delivery to Discord does
-/

namespace AlertBridge

open Webhook (Outcome request?)
open Handler (bodies)

namespace Discord

/-- The embeds of a message. -/
def embedsOf (body : Json) : List Json :=
  match body.require "embeds" with
  | .ok (.arr embeds) => embeds
  | _ => []

/-- An embed of an alert, which has fields only if the alert lists some. -/
structure IsEmbedOf (n : Notification) (alert embed : Json) : Prop where
  exists_card : ∃ mentions, Handler.card? n alert = some ⟨embed, mentions⟩
  exists_fields : ∀ value, embed.require "fields" = .ok value →
    ∃ fields, value = .arr fields ∧ ListsFields n.lexer n.limits.fields alert fields

/-- A message with embeds of some of the alerts, in their order: at least one, and no more than
`limit`. -/
structure IsMessageOf (n : Notification) (limit : Int) (alerts : List Json) (body : Json) :
    Prop where
  exists_shown : ∃ shown, shown.Sublist alerts ∧ List.Forall₂ (IsEmbedOf n) shown (embedsOf body)
  one_le_length : 1 ≤ (embedsOf body).length
  length_le : ((embedsOf body).length : Int) ≤ limit

/-- An alert with an embed: it has content, its labels are an object and its mentions a text as far
as there are any, and its status is neither an array nor an object. -/
structure HasEmbed (alert : Json) : Prop where
  hasContent : hasContent? alert = .ok true
  labels : (alert.part "labels").truthy → ∃ fields, alert.part "labels" = .obj fields
  mentions : ((alert.part "labels").part "mentions").truthy →
    ∃ text, (alert.part "labels").part "mentions" = .str text
  status : (alert.part "status").isKey

/-- The fields that an alert lists break a limit. -/
def RefusesFields (n : Notification) (alert : Json) : Prop :=
  ∃ markdown tokens, listedFields alert = .ok markdown ∧ markdown.truthy ∧
    (n.lexer markdown).value = .ok tokens ∧ ¬ AreFields n.limits.fields (listTexts tokens)

/-- How a delivery to Discord keeps to the limits. -/
structure KeepsLimits (n : Notification) (packed : Bool) (alerts : List Json)
    (script : List Outcome) : Prop where
  isMessageOf : ∀ post ∈ (Handler.deliver ⟨.discord, packed⟩ n script).posts,
    IsMessageOf n (if packed then n.limits.embeds else 1) alerts post.body
  /-- An alert whose fields are refused is shown without them, and its message is posted. -/
  exists_embed : ∀ alert ∈ alerts, HasEmbed alert → RefusesFields n alert → ∃ embed mentions,
    embed? alert = .ok embed ∧ mentions? alert = .ok mentions ∧
    embed.require "fields" = .error (.missing "fields") ∧
    Handler.card? n alert = some ⟨embed, mentions⟩ ∧
    ∃ body ∈ bodies ⟨.discord, packed⟩ n alerts, embed ∈ embedsOf body ∧
      ((∀ outcome ∈ script, outcome.isBroken = false) →
        ∀ post, request? n.hook n.query body = some post →
          post ∈ (Handler.deliver ⟨.discord, packed⟩ n script).posts)

variable {n : Notification} {alert embed body : Json} {alerts fields : List Json} {card : Card}
  {cards : List Card} {base : List (String × Json)} {packed : Bool} {script : List Outcome}

/-! ## The embed of an alert -/

/-- A card is made of an alert that has content. -/
theorem card?_eq_some_iff_fullCard? : Handler.card? n alert = some card ↔
    hasContent? alert = .ok true ∧
      (fullCard? n.lexer n.limits.fields alert).value = .ok card := by
  rw [Handler.card?, Logged.built?, Discord.card?]
  cases hcontent : hasContent? alert with
  | error fault => simp [Except.toOption]
  | ok hasContent =>
    cases hasContent with
    | false => simp [Except.toOption]
    | true =>
      cases hcard : (fullCard? n.lexer n.limits.fields alert).value with
      | error fault => simp [hcard, Except.map, Except.toOption]
      | ok card' => simp [hcard, Except.map, Except.toOption]

theorem value_fullCard? {lexer : Lexer} {limit : Int} :
    (fullCard? lexer limit alert).value = (embedFields? alert >>= fun base =>
      (fields? lexer limit alert).value >>= fun fields =>
        (mentions? alert).map fun mentions => ⟨withFields base fields, mentions⟩) := by
  rw [fullCard?]
  cases embedFields? alert <;> rfl

/-- What a card is made of. -/
theorem card?_eq_some_iff : Handler.card? n alert = some card ↔
    hasContent? alert = .ok true ∧ ∃ base fields mentions, embedFields? alert = .ok base ∧
      (fields? n.lexer n.limits.fields alert).value = .ok fields ∧
      mentions? alert = .ok mentions ∧ card = ⟨withFields base fields, mentions⟩ := by
  rw [card?_eq_some_iff_fullCard?, value_fullCard?, bind_eq_ok_iff]
  refine and_congr_right fun _ => ⟨?_, ?_⟩
  · rintro ⟨base, hbase, h⟩
    obtain ⟨fields, hfields, h⟩ := bind_eq_ok_iff.1 h
    obtain ⟨mentions, hmentions, rfl⟩ := map_eq_ok_iff.1 h
    exact ⟨base, fields, mentions, hbase, hfields, hmentions, rfl⟩
  · rintro ⟨base, fields, mentions, hbase, hfields, hmentions, rfl⟩
    refine ⟨base, hbase, ?_⟩
    rw [bind_of_ok hfields, hmentions]
    rfl

/-- What an embed is made of. -/
theorem embedFields?_eq_ok_iff : embedFields? alert = .ok base ↔
    ∃ annotations title description status color, Alert.annotations alert = .ok annotations ∧
      annotations.get "summary" = .ok title ∧ annotations.get "description" = .ok description ∧
      alert.get "status" = .ok status ∧ colorOf status = .ok color ∧
      base = [("title", title), ("description", description), ("color", .int color)] := by
  constructor
  · intro h
    obtain ⟨annotations, hannotations, h⟩ := bind_eq_ok_iff.1 h
    obtain ⟨title, htitle, h⟩ := bind_eq_ok_iff.1 h
    obtain ⟨description, hdescription, h⟩ := bind_eq_ok_iff.1 h
    obtain ⟨status, hstatus, h⟩ := bind_eq_ok_iff.1 h
    obtain ⟨color, hcolor, h⟩ := bind_eq_ok_iff.1 h
    exact ⟨annotations, title, description, status, color, hannotations, htitle, hdescription,
      hstatus, hcolor, (Except.ok.inj h).symm⟩
  · rintro ⟨annotations, title, description, status, color, hannotations, htitle, hdescription,
      hstatus, hcolor, rfl⟩
    rw [embedFields?, bind_of_ok hannotations, bind_of_ok htitle, bind_of_ok hdescription,
      bind_of_ok hstatus, bind_of_ok hcolor]
    rfl

theorem require_withFields (h : embedFields? alert = .ok base) :
    (withFields base fields).require "fields" =
      if fields = [] then .error (.missing "fields") else .ok (.arr fields) := by
  obtain ⟨-, title, description, -, color, -, -, -, -, -, rfl⟩ := embedFields?_eq_ok_iff.1 h
  cases fields <;> rfl

theorem isEmbedOf_of_card? (h : Handler.card? n alert = some card) :
    IsEmbedOf n alert card.embed := by
  refine ⟨⟨card.mentions, h⟩, fun value hvalue => ?_⟩
  obtain ⟨-, base, fields, mentions, hbase, hfields, -, rfl⟩ := card?_eq_some_iff.1 h
  rw [require_withFields hbase] at hvalue
  split at hvalue
  · cases hvalue
  · next hsome =>
    exact ⟨fields, (Except.ok.inj hvalue).symm, listsFields_of_value_fields? hfields hsome⟩

theorem exists_colorOf {status : Json} (h : status.isKey) : ∃ color, colorOf status = .ok color := by
  unfold colorOf
  split
  · exact ⟨_, rfl⟩
  · exact ⟨_, rfl⟩
  · exact ⟨_, if_pos h⟩

/-! ## Alerts that lose their fields -/

namespace HasEmbed

variable (h : HasEmbed alert)

include h

theorem exists_fields : ∃ fields, alert = .obj fields := by
  obtain ⟨annotations, hannotations, -⟩ := bind_eq_ok_iff.1 h.hasContent
  obtain ⟨value, hvalue, -⟩ := bind_eq_ok_iff.1 hannotations
  cases alert with
  | obj fields => exact ⟨fields, rfl⟩
  | _ => cases hvalue

theorem get (name : String) : alert.get name = .ok (alert.part name) := by
  obtain ⟨fields, rfl⟩ := h.exists_fields
  rfl

/-- The embed can be built. -/
theorem exists_embedFields : ∃ base, embedFields? alert = .ok base := by
  obtain ⟨annotations, hannotations, hcontent⟩ := bind_eq_ok_iff.1 h.hasContent
  obtain ⟨title, htitle, hcontent⟩ := bind_eq_ok_iff.1 hcontent
  obtain ⟨description, hdescription, -⟩ := bind_eq_ok_iff.1 hcontent
  obtain ⟨color, hcolor⟩ := exists_colorOf h.status
  exact ⟨_, embedFields?_eq_ok_iff.2 ⟨annotations, title, description, _, color, hannotations,
    htitle, hdescription, h.get _, hcolor, rfl⟩⟩

theorem labels_eq_ok : Alert.labels alert = .ok ((alert.part "labels").orElse (.obj [])) :=
  bind_of_ok (h.get _)

theorem alertName_eq_ok :
    alertName alert = .ok ((alert.part "labels").part "alertname") := by
  rw [alertName, bind_of_ok h.labels_eq_ok, Json.get_orElse_of_truthy h.labels]

theorem exists_mentions : ∃ mentions, mentions? alert = .ok mentions := by
  rw [mentions?, bind_of_ok h.labels_eq_ok,
    bind_of_ok (Json.get_orElse_of_truthy h.labels "mentions")]
  split
  · next htruthy =>
    obtain ⟨text, htext⟩ := h.mentions htruthy
    rw [htext]
    exact ⟨mentionsOf text, rfl⟩
  · exact ⟨[], rfl⟩

/-- Without its fields an alert is shown as it is otherwise. -/
theorem exists_card_of_refused (hrefused : RefusesFields n alert) : ∃ embed mentions,
    embed? alert = .ok embed ∧ mentions? alert = .ok mentions ∧
      embed.require "fields" = .error (.missing "fields") ∧
      Handler.card? n alert = some ⟨embed, mentions⟩ := by
  obtain ⟨markdown, tokens, hlisted, htruthy, htokens, hrefused⟩ := hrefused
  obtain ⟨base, hbase⟩ := h.exists_embedFields
  obtain ⟨mentions, hmentions⟩ := h.exists_mentions
  have hfields : (fields? n.lexer n.limits.fields alert).value = .ok [] :=
    value_fields?_of_refused hlisted htruthy htokens hrefused h.alertName_eq_ok
  refine ⟨.obj base, mentions, bind_of_ok hbase, hmentions, ?_, ?_⟩
  · have hwithout : withFields base [] = .obj base := rfl
    rw [← hwithout, require_withFields hbase]
    rfl
  · exact card?_eq_some_iff.2 ⟨h.hasContent, base, [], mentions, hbase, hfields, hmentions, rfl⟩

end HasEmbed

/-! ## Messages -/

@[simp] theorem embedsOf_message (embeds : List Json) (mentions : List String) :
    embedsOf (message embeds mentions) = embeds := rfl

@[simp] theorem embedsOf_cardMessage (card : Card) : embedsOf card.message = [card.embed] :=
  embedsOf_message _ _

@[simp] theorem embedsOf_packedMessage (cards : List Card) :
    embedsOf (packedMessage cards) = cards.map Card.embed :=
  embedsOf_message _ _

/-- However cards are cut, the messages of the pieces have the embeds of the cards. -/
theorem flatMap_embedsOf_packedMessage (parts : List (List Card)) :
    (parts.map packedMessage).flatMap embedsOf = parts.flatten.map Card.embed := by
  induction parts with
  | nil => rfl
  | cons part parts ih =>
    rw [List.map_cons, List.flatMap_cons, ih, embedsOf_packedMessage, List.flatten_cons,
      List.map_append]

/-- Some of the cards of alerts are those of some of the alerts. -/
theorem exists_shown_of_sublist (h : cards.Sublist (alerts.filterMap (Handler.card? n))) :
    ∃ shown, shown.Sublist alerts ∧
      List.Forall₂ (IsEmbedOf n) shown (cards.map Card.embed) := by
  obtain ⟨shown, hshown, rfl⟩ := List.sublist_filterMap_iff.1 h
  refine ⟨shown.filter fun alert => (Handler.card? n alert).isSome,
    List.filter_sublist.trans hshown, List.forall₂_map_right_iff.2 ?_⟩
  exact (forall₂_filterMap (Handler.card? n) shown).imp fun _ _ hcard => isEmbedOf_of_card? hcard

/-- Each message is made of cards that stand next to each other. -/
theorem exists_cards_of_mem_bodies (hembeds : 1 ≤ n.limits.embeds)
    (h : body ∈ bodies ⟨.discord, packed⟩ n alerts) :
    ∃ cards : List Card, cards.Sublist (alerts.filterMap (Handler.card? n)) ∧
      embedsOf body = cards.map Card.embed ∧ 1 ≤ cards.length ∧
      (cards.length : Int) ≤ if packed then n.limits.embeds else 1 := by
  cases packed with
  | false =>
    obtain ⟨card, hcard, rfl⟩ := List.mem_map.1 h
    exact ⟨[card], List.singleton_sublist.2 hcard, embedsOf_cardMessage card, Nat.le_refl 1,
      Int.le_refl 1⟩
  | true =>
    obtain ⟨piece, hpiece, rfl⟩ := List.mem_map.1 h
    have hcut := isCut_chunks hembeds (alerts.filterMap (Handler.card? n))
    have hlength := hcut.length_le piece hpiece
    refine ⟨piece, ?_, embedsOf_packedMessage piece, hcut.one_le_length piece hpiece, ?_⟩
    · have hsublist := List.sublist_flatten_of_mem hpiece
      rwa [hcut.flatten_eq] at hsublist
    · rw [if_pos rfl]
      omega

theorem isMessageOf_of_mem_bodies (hembeds : 1 ≤ n.limits.embeds)
    (h : body ∈ bodies ⟨.discord, packed⟩ n alerts) :
    IsMessageOf n (if packed then n.limits.embeds else 1) alerts body := by
  obtain ⟨cards, hsublist, hembedsOf, hpos, hle⟩ := exists_cards_of_mem_bodies hembeds h
  refine ⟨?_, ?_, ?_⟩
  · rw [hembedsOf]
    exact exists_shown_of_sublist hsublist
  · rwa [hembedsOf, List.length_map]
  · rwa [hembedsOf, List.length_map]

/-- The card of an alert is in a message. -/
theorem exists_body_of_card? (packed : Bool) (halert : alert ∈ alerts)
    (hcard : Handler.card? n alert = some card) :
    ∃ body ∈ bodies ⟨.discord, packed⟩ n alerts, card.embed ∈ embedsOf body := by
  have hmem : card ∈ alerts.filterMap (Handler.card? n) :=
    List.mem_filterMap.2 ⟨alert, halert, hcard⟩
  cases packed with
  | false => exact ⟨card.message, List.mem_map_of_mem hmem, List.mem_singleton_self _⟩
  | true =>
    rw [← flatten_pieces (n.limits.embeds.toNat - 1) (alerts.filterMap (Handler.card? n))] at hmem
    obtain ⟨piece, hpiece, hcard⟩ := List.mem_flatten.1 hmem
    exact ⟨packedMessage piece, List.mem_map_of_mem hpiece, List.mem_map_of_mem hcard⟩

/-- **Messages to Discord keep to the limits**, whatever the alerts are and however the requests end.
A list of fields that breaks a limit costs its alert the fields only: the embed is sent without
them. -/
theorem keepsLimits_deliver (hembeds : 1 ≤ n.limits.embeds)
    (hbody : Alert.ofBody? n.body = some alerts) (packed : Bool) (script : List Outcome) :
    KeepsLimits n packed alerts script := by
  refine ⟨fun post hpost => ?_, fun alert halert hembed hrefused => ?_⟩
  · obtain ⟨body, hmem, hrequest⟩ := List.mem_filterMap.1
      ((Handler.isPrefix_posts_deliver_discord packed hembeds hbody script).subset hpost)
    obtain ⟨url, -, -, rfl⟩ := Webhook.request?_eq_some_iff.1 hrequest
    exact isMessageOf_of_mem_bodies hembeds hmem
  · obtain ⟨embed, mentions, hplain, hmentions, hwithout, hcard⟩ :=
      hembed.exists_card_of_refused hrefused
    obtain ⟨body, hmem, hembed⟩ := exists_body_of_card? packed halert hcard
    refine ⟨embed, mentions, hplain, hmentions, hwithout, hcard, body, hmem, hembed,
      fun hscript post hrequest => ?_⟩
    rw [Handler.posts_deliver (Handler.isPerAlert_discord packed) hembeds hbody hscript]
    exact List.mem_filterMap.2 ⟨body, hmem, hrequest⟩

/-- A reader that takes the characters of a text for the items of a list. -/
def characterLexer : Lexer := fun markdown =>
  match markdown with
  | .str text =>
    pure (.ok [{ kind := .list, children := text.toList.map fun c =>
      { kind := .listitem, children := [.ofText (String.singleton c)] } }])
  | _ => pure (.ok [])

/-- An alert that goes down and lists fields. -/
def downWithFields (listed : String) : Json :=
  .obj [("annotations", .obj [("summary", .str "Down"), ("inline_fields", .str listed)])]

/-- A notification of two alerts with fields, of which a message has one. -/
def fieldsNotification : Notification where
  hook := "http://host/"
  body := .obj [("alerts", .arr [downWithFields "a", downWithFields "bc"])]
  query := []
  limits := ⟨10, 1, 20⟩
  lexer := characterLexer
  ceiling := 16

/-- The second alert has too many fields and is shown without them. -/
theorem keepsLimits_deliver_oneFieldOfTwo :
    1 ≤ fieldsNotification.limits.embeds ∧
      Alert.ofBody? fieldsNotification.body = some [downWithFields "a", downWithFields "bc"] ∧
      (∀ post ∈ (Handler.deliver ⟨.discord, true⟩ fieldsNotification []).posts,
        1 ≤ (embedsOf post.body).length ∧ (embedsOf post.body).length ≤ 10) ∧
      ∃ embed mentions, embed? (downWithFields "bc") = .ok embed ∧
        Handler.card? fieldsNotification (downWithFields "bc") = some ⟨embed, mentions⟩ := by
  have hrefused : RefusesFields fieldsNotification (downWithFields "bc") :=
    ⟨.str "bc", _, rfl, rfl, rfl, fun h => absurd h.length_le (by decide)⟩
  have hembed : HasEmbed (downWithFields "bc") :=
    ⟨rfl, (absurd · (by decide)), (absurd · (by decide)), rfl⟩
  have hembeds : 1 ≤ fieldsNotification.limits.embeds := by decide
  have hbody : Alert.ofBody? fieldsNotification.body =
      some [downWithFields "a", downWithFields "bc"] := rfl
  have hkeeps := keepsLimits_deliver hembeds hbody true []
  obtain ⟨embed, mentions, hplain, -, -, hcard, -⟩ :=
    hkeeps.exists_embed _ (by simp) hembed hrefused
  refine ⟨hembeds, hbody, fun post hpost => ?_, embed, mentions, hplain, hcard⟩
  have hmessage := hkeeps.isMessageOf post hpost
  exact ⟨hmessage.one_le_length, Int.ofNat_le.1 hmessage.length_le⟩

end Discord

end AlertBridge
