import AlertBridge.Proofs.Chunk
import AlertBridge.Proofs.Discord.Limits
import AlertBridge.Proofs.FirstOccurrence

/-!
# Cards packed into messages

Cards that stand next to each other share a message, up to a limit. The cards are cut into pieces,
and each piece has a message of its own: it has the embeds of the piece, and in its content the
mentions of the piece, each where it comes first. So mentions go with their embeds, and where one
user is mentioned by two pieces, both messages say so.

## Main definitions

* `IsMessageFor`: the message of a piece
* `IsPacking`: the messages of all cards

## Main results

* `isPacking_packMessages`: cards are packed without loss
-/

namespace AlertBridge.Discord

/-- A message for cards. It has their embeds. Content, and the kinds of mentions that it may make,
are there only if one of the cards mentions someone; then the content is made of the mentions of
these cards, each once and in the order in which they come first. -/
structure IsMessageFor (cards : List Card) (body : Json) : Prop where
  embeds : body.require "embeds" = .ok (.arr (cards.map Card.embed))
  content_iff : (∃ value, body.require "content" = .ok value) ↔ ∃ card ∈ cards, card.mentions ≠ []
  allowed_iff : (∃ value, body.require "allowed_mentions" = .ok value) ↔
    ∃ card ∈ cards, card.mentions ≠ []
  content : ∀ value, body.require "content" = .ok value → ∃ mentions,
    FirstOccurrences (cards.flatMap Card.mentions) mentions ∧
      value = .str (joinWith " " mentions)
  allowed : ∀ value, body.require "allowed_mentions" = .ok value →
    value = .obj [("parse", Json.ofTexts ["users", "roles"])]

/-- Messages for cards, with no more than `limit` embeds each: all of them together have the embeds
of the cards, none is without any, and only the last may have fewer than the limit. -/
structure IsPacking (limit : Nat) (cards : List Card) (bodies : List Json) : Prop where
  embeds_eq : bodies.flatMap embedsOf = cards.map Card.embed
  count_eq : bodies.length = cards.length ⌈/⌉ limit
  one_le_length : ∀ body ∈ bodies, 1 ≤ (embedsOf body).length
  length_le : ∀ body ∈ bodies, (embedsOf body).length ≤ limit
  length_eq : ∀ body ∈ bodies.dropLast, (embedsOf body).length = limit
  /-- Each message is one for the cards that its embeds come from. -/
  exists_parts : ∃ parts, parts.flatten = cards ∧ List.Forall₂ IsMessageFor parts bodies

variable {cards : List Card} {parts : List (List Card)} {embeds : List Json}
  {mentions : List String} {limit : Nat}

/-! ## The message of a piece -/

theorem mentionFields_of_ne_nil (h : mentions ≠ []) : mentionFields mentions =
    [("allowed_mentions", .obj [("parse", Json.ofTexts ["users", "roles"])]),
      ("content", .str (joinWith " " mentions))] := by
  apply if_neg
  simpa using h

theorem require_content_message (embeds : List Json) (mentions : List String) :
    (message embeds mentions).require "content" =
      if mentions = [] then .error (.missing "content") else .ok (.str (joinWith " " mentions)) := by
  by_cases h : mentions = []
  · subst h
    rfl
  · rw [message, mentionFields_of_ne_nil h, if_neg h]
    rfl

theorem require_allowed_message (embeds : List Json) (mentions : List String) :
    (message embeds mentions).require "allowed_mentions" =
      if mentions = [] then .error (.missing "allowed_mentions")
      else .ok (.obj [("parse", Json.ofTexts ["users", "roles"])]) := by
  by_cases h : mentions = []
  · subst h
    rfl
  · rw [message, mentionFields_of_ne_nil h, if_neg h]
    rfl

/-- Someone is mentioned in the message if one of the cards mentions someone. -/
theorem dedup_mentions_ne_nil_iff :
    dedup (cards.flatMap Card.mentions) ≠ [] ↔ ∃ card ∈ cards, card.mentions ≠ [] := by
  simp [List.flatMap_eq_nil_iff]

theorem isMessageFor_packedMessage (cards : List Card) :
    IsMessageFor cards (packedMessage cards) := by
  have hcontent := require_content_message (cards.map Card.embed)
    (dedup (cards.flatMap Card.mentions))
  have hallowed := require_allowed_message (cards.map Card.embed)
    (dedup (cards.flatMap Card.mentions))
  refine ⟨rfl, ?_, ?_, ?_, ?_⟩
  · rw [← dedup_mentions_ne_nil_iff, packedMessage, hcontent]
    split <;> simp [*]
  · rw [← dedup_mentions_ne_nil_iff, packedMessage, hallowed]
    split <;> simp [*]
  · intro value hvalue
    rw [packedMessage, hcontent] at hvalue
    split at hvalue
    · cases hvalue
    · exact ⟨_, firstOccurrences_dedup _, (Except.ok.inj hvalue).symm⟩
  · intro value hvalue
    rw [packedMessage, hallowed] at hvalue
    split at hvalue
    · cases hvalue
    · exact (Except.ok.inj hvalue).symm

/-! ## All messages -/

/-- The messages of the pieces of a cut have as many embeds as there are cards in the pieces. -/
theorem isPacking_of_isCut (h : IsCut limit cards parts) :
    IsPacking limit cards (parts.map packedMessage) := by
  have hlength (part : List Card) : (embedsOf (packedMessage part)).length = part.length := by
    simp
  refine ⟨?_, ?_, ?_, ?_, ?_, parts, h.flatten_eq, ?_⟩
  · rw [flatMap_embedsOf_packedMessage, h.flatten_eq]
  · rw [List.length_map, h.count_eq]
  · intro body hbody
    obtain ⟨part, hpart, rfl⟩ := List.mem_map.1 hbody
    rw [hlength]
    exact h.one_le_length part hpart
  · intro body hbody
    obtain ⟨part, hpart, rfl⟩ := List.mem_map.1 hbody
    rw [hlength]
    exact h.length_le part hpart
  · intro body hbody
    rw [← List.map_dropLast] at hbody
    obtain ⟨part, hpart, rfl⟩ := List.mem_map.1 hbody
    rw [hlength]
    exact h.length_eq part hpart
  · rw [List.forall₂_map_right_iff]
    exact List.forall₂_same.2 fun part _ => isMessageFor_packedMessage part

/-- **Cards are packed without loss.** For every positive limit there are messages for all of the
cards, in their order and no more than needed, and each mentions those whom its own cards
mention. -/
theorem isPacking_packMessages {limit : Int} (hlimit : 1 ≤ limit) (cards : List Card) :
    ∃ bodies, packMessages limit cards = .ok bodies ∧ IsPacking limit.toNat cards bodies := by
  refine ⟨_, ?_, isPacking_of_isCut (isCut_chunks hlimit cards)⟩
  rw [packMessages, chunks_eq_ok hlimit]
  rfl

/-- Cards of which the first two mention the same user, and the last one mentions nobody. -/
def mentioningCards : List Card :=
  [⟨.str "a", ["<@1>"]⟩, ⟨.str "b", ["<@2>", "<@1>"]⟩, ⟨.str "c", []⟩]

/-- The user is mentioned once in the message for both, and the message for the last card has no
content. -/
theorem isPacking_packMessages_mentioningCards : (1 : Int) ≤ 2 ∧
    ∃ first last, packMessages 2 mentioningCards = .ok [first, last] ∧
      IsPacking 2 mentioningCards [first, last] ∧
      first.require "content" = .ok (.str "<@1> <@2>") ∧
      last.require "content" = .error (.missing "content") := by
  have hlimit : (1 : Int) ≤ 2 := by decide
  obtain ⟨bodies, hbodies, hpacking⟩ := isPacking_packMessages hlimit mentioningCards
  have hevaluated : packMessages 2 mentioningCards =
      .ok [message [.str "a", .str "b"] ["<@1>", "<@2>"], message [.str "c"] []] := by
    rw [packMessages, chunks_eq_ok hlimit]
    simp [mentioningCards, pieces, packedMessage, Except.map, dedup]
  obtain rfl := Except.ok.inj (hbodies.symm.trans hevaluated)
  exact ⟨hlimit, _, _, hevaluated, hpacking, rfl, rfl⟩

end AlertBridge.Discord
