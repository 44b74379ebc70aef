import AlertBridge.Chunk
import AlertBridge.Discord.Embed

/-!
# Messages to Discord

A message carries embeds, and in its content the mentions that go with them. Alerts are sent one
message each, or packed: consecutive embeds share a message up to a limit, and each mention is
made once.
-/

namespace AlertBridge.Discord

/-- The mentions of a message, if there are any: whom they may notify, and their text. -/
def mentionFields (mentions : List String) : List (String × Json) :=
  if mentions.isEmpty then []
  else [("allowed_mentions", .obj [("parse", Json.ofTexts ["users", "roles"])]),
    ("content", .str (joinWith " " mentions))]

/-- A message with embeds and mentions. -/
def message (embeds : List Json) (mentions : List String) : Json :=
  .obj (("embeds", .arr embeds) :: mentionFields mentions)

/-- The message for one embed. -/
def Card.message (card : Card) : Json := Discord.message [card.embed] card.mentions

/-- The message for several embeds, with each of their mentions once. -/
def packedMessage (cards : List Card) : Json :=
  message (cards.map Card.embed) (dedup (cards.flatMap Card.mentions))

/-- The messages for embeds, with at most `limit` of them each. -/
def packMessages (limit : Int) (cards : List Card) : Except Fault (List Json) :=
  (chunks limit cards).map (·.map packedMessage)

end AlertBridge.Discord
