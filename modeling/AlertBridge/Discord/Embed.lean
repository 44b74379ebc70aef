import AlertBridge.Discord.Field

/-!
# Embeds

An alert with a summary or a description becomes an embed: its title, its description, a colour
that tells its status, and its inline fields if it has any. With the embed go the mentions that
the alert's labels ask for.
-/

namespace AlertBridge.Discord

/-- The mentions of a text that lists them, without blanks. -/
def mentionsOf (text : String) : List String :=
  let names := splitChars ',' (text.toList.filter (!isBlank ·))
  (names.filter (!·.isEmpty)).map fun name => "<@" ++ String.ofList name ++ ">"

/-- The mentions that an alert's labels ask for. -/
def mentions? (alert : Json) : Except Fault (List String) := do
  let listed ← (← Alert.labels alert).get "mentions"
  if listed.truthy then return mentionsOf (← listed.searchable) else return []

/-- The colour of a firing alert, a red. -/
def firingColor : Int := 0xD50000

/-- The colour of a resolved alert, a green. -/
def resolvedColor : Int := 0x00C853

/-- The colour of any other alert, a dark grey. -/
def defaultColor : Int := 0x333333

/-- The colour of a status. -/
def colorOf (status : Json) : Except Fault Int :=
  match status with
  | .str "firing" => .ok firingColor
  | .str "resolved" => .ok resolvedColor
  | v => if v.isKey then .ok defaultColor else .error .notAKey

/-- The embed of an alert, without fields, as the fields of an object. -/
def embedFields? (alert : Json) : Except Fault (List (String × Json)) := do
  let annotations ← Alert.annotations alert
  let title ← annotations.get "summary"
  let description ← annotations.get "description"
  return [("title", title), ("description", description),
    ("color", .int (← colorOf (← alert.get "status")))]

/-- The embed of an alert, without fields. -/
def embed? (alert : Json) : Except Fault Json := return .obj (← embedFields? alert)

/-- An embed, and the mentions that go with it. -/
structure Card where
  embed : Json
  mentions : List String

/-- The alert has a summary or a description. -/
def hasContent? (alert : Json) : Except Fault Bool := do
  let annotations ← Alert.annotations alert
  return (← annotations.get "summary").truthy || (← annotations.get "description").truthy

/-- An embed with fields, if there are any. -/
def withFields (embed : List (String × Json)) (fields : List Json) : Json :=
  if fields.isEmpty then .obj embed else .obj (embed ++ [("fields", .arr fields)])

/-- The embed with the fields and mentions of an alert that has content. -/
def fullCard? (lexer : Lexer) (limit : Int) (alert : Json) : Logged (Except Fault Card) :=
  match embedFields? alert with
  | .error fault => return .error fault
  | .ok embed => do
    return (← fields? lexer limit alert).bind fun fields =>
      (mentions? alert).map fun mentions => ⟨withFields embed fields, mentions⟩

/-- The embed and the mentions of an alert, none if it has no content. -/
def card? (lexer : Lexer) (limit : Int) (alert : Json) : Logged (Except Fault (Option Card)) :=
  match hasContent? alert with
  | .error fault => return .error fault
  | .ok false => return .ok none
  | .ok true => do return (← fullCard? lexer limit alert).map some

end AlertBridge.Discord
