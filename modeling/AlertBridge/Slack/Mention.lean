import AlertBridge.Json.Access
import AlertBridge.Json.Shown

/-!
# Mentions on Slack

A mention is written as a name, as one of the words that address a whole channel, or already in
angle brackets. `Mention.canonical?` brings it into the form that Slack reads; the label
`slack_mentions` of an alert lists several, separated by commas.
-/

namespace AlertBridge.Mention

/-- The words that address everybody in a channel. -/
def broadcasts : List String := ["@here", "@channel", "@everyone"]

/-- The text is in angle brackets, with something between them and no other closing bracket. -/
def isWrapped (cs : List Char) : Bool :=
  match cs with
  | '<' :: rest =>
    match rest.takeWhile (· ≠ '>'), rest.dropWhile (· ≠ '>') with
    | _ :: _, ['>'] => true
    | _, _ => false
  | _ => false

/-- A mention in the form that Slack reads, none if it is blank. -/
def canonical? (text : String) : Option String :=
  let name := trim text
  if name = "" then none
  else if broadcasts.contains name || isWrapped name.toList then some name
  else some ("<@" ++ name ++ ">")

/-- The mention that a value denotes. -/
def ofValue? (v : Json) : Option String := canonical? (v.orElse (.str "")).shown

/-- The mentions of a text that lists them, each once, in the order of their first appearance. -/
def ofList (text : String) : List String :=
  dedup ((splitAt ',' text).filterMap canonical?)

/-- The mentions that labels ask for. -/
def ofLabels? (labels : Json) : Except Fault (List String) := do
  let listed ← (labels.orElse (.obj [])).get "slack_mentions"
  if listed.truthy then return ofList (← listed.text) else return []

end AlertBridge.Mention
