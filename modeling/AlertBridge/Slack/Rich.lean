import AlertBridge.Alert.Basic
import AlertBridge.RichText.Compile
import AlertBridge.Slack.Block
import AlertBridge.Slack.Mention
import AlertBridge.Token.Lexer

/-!
# Rich messages on Slack

The message of one alert: a section that makes its mentions, a rich text compiled from its
summary, description and inline fields, and a context with its footer.
-/

namespace AlertBridge.Slack

/-- The Markdown of an alert: those of its three texts that count as present, one below the
other. -/
def markdownOf? (summary description fields : Json) : Except Fault String := do
  let parts ← Json.joinable ([summary, description, fields].filter Json.truthy)
  return joinWith "\n" parts

/-- What a rich message is made of. -/
structure RichParts where
  mentions : String
  markdown : String
  footer : Option Json

/-- The parts of an alert's message, none if it has neither summary nor description. -/
def richParts? (alert : Json) : Except Fault (Option RichParts) := do
  let annotations ← Alert.annotations alert
  let description ← annotations.get "description"
  let summary ← annotations.get "summary"
  if !summary.truthy && !description.truthy then return none
  let mentions ← Mention.ofLabels? (← Alert.labels alert)
  let markdown ← markdownOf? summary description (← annotations.get "inline_fields")
  let footer ← contextBlock? (← annotations.get "footer_text")
    (← annotations.get "footer_icon_url")
  return some ⟨joinWith " " mentions, markdown, footer⟩

/-- The section that makes mentions, none where there are none. -/
def mentionSection (mentions : String) : Except Fault (List Json) :=
  if mentions = "" then return [] else return [← Schema.sectionBlock (.str mentions)]

/-- The blocks of a message from its parts. -/
def richBlocks? (lexer : Lexer) (ceiling : Int) (parts : RichParts) :
    Logged (Except Fault (List Json)) :=
  match mentionSection parts.mentions with
  | .error fault => return .error fault
  | .ok mentions => do
    return (← lexer (.str parts.markdown)).map fun tokens =>
      mentions ++ [richTextBlock (RichText.compileDocument ceiling tokens)] ++ parts.footer.toList

/-- The blocks of an alert's message, none if the alert has neither summary nor description. -/
def alertBlocks? (lexer : Lexer) (ceiling : Int) (alert : Json) :
    Logged (Except Fault (Option (List Json))) :=
  match richParts? alert with
  | .error fault => return .error fault
  | .ok none => return .ok none
  | .ok (some parts) => do return (← richBlocks? lexer ceiling parts).map some

end AlertBridge.Slack
