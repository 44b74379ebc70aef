import AlertBridge.Json.Access
import AlertBridge.Text.Substring

/-!
# Secrets of webhooks

The address of a webhook ends with a token that gives access to it. `secretOf?` finds the token in
the address of a webhook of a platform; an address of another form has none, and is no webhook.
-/

namespace AlertBridge

/-- A decimal digit of ASCII. -/
def isAsciiDigit (c : Char) : Bool := '0' ≤ c && c ≤ '9'

/-- A character of a Discord token. -/
def isTokenChar (c : Char) : Bool := c.isAlphanum || c = '_' || c = '-'

/-- A character of a Slack token, which has parts. -/
def isTokenPathChar (c : Char) : Bool := isTokenChar c || c = '/'

/-- The characters up to the first that does not satisfy `p`, if there is at least one. -/
def leading? (p : Char → Bool) (cs : List Char) : Option (List Char × List Char) :=
  match cs.takeWhile p with
  | [] => none
  | found => some (found, cs.dropWhile p)

/-- What follows one of several beginnings. -/
def stripAny? (beginnings : List String) (cs : List Char) : Option (List Char) :=
  beginnings.findSome? fun beginning => stripStart? beginning.toList cs

/-- The beginnings of a Discord webhook. -/
def discordBeginnings : List String :=
  ["https://discord.com/api/webhooks/", "https://discordapp.com/api/webhooks/"]

/-- The beginning of a Slack webhook. -/
def slackBeginning : String := "https://hooks.slack.com/services/"

/-- The token of a Discord webhook: behind the beginning there are a number, a slash and the
token. -/
def discordSecret? (cs : List Char) : Option String := do
  match ← leading? isAsciiDigit (← stripAny? discordBeginnings cs) with
  | (_, '/' :: rest) => return String.ofList (← leading? isTokenChar rest).1
  | _ => none

/-- The token of a Slack webhook. -/
def slackSecret? (cs : List Char) : Option String := do
  return String.ofList (← leading? isTokenPathChar (← stripStart? slackBeginning.toList cs)).1

/-- The token of a webhook. Everything that is not for Slack is taken to be for Discord. -/
def secretOf? (type hook : String) : Option String :=
  if type = "slack" then slackSecret? hook.toList else discordSecret? hook.toList

/-- The token of a webhook that is given as a value. -/
def extractSecret? (type : String) (hook : Json) : Except Fault (Option String) := do
  return secretOf? type (← (hook.orElse (.str "")).searchable)

end AlertBridge
