import AlertBridge.Config.Basic
import AlertBridge.Discord.Delivery
import AlertBridge.Slack.Delivery

/-!
# Handlers

A handler delivers notifications to one platform, in one of two ways: with a message for each
alert, or with packed messages. The type of a route chooses the platform, and the mode in which
the program works chooses the way.
-/

namespace AlertBridge

/-- What messages are delivered to. -/
inductive Platform where
  | discord
  | slack
  deriving DecidableEq

/-- A way to deliver notifications to a platform. -/
structure Handler where
  platform : Platform
  packed : Bool
  deriving DecidableEq

namespace Handler

/-- The platform of a route's type. -/
def platform? (type : String) : Option Platform :=
  [("discord", Platform.discord), ("slack", Platform.slack)].lookup type

/-- The mode in which messages are packed. -/
def isPacking (mode : String) : Bool := mode = "alternative"

/-- The handler of a route in a mode, none for a route of an unknown type. -/
def of? (route : Route) (mode : String) : Option Handler :=
  (platform? route.type).map fun platform => ⟨platform, isPacking mode⟩

/-- The name of a handler. -/
def name : Handler → String
  | ⟨.discord, false⟩ => "handlers_default"
  | ⟨.discord, true⟩ => "handlers_alternative"
  | ⟨.slack, false⟩ => "handlers_slack_default"
  | ⟨.slack, true⟩ => "handlers_slack_alternative"

/-- A notification is delivered. -/
def deliver (h : Handler) (n : Notification) (script : List Webhook.Outcome) : Delivery :=
  match h with
  | ⟨.discord, false⟩ => Discord.deliverSingle n script
  | ⟨.discord, true⟩ => Discord.deliverPacked n script
  | ⟨.slack, false⟩ => Slack.deliverRich n script
  | ⟨.slack, true⟩ => Slack.deliverPacked n script

end Handler

end AlertBridge
