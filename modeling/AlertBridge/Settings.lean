import AlertBridge.Json.Order
import AlertBridge.Json.Shown
import AlertBridge.Text.Casing

/-!
# Settings

What the environment says about how the program runs. A setting that is absent or not an integer
takes its default, and so does a limit outside of its bounds: `clamp` never lets one through that
is not positive or exceeds what the platform takes.
-/

namespace AlertBridge

/-- The integer that a value denotes, none for null and for what is no numeral. -/
def toInteger? (v : Json) : Option Int :=
  match v with
  | .null => none
  | v => readInteger? v.shown

/-- The value if it is positive and at most `upper`, else the default. -/
def clamp (value : Option Int) (default upper : Int) : Int :=
  match value with
  | none => default
  | some n => if n ≤ 0 ∨ upper < n then default else n

/-- A limit lies between one and the greater of its default and its bound. -/
theorem clamp_bounds {value : Option Int} {default upper : Int} (hd : 1 ≤ default)
    (hu : default ≤ upper) : 1 ≤ clamp value default upper ∧ clamp value default upper ≤ upper := by
  unfold clamp
  split
  · exact ⟨hd, hu⟩
  · split
    · exact ⟨hd, hu⟩
    · omega

/-- The value if it is a positive number that is not above another one, else the default. -/
def clampValue (value default upper : Json) : Except Fault Json :=
  match value with
  | .null => .ok default
  | v => do
    if ← v.atMost (.int 0) then return default
    if ← v.above upper then return default
    return v

/-- How many embeds a message, fields an embed and rows a table may have. -/
structure Limits where
  embeds : Int
  fields : Int
  rows : Int

/-- What the environment says about how the program runs. -/
structure Settings where
  /-- The number of the socket at which the endpoint listens. -/
  listenAt : Int
  debug : Bool
  logLevel : String
  configPath : String
  /-- The mode in which handlers work. -/
  mode : String
  /-- How long to wait for a webhook's answer, in seconds. -/
  timeout : Int
  limits : Limits
  /-- The ceiling of nesting in Markdown. -/
  ceiling : Int

namespace Settings

/-- The variables of an environment. -/
abbrev Environment := List (String × String)

/-- The integer that a variable holds. -/
def integer? (env : Environment) (name : String) : Option Int :=
  (env.lookup name).bind readInteger?

/-- An integer other than zero. -/
def nonzero? (value : Option Int) : Option Int := value.filter (· ≠ 0)

/-- The settings that an environment makes. -/
def ofEnvironment (env : Environment) : Settings :=
  let debug := lowerCase ((env.lookup "DEBUG_MODE").getD "False") = "true"
  { listenAt := ((nonzero? (integer? env "APP_PORT")).orElse
      fun _ => nonzero? (integer? env "PORT")).getD 5001
    debug
    logLevel := upperCase ((env.lookup "LOG_LEVEL").getD (if debug then "DEBUG" else "INFO"))
    configPath := (env.lookup "CONFIG_PATH").getD "/etc/alertmanager-discord.yml"
    mode := lowerCase (trim ((env.lookup "WORKING_MODE").getD "default"))
    timeout := (nonzero? (integer? env "WEBHOOK_TIMEOUT_SECONDS")).getD 10
    limits := {
      embeds := clamp (integer? env "MAX_EMBEDS_LENGTH") 10 10
      fields := clamp (integer? env "MAX_FIELDS_LENGTH") 25 25
      rows := clamp (integer? env "MAX_TABLE_ROWS") 20 100 }
    ceiling := max 1 ((nonzero? (integer? env "MARKDOWN_MAX_DEPTH")).getD 16) }

/-- The settings of an empty environment. -/
def default : Settings := ofEnvironment []

end Settings

end AlertBridge
