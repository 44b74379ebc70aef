import AlertBridge.Config.Secret
import AlertBridge.Json.Shown
import AlertBridge.Log.Record
import AlertBridge.Text.Casing

/-!
# Configurations

A configuration lists webhooks, each under a slug. `Config.ofData` takes the entries that are
valid and leaves a warning about each of the others. A later entry takes the place of an earlier
one with its slug, but the secrets of both are kept, for masking.
-/

namespace AlertBridge

/-- A webhook under its slug. -/
structure Route where
  slug : String
  hook : String
  type : String
  deriving DecidableEq

/-- The webhooks of a configuration by slug, and all secrets in it. -/
structure Config where
  routes : List (String × Route)
  secrets : List String

namespace Config

/-- A configuration without webhooks. -/
def empty : Config := ⟨[], []⟩

/-- The routes with one set under a slug: in place if the slug is there, else at the end. -/
def setRoute (slug : String) (route : Route) : List (String × Route) → List (String × Route)
  | [] => [(slug, route)]
  | (s, r) :: rest => if s = slug then (s, route) :: rest else (s, r) :: setRoute slug route rest

/-- The configuration with a route and its secret. -/
def add (config : Config) (route : Route) (secret : String) : Config :=
  ⟨setRoute route.slug route config.routes, config.secrets ++ [secret]⟩

/-- The route under a slug. -/
def route? (config : Config) (slug : String) : Option Route := config.routes.lookup slug

/-- A route set under a slug is found there, and the others stay. -/
theorem lookup_setRoute (slug other : String) (route : Route) (routes : List (String × Route)) :
    (setRoute slug route routes).lookup other
      = if other = slug then some route else routes.lookup other := by
  have cons (k : String) (r : Route) (rest : List (String × Route)) :
      ((k, r) :: rest).lookup other = if other = k then some r else rest.lookup other := by
    by_cases h : other = k
    · simp [h]
    · simp [List.lookup_cons, h, beq_eq_false_iff_ne.2 h]
  induction routes with
  | nil => simp [setRoute, cons]
  | cons r rest ih =>
    obtain ⟨s, r⟩ := r
    by_cases hs : s = slug
    · by_cases h : other = slug <;> simp [setRoute, cons, hs, h]
    · by_cases h : other = s
      · simp [setRoute, h, hs]
      · simp [setRoute, cons, h, hs, ih]

/-! ### Entries -/

/-- The types of webhooks. -/
def routeTypes : List String := ["discord", "slack"]

/-- Why an entry is left out. -/
inductive Refusal where
  | malformed (entry : Json)
  | unknownType (type : String) (slug : Json)
  | noSlug
  | notAWebhook (type : String) (slug : Json)

/-- What is said about an entry that is left out. -/
def Refusal.message : Refusal → String
  | malformed entry => "Ignoring malformed hook entry: " ++ entry.quoted
  | unknownType type slug => "Unknown hook type '" ++ type ++ "' for slug = " ++ slug.shown
  | noSlug => "Hook entry without slug ignored"
  | notAWebhook type slug => "Not a valid " ++ type ++ " web hook for slug = " ++ slug.shown

/-- The type of an entry, Discord unless another one is given. -/
def entryType (fields : List (String × Json)) : String :=
  lowerCase (((Json.fieldOf? fields "type").getD .null).orElse (.str "discord")).shown

/-- The address of an entry and the secret in it. -/
def entryHook? (type : String) (fields : List (String × Json)) : Option (String × String) :=
  match Json.fieldOf? fields "hook" with
  | some (.str hook) => (secretOf? type hook).map fun secret => (hook, secret)
  | _ => none

/-- The route and the secret of an entry. -/
def readEntry (entry : Json) : Except Refusal (Route × String) :=
  match entry with
  | .obj fields =>
    let slug := (Json.fieldOf? fields "slug").getD .null
    let type := entryType fields
    if !routeTypes.contains type then .error (.unknownType type slug)
    else if !slug.truthy then .error .noSlug
    else match entryHook? type fields with
      | none => .error (.notAWebhook type slug)
      | some (hook, secret) => .ok (⟨slug.shown, hook, type⟩, secret)
  | v => .error (.malformed v)

/-- A record about the configuration. -/
def configRecord (level : Level) (event : String) : LogRecord :=
  ⟨level, "relay.config", event, none⟩

/-- The configuration with an entry, or a warning about it. -/
def addEntry (config : Config) (entry : Json) : Logged Config :=
  match readEntry entry with
  | .ok (route, secret) => return config.add route secret
  | .error refusal => ⟨config, [configRecord .warning refusal.message]⟩

/-- The configuration with entries, one after the other. -/
def addEntries (config : Config) : List Json → Logged Config
  | [] => return config
  | entry :: rest => do (← addEntry config entry).addEntries rest

/-- The entries of a configuration given as data. -/
def entries? (data : Json) : Option (List Json) :=
  match data with
  | .obj fields => match Json.fieldOf? fields "hooks" with
    | some (.arr entries) => some entries
    | _ => none
  | _ => none

/-- The configuration that data describe. -/
def ofData (data : Json) : Logged Config :=
  match entries? data with
  | some entries => empty.addEntries entries
  | none =>
    ⟨empty, [configRecord .warning "Configuration has no 'hooks' list, no routes loaded"]⟩

end Config

end AlertBridge
