import AlertBridge.Json.Access

/-!
# The block schema

Constructors of Slack's blocks over arbitrary values. Each checks its arguments in order and
reports the first that breaks the schema. An absent style, indentation, offset or border counts as
null; a style that does not count as present is left out unchecked.
-/

namespace AlertBridge.Schema

/-- The longest text of a section. -/
def maxSectionText : Nat := 3000

/-- The longest text of a header. -/
def maxHeaderText : Nat := 150

/-- A broken rule as a fault. -/
def broken {α : Type} (fault : SchemaFault) : Except Fault α := .error (.schema fault)

/-- The items of what has to be an array. -/
def ensureArray (elements : Json) (name : String) : Except Fault (List Json) :=
  match elements with
  | .arr items => .ok items
  | v => broken (.notAnArray name v)

/-- The first entry of a style that breaks the schema: a key outside the vocabulary, or a value
that is no truth value. -/
def checkStyleFields : List (String × Json) → Except Fault Unit
  | [] => .ok ()
  | (key, value) :: rest =>
    if styleWords.contains key then
      match value with
      | .bool _ => checkStyleFields rest
      | v => broken (.styleValueNotBoolean key v)
    else broken (.unknownStyleKey key)

/-- A style has to be an object of truth values under keys of the vocabulary. -/
def checkStyle (style : Json) : Except Fault Unit :=
  match style with
  | .obj fields => checkStyleFields fields
  | v => broken (.styleNotAnObject v)

/-- A number has to be an integer or a double. -/
def checkNumber (value : Json) (name : String) : Except Fault Unit :=
  match value with
  | .int _ => .ok ()
  | .real _ => .ok ()
  | v => broken (.notANumber name v)

/-- An object whose type stands first. -/
def typed (type : String) (fields : List (String × Json)) : Json :=
  .obj (("type", .str type) :: fields)

/-- A text object of a type. -/
def textObject (type : String) (text : Json) : Json := typed type [("text", text)]

/-- A section of marked-up text. -/
def sectionBlock (text : Json) : Except Fault Json :=
  return typed "section" [("text", textObject "mrkdwn" (← text.firstPart maxSectionText))]

/-- A header of plain text. -/
def header (text : Json) : Except Fault Json :=
  return typed "header" [("text", textObject "plain_text" (← text.firstPart maxHeaderText))]

/-- A divider. -/
def divider : Json := typed "divider" []

/-- A block of a type that holds elements. -/
def container (type : String) (elements : Json) : Except Fault Json :=
  return typed type [("elements", .arr (← ensureArray elements "elements"))]

/-- The whole of a rich text. -/
def rich (elements : Json) : Except Fault Json := container "rich_text" elements

/-- A section of a rich text. -/
def richSection (elements : Json) : Except Fault Json := container "rich_text_section" elements

/-- Preformatted text. -/
def richPreformatted (elements : Json) : Except Fault Json :=
  container "rich_text_preformatted" elements

/-- Quoted text. -/
def richQuote (elements : Json) : Except Fault Json := container "rich_text_quote" elements

/-- The style of a run, checked, as a field. -/
def styleFields (style : Json) : Except Fault (List (String × Json)) :=
  if style.truthy then do
    checkStyle style
    return [("style", style)]
  else return []

/-- A run of text. -/
def richText (text style : Json) : Except Fault Json :=
  return typed "text" (("text", text) :: (← styleFields style))

/-- A link. -/
def richLink (url text style : Json) : Except Fault Json :=
  return typed "link" (("url", url) :: ("text", text) :: (← styleFields style))

/-- A value, or another where it is null. -/
def orDefault (value default : Json) : Json :=
  match value with
  | .null => default
  | v => v

/-- The style of a list is one of two words. -/
def isListStyle : Json → Bool
  | .str s => s = "bullet" || s = "ordered"
  | _ => false

/-- A list. -/
def richList (elements style indent offset border : Json) : Except Fault Json := do
  let items ← ensureArray elements "elements"
  let style := orDefault style (.str "bullet")
  if !isListStyle style then broken (.unknownListStyle style)
  let indent := orDefault indent (.int 0)
  let offset := orDefault offset (.int 0)
  let border := orDefault border (.int 0)
  checkNumber indent "indent"
  checkNumber offset "offset"
  checkNumber border "border"
  return typed "rich_text_list" [("style", style), ("indent", indent), ("offset", offset),
    ("border", border), ("elements", .arr items)]

/-- Every item is a text. -/
def areTexts (items : List Json) : Bool :=
  items.all fun v => match v with
    | .str _ => true
    | _ => false

/-- A rich text that is one list of unstyled texts. -/
def simpleList (elements : Json) : Except Fault Json := do
  let items ← ensureArray elements "elements"
  if !areTexts items then broken .elementNotText
  let sections ← items.mapM fun text => do richSection (.arr [← richText text .null])
  rich (.arr [← richList (.arr sections) .null .null .null .null])

/-! ## Constructors by name -/

/-- A constructor with the names of its parameters, of which the first `required` have no
default. -/
structure Constructor where
  name : String
  parameters : List String
  required : Nat
  build : List Json → Except Fault Json

/-- All constructors, and the two checks, whose result is null. -/
def constructors : List Constructor := [
  ⟨"section", ["text"], 1, fun a => sectionBlock (a.getD 0 .null)⟩,
  ⟨"header", ["text"], 1, fun a => header (a.getD 0 .null)⟩,
  ⟨"divider", [], 0, fun _ => .ok divider⟩,
  ⟨"rich", ["elements"], 1, fun a => rich (a.getD 0 .null)⟩,
  ⟨"rich_section", ["elements"], 1, fun a => richSection (a.getD 0 .null)⟩,
  ⟨"rich_text", ["text", "style"], 1, fun a => richText (a.getD 0 .null) (a.getD 1 .null)⟩,
  ⟨"rich_link", ["url", "text", "style"], 2,
    fun a => richLink (a.getD 0 .null) (a.getD 1 .null) (a.getD 2 .null)⟩,
  ⟨"rich_list", ["elements", "style", "indent", "offset", "border"], 1,
    fun a => richList (a.getD 0 .null) (a.getD 1 .null) (a.getD 2 .null) (a.getD 3 .null)
      (a.getD 4 .null)⟩,
  ⟨"rich_preformatted", ["elements"], 1, fun a => richPreformatted (a.getD 0 .null)⟩,
  ⟨"rich_quote", ["elements"], 1, fun a => richQuote (a.getD 0 .null)⟩,
  ⟨"simple_list", ["elements"], 1, fun a => simpleList (a.getD 0 .null)⟩,
  ⟨"validate_text_style", ["style"], 1, fun a => do checkStyle (a.getD 0 .null); return .null⟩,
  ⟨"validate_number", ["value", "name"], 2, fun a => do
    checkNumber (a.getD 0 .null) (a.getD 1 .null).shown; return .null⟩]

/-- The values of a constructor's parameters from positional and named arguments; none if there
are too many, one is given twice or unknown, or a required one is missing. -/
def Constructor.arguments? (c : Constructor) (positional : List Json)
    (named : List (String × Json)) : Option (List Json) :=
  let given := c.parameters.take positional.length
  let known := named.all fun (k, _) => c.parameters.contains k && !given.contains k
  if positional.length > c.parameters.length || !known then none
  else
    let values := c.parameters.mapIdx fun i p => (positional[i]?).orElse fun _ => named.lookup p
    if (values.take c.required).all Option.isSome then
      some (values.map (·.getD .null))
    else none

/-- What the constructor of a name makes of its arguments. -/
def construct? (name : String) (positional : List Json) (named : List (String × Json)) :
    Option (Except Fault Json) :=
  (constructors.find? (·.name = name)).map fun c =>
    match c.arguments? positional named with
    | some arguments => c.build arguments
    | none => .error .wrongArguments

end AlertBridge.Schema
