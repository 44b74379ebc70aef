import AlertBridge.Alert.Basic
import AlertBridge.Token.Lexer
import AlertBridge.Token.Text

/-!
# Inline fields

The annotation `inline_fields` of an alert holds Markdown. The items of its first list become the
inline fields of the alert's embed, all of them or none: `checkFields` refuses an empty list, one
with more items than an embed holds, and one with an item that is too long. A refused list leaves
an error in the log and no fields.
-/

namespace AlertBridge.Discord

/-- The most characters of a field. -/
def maxFieldLength : Nat := 1024

/-- Every item has a size, and none is too long. -/
def checkFieldLengths : List Json → Except Fault Unit
  | [] => .ok ()
  | v :: rest => do
    if maxFieldLength < (← v.size) then throw .fieldTooLong
    checkFieldLengths rest

/-- There are fields, no more than `limit`, and none is too long. -/
def checkFields (items : Json) (limit : Int) : Except Fault Unit := do
  if !items.truthy then throw .noFields
  if limit < (← items.size) then throw .tooManyFields
  checkFieldLengths (← items.items)

/-- The items of the first list among tokens, written back as Markdown. -/
def listTexts (tokens : List Token) : List String :=
  match tokens.find? fun t => t.kind = .list with
  | some t => t.children.map Token.markdownSource
  | none => []

/-- The texts of fields, if they pass the check. -/
def checkedTexts (limit : Int) (texts : List String) : Except Fault (List String) := do
  checkFields (Json.ofTexts texts) limit
  return texts

/-- The texts of the fields that a value in Markdown lists. -/
def fieldTexts? (lexer : Lexer) (limit : Int) (markdown : Json) :
    Logged (Except Fault (List String)) := do
  return (← lexer markdown).bind fun tokens => checkedTexts limit (listTexts tokens)

/-- An inline field without a name. -/
def field (text : String) : Json :=
  .obj [("name", .str ""), ("value", .str (trim text)), ("inline", .bool true)]

/-- The record about inline fields that were refused. -/
def refusedFields (name : Json) (fault : Fault) : LogRecord :=
  ⟨.error, "relay.handlers_default", "Invalid inline_fields for alert " ++ name.shown,
    some fault.inRecord⟩

/-- The annotation of an alert that lists its fields. -/
def listedFields (alert : Json) : Except Fault Json := do
  (← Alert.annotations alert).get "inline_fields"

/-- The name of an alert. -/
def alertName (alert : Json) : Except Fault Json := do
  (← Alert.labels alert).get "alertname"

/-- A fault of the fields is an error in the log and no fields, if it is about the fields' values;
any other fault stays one. -/
def recoverFields (alert : Json) (fault : Fault) : Logged (Except Fault (List Json)) :=
  if fault.isInvalidValue then
    match alertName alert with
    | .ok name => do
      Logged.write (refusedFields name fault)
      return .ok []
    | .error other => return .error other
  else return .error fault

/-- The inline fields of an alert. -/
def fields? (lexer : Lexer) (limit : Int) (alert : Json) : Logged (Except Fault (List Json)) :=
  match listedFields alert with
  | .error fault => return .error fault
  | .ok markdown =>
    if markdown.truthy then do
      match ← fieldTexts? lexer limit markdown with
      | .ok texts => return .ok (texts.map field)
      | .error fault => recoverFields alert fault
    else return .ok []

end AlertBridge.Discord
