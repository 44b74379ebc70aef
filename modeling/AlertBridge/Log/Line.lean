import AlertBridge.Json.Written
import AlertBridge.Log.Mask
import AlertBridge.Log.Message
import AlertBridge.Log.Record

/-!
# Log lines

A record is written as one line of JSON: what happened, the level, the logger, and the exception
if there is one. Fields that an event brings along stand in front. Secrets are masked in every
field that is a text.

A field may be an object of the program. What stands for it is written after the masking, so its
secrets stay. A line of which a field cannot be written is not written at all.
-/

namespace AlertBridge

/-- A field, if its text is given. -/
def optionalField (name : String) : Option String → List (String × Json)
  | some text => [(name, .str text)]
  | none => []

namespace LogRecord

/-- The fields of a record, maybe with the stack of calls that led to it. -/
def fields (record : LogRecord) (stack : Option String := none) : List (String × Json) :=
  ("event", .str record.event) :: optionalField "stack_info" stack
    ++ [("level", .str record.level.word), ("logger", .str record.logger)]
    ++ optionalField "exception" record.exception

end LogRecord

/-! ## Events with fields of their own -/

/-- Names among the fields of an event that have a meaning of their own. -/
def reservedNames : List String := ["_record", "_from_structlog", "exc_info"]

/-- Names of the parameters of the methods that log events, which no field can have. -/
def parameterNames : List String := ["self", "method_name", "event"]

/-- The fields of an event that brings some along: these, what happened unless that is null, the
level and the logger. -/
def eventFields (level : Level) (logger : String) (event : LogValue)
    (own : List (String × LogValue)) : List (String × LogValue) :=
  let own := own.filter fun (name, _) => !reservedNames.contains name
  let happened := match event with
    | .value .null => own
    | event => Json.setField own "event" event
  Json.setField (Json.setField happened "level" (.value (.str level.word)))
    "logger" (.value (.str logger))

/-- Fields with the exception behind an event, if there is one: it takes the place of a field of its
name, or comes last. -/
def withException (fields : List (String × LogValue)) : Option String → List (String × LogValue)
  | some text => Json.setField fields "exception" (.value (.str text))
  | none => fields

/-- What happened, where only a text takes arguments. -/
def filledEvent (event : LogValue) (arguments : List LogValue) : Except Fault LogValue :=
  if arguments.isEmpty then .ok event
  else match event with
    | .value (.str text) => (LogMessage.filled text arguments).map fun shown => .value (.str shown)
    | .value .null => .error (.missing "event")
    | _ => .error .misfitArguments

/-! ## Lines -/

/-- What is written of a value, without secrets if it is a text. -/
def LogValue.withoutSecrets (secrets : List String) (v : LogValue) : Except Fault Json := do
  let shown ← v.document
  return match v with
    | .value _ => Mask.value secrets shown
    | _ => shown

/-- What is written of fields. -/
def fieldsWithoutSecrets (secrets : List String) (fields : List (String × LogValue)) :
    Except Fault (List (String × Json)) :=
  fields.mapM fun (name, v) => (v.withoutSecrets secrets).map fun shown => (name, shown)

/-- The line of some fields, without secrets. -/
def logLine (secrets : List String) (fields : List (String × Json)) : String :=
  (Json.obj (Mask.fields secrets fields)).written Json.spaced

/-- The line of fields that may be objects, without the secrets of those that are not. -/
def logLine? (secrets : List String) (fields : List (String × LogValue)) : Except Fault String :=
  (fieldsWithoutSecrets secrets fields).map fun shown => (Json.obj shown).written Json.spaced

/-- An exception as log lines name it: its class, and its text unless that is empty. -/
def exceptionText (type message : String) : String :=
  if message = "" then type else type ++ ": " ++ message

/-- A record as an item of an answer, where secrets are masked in what happened, the level and the
logger. -/
def LogRecord.item (secrets : List String) (record : LogRecord) : Json :=
  .obj (Mask.fields secrets { record with exception := none }.fields
    ++ optionalField "exception" record.exception)

end AlertBridge
