import AlertBridge.Config.Basic
import AlertBridge.Text.Utf
import AlertBridge.Yaml.Value

/-!
# Configuration files

A configuration file is a YAML document in UTF-8. A file that is missing or is no such document
leaves an error in the log and an empty configuration.
-/

namespace AlertBridge.Config

/-- What there is where a configuration file should be. -/
inductive File where
  | missing
  | bytes (content : List UInt8)

/-- Line ends of two characters, or a carriage return alone, become line feeds. -/
def plainLineEnds : List Char → List Char
  | '\r' :: '\n' :: rest => '\n' :: plainLineEnds rest
  | '\r' :: rest => '\n' :: plainLineEnds rest
  | c :: rest => c :: plainLineEnds rest
  | [] => []

/-- An empty configuration, and the error that says why it is empty. -/
def unreadable (reason : String) : Logged Config :=
  ⟨empty, [configRecord .error ("Failed to read configuration file: " ++ reason)]⟩

/-- The configuration in a text. -/
def ofText (cs : List Char) : Logged (Except Fault Config) :=
  match Yaml.readText (plainLineEnds cs) with
  | .ok data => do return .ok (← ofData data)
  | .error .document => do return .ok (← unreadable "<YAMLError>")
  | .error (.value fault) => return .error fault

/-- The configuration in a file. -/
def load : File → Logged (Except Fault Config)
  | .missing => do return .ok (← unreadable "<OSError>")
  | .bytes content =>
    match decodeUtf8? content with
    | some cs => ofText cs
    | none => return .error .undecodable

end AlertBridge.Config
