import AlertBridge.Fault
import AlertBridge.Json.Access
import AlertBridge.Json.Writable

/-!
# What is logged

Log calls take values of documents, and besides them any objects of the program: faults, bytes,
moments, tuples. Nothing is known of an object but what it gives when it is asked for its text, for
a number or for what stands for it in a document, and it may refuse each of them.

Where a value of a document is shown in decimal, its integers must not be too long.
-/

namespace AlertBridge

/-- An object of the program. -/
structure LogObject where
  /-- Its text. -/
  text : Except Fault String
  /-- Its text in the notation of values. -/
  quoted : Except Fault String
  /-- What stands for it in a document. -/
  document : Except Fault Json
  /-- The integer that is left when it is made whole. -/
  whole : Except Fault Int := .error .misfitArguments
  /-- The integer that it is. -/
  index : Except Fault Int := .error .misfitArguments
  /-- The double that it is as a number. -/
  real : Except Fault Binary64 := .error .misfitArguments

/-- An object that is no number, and that a document shows in the notation of values. -/
def LogObject.ofTexts (text quoted : String) : LogObject :=
  { text := .ok text, quoted := .ok quoted, document := .ok (.str quoted) }

/-- A value given to a log call. -/
inductive LogValue where
  /-- A value of documents. -/
  | value (v : Json)
  /-- Another object. -/
  | object (o : LogObject)
  /-- An object that is not empty and has values under names. -/
  | mapping (o : LogObject) (fields : List (String × LogValue))

/-- The characters of a text, with escapes for those beyond ASCII. -/
def asciiChars (s : String) : List Char :=
  s.toList.flatMap fun c =>
    if c.toNat < 0x80 then [c]
    else if c.toNat < 0x100 then '\\' :: 'x' :: Json.hexPadded 2 c.toNat
    else if c.toNat < 0x10000 then '\\' :: 'u' :: Json.hexPadded 4 c.toNat
    else '\\' :: 'U' :: Json.hexPadded 8 c.toNat

namespace LogValue

/-- What is shown of a value, whose integers have to be short for it. -/
def showing (v : Json) (shown : String) : Except Fault String :=
  if v.isWritable then .ok shown else .error .notANumeral

/-- The text of a value. -/
def text : LogValue → Except Fault String
  | value v => showing v v.shown
  | object o | mapping o _ => o.text

/-- The text of a value in the notation of values. -/
def quoted : LogValue → Except Fault String
  | value v => showing v v.quoted
  | object o | mapping o _ => o.quoted

/-- What stands for a value in a document. -/
def standIn : LogValue → Except Fault Json
  | value v => .ok v
  | object o | mapping o _ => o.document

/-- What stands for a value in a document, if it can be written. -/
def document (v : LogValue) : Except Fault Json := do
  let shown ← v.standIn
  if shown.isWritable then return shown else throw .notANumeral

/-- The integer that is left of a number when its fraction is cut off. -/
def whole : LogValue → Except Fault Int
  | value (.int n) => .ok n
  | value (.bool b) => .ok b.toInt
  | value (.real x) => match x.truncate? with
    | some n => .ok n
    | none => .error (if x = .nan then .notANumeral else .tooLarge)
  | value _ => .error .misfitArguments
  | object o | mapping o _ => o.whole

/-- The integer that a value is, where a double is none. -/
def index : LogValue → Except Fault Int
  | value (.int n) => .ok n
  | value (.bool b) => .ok b.toInt
  | value _ => .error .misfitArguments
  | object o | mapping o _ => o.index

/-- The double that a value is as a number. -/
def real : LogValue → Except Fault Binary64
  | value (.real x) => .ok x
  | value (.int n) =>
    let x := Binary64.ofInt n
    if x.isFinite then .ok x else .error .tooLarge
  | value (.bool b) => .ok (.ofInt b.toInt)
  | value _ => .error .misfitArguments
  | object o | mapping o _ => o.real

/-- The character that a value is, by itself or by its number. -/
def char : LogValue → Except Fault Char
  | value (.str s) => match s.toList with
    | [c] => .ok c
    | _ => .error .misfitArguments
  | v => do
    let n ← v.index
    if n < 0 || !n.toNat.isValidChar then throw .tooLarge
    return Char.ofNat n.toNat

/-- The number of characters that a value asks for. -/
def count : LogValue → Except Fault Int
  | value (.int n) => .ok n
  | value (.bool b) => .ok b.toInt
  | _ => .error .misfitArguments

/-- The values under names, if the value has any. -/
def named? : LogValue → Option (List (String × LogValue))
  | value (.obj (f :: fields)) => some ((f :: fields).map fun (name, v) => (name, value v))
  | mapping _ fields => some fields
  | _ => none

end LogValue

end AlertBridge
