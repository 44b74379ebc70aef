import AlertBridge.Json.Shown

/-!
# Faults

What can go wrong while a message is built out of values that may be anything. A fault names its
cause; `Fault.label` is the word by which logs call its class, `Fault.message?` the text of those
faults that carry one, and `Fault.details?` what a fault of the block schema tells besides.
-/

namespace AlertBridge

/-- A rule of the rich text schema that a value breaks. -/
inductive SchemaFault where
  /-- The value given for an array is none. -/
  | notAnArray (name : String) (given : Json)
  /-- The value given for a style is not an object. -/
  | styleNotAnObject (given : Json)
  /-- A style has a key outside the vocabulary. -/
  | unknownStyleKey (key : String)
  /-- A style's value is not a truth value. -/
  | styleValueNotBoolean (key : String) (given : Json)
  /-- The value given for a number is none. -/
  | notANumber (name : String) (given : Json)
  /-- A list has a style other than the two that exist. -/
  | unknownListStyle (given : Json)
  /-- An element of a simple list is not a text. -/
  | elementNotText

/-- The words of the style vocabulary, in the order in which styles are written. -/
def styleWords : List String := ["bold", "italic", "strike", "code"]

namespace SchemaFault

/-- The word by which logs call the fault. -/
def label : SchemaFault → String
  | notAnArray .. => "NotAnArrayError"
  | styleNotAnObject _ => "BlockKitError"
  | unknownStyleKey _ => "InvalidStyleKeyError"
  | styleValueNotBoolean .. => "InvalidStyleValueError"
  | notANumber .. => "InvalidNumberError"
  | unknownListStyle _ => "InvalidListStyleError"
  | elementNotText => "BlockKitError"

/-- What the fault tells its reader. -/
def message : SchemaFault → String
  | notAnArray name given => name ++ " should be an array, given " ++ given.kindName
  | styleNotAnObject given => "style should be an object, given " ++ given.kindName
  | unknownStyleKey key =>
    "style allow only \"" ++ joinWith "," styleWords ++ "\" key, given: " ++ key
  | styleValueNotBoolean key given =>
    "style." ++ key ++ " should be boolean or unset, given " ++ given.quoted
  | notANumber name given => name ++ " should be a number, given " ++ given.quoted
  | unknownListStyle given => "style should be 'bullet' or 'ordered', given '" ++ given.shown ++ "'"
  | elementNotText => "each element should be a string"

/-- The parts of the fault by name. -/
def details : SchemaFault → List (String × Json)
  | notAnArray name _ => [("name", .str name)]
  | styleNotAnObject _ => []
  | unknownStyleKey key => [("key", .str key)]
  | styleValueNotBoolean key _ => [("key", .str key)]
  | notANumber name _ => [("name", .str name)]
  | unknownListStyle given => [("style", given)]
  | elementNotText => []

end SchemaFault

/-- Why a message, a configuration or a log line could not be made. -/
inductive Fault where
  /-- A field was asked of a value that is not an object. -/
  | notAnObject
  /-- A text was to be taken apart, and the value is not a text. -/
  | notText
  /-- A pattern was to be found in a value that is not a text. -/
  | notSearchable
  /-- Texts were to be joined, and a value among them is not a text. -/
  | notJoinable
  /-- A value was to be walked through that has no items. -/
  | notIterable
  /-- The size of a value was asked that has none. -/
  | notSized
  /-- A part of a value was to be cut out that has no order. -/
  | notSliceable
  /-- An array or an object was to name a key. -/
  | notAKey
  /-- A text and a number were to be compared. -/
  | notComparable
  /-- Two values were to be added that have no sum. -/
  | notAddable
  /-- A value was to be read as an integer that is neither a number nor a text. -/
  | notNumeric
  /-- Too few or too many arguments, or one of an unknown name. -/
  | wrongArguments
  /-- The arguments of a log message do not fit its text. -/
  | misfitArguments
  /-- The text of a log message has a mark that stands for no argument. -/
  | malformedMessage
  /-- A text is not an integer. -/
  | notANumeral
  /-- A number is too large for its use. -/
  | tooLarge
  /-- A list was to be cut into pieces of no length. -/
  | zeroStride
  /-- A style outside the vocabulary. -/
  | unknownStyle (word : String)
  /-- A level outside the scale. -/
  | unknownLevel (word : String)
  /-- There are no inline fields. -/
  | noFields
  /-- There are more inline fields than an embed holds. -/
  | tooManyFields
  /-- An inline field is too long. -/
  | fieldTooLong
  /-- A field that has to be there is missing. -/
  | missing (name : String)
  /-- Bytes are not text in the expected encoding. -/
  | undecodable
  /-- A rule of the rich text schema is broken. -/
  | schema (fault : SchemaFault)
  /-- The transport failed in a way that is not a failed request. -/
  | transport (label message : String)

namespace Fault

/-- The word by which logs call the fault's class. -/
def label : Fault → String
  | notAnObject | notText => "AttributeError"
  | notSearchable | notJoinable | notIterable | notSized | notSliceable | notAKey | notComparable
  | notAddable | notNumeric | wrongArguments | misfitArguments => "TypeError"
  | malformedMessage | notANumeral | zeroStride | unknownStyle _ | unknownLevel _ | noFields
  | tooManyFields | fieldTooLong => "ValueError"
  | tooLarge => "OverflowError"
  | missing _ => "KeyError"
  | undecodable => "UnicodeDecodeError"
  | schema fault => fault.label
  | transport label _ => label

/-- The text of a fault that carries one of its own. -/
def message? : Fault → Option String
  | noFields => some "Fields list is empty"
  | tooManyFields => some "Too many fields"
  | fieldTooLong => some "Too many characters in a field"
  | schema fault => some fault.message
  | _ => none

/-- What a fault of the block schema tells besides its text. -/
def details? : Fault → Option (List (String × Json))
  | schema fault => some fault.details
  | _ => none

/-- The fault as a log record names it: the class, with the text if the fault carries one. -/
def inRecord (fault : Fault) : String :=
  match fault.message? with
  | some text => fault.label ++ ": " ++ text
  | none => fault.label

/-- The fault as the argument of a log message: its text, or its class in angle brackets. -/
def inMessage (fault : Fault) : String :=
  fault.message?.getD ("<" ++ fault.label ++ ">")

/-- The faults that the reading of inline fields recovers from. -/
def isInvalidValue : Fault → Bool
  | malformedMessage | notANumeral | zeroStride | unknownStyle _ | unknownLevel _ | noFields
  | tooManyFields | fieldTooLong | undecodable | schema _ => true
  | _ => false

end Fault

end AlertBridge
