import AlertBridge.Json.Written
import AlertBridge.Text.Printable

/-!
# Values shown in messages

A value is shown inside a message: a text as it is, any other value in the notation of
`Json.quoted`. In that notation texts stand in single quotes, or in double quotes where they
hold a single quote and no double one, and every unprintable character is escaped by its number.
-/

namespace AlertBridge.Json

/-- The quotation mark for a text: a single quote unless it holds one and no double quote. -/
def markFor (cs : List Char) : Char :=
  if cs.contains '\'' && !cs.contains '"' then '"' else '\''

/-- A character of a text within quotation marks. -/
def quotedChar (mark c : Char) : List Char :=
  if c = mark || c = '\\' then ['\\', c]
  else if c = '\n' then ['\\', 'n']
  else if c = '\r' then ['\\', 'r']
  else if c = '\t' then ['\\', 't']
  else if isPrintable c then [c]
  else if c.toNat < 0x100 then '\\' :: 'x' :: hexPadded 2 c.toNat
  else if c.toNat < 0x10000 then '\\' :: 'u' :: hexPadded 4 c.toNat
  else '\\' :: 'U' :: hexPadded 8 c.toNat

/-- A text in quotation marks. -/
def quotedText (s : String) : String :=
  let cs := s.toList
  let mark := markFor cs
  String.ofList (mark :: cs.flatMap (quotedChar mark) ++ [mark])

mutual

/-- A value in the notation of messages. -/
def quoted : Json → String
  | null => "None"
  | bool b => if b then "True" else "False"
  | int n => toString n
  | real x => x.textWith "inf" "nan"
  | str s => quotedText s
  | arr items => "[" ++ joinWith ", " (quotedItems items) ++ "]"
  | obj fields => "\x7b" ++ joinWith ", " (quotedFields fields) ++ "\x7d"

/-- The items of an array, each in the notation of messages. -/
def quotedItems : List Json → List String
  | [] => []
  | v :: rest => quoted v :: quotedItems rest

/-- The fields of an object, each as a quoted name and its value. -/
def quotedFields : List (String × Json) → List String
  | [] => []
  | (k, v) :: rest => (quotedText k ++ ": " ++ quoted v) :: quotedFields rest

end

/-- A value inside a message: a text as it is, any other value in the notation of messages. -/
def shown : Json → String
  | str s => s
  | v => quoted v

end AlertBridge.Json
