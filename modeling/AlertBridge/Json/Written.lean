import AlertBridge.Json.Basic
import AlertBridge.Text.Substring

/-!
# Documents as text

`Json.written` writes a value as one line of JSON. What may differ between uses is in a
`Json.Format`: the separators, and whether characters beyond ASCII are escaped. Doubles that no
number of the grammar denotes are written as the words `NaN`, `Infinity` and `-Infinity`.
-/

namespace AlertBridge.Json

/-- How a document is laid out on its line. -/
structure Format where
  /-- Between two items or fields. -/
  separator : String
  /-- Between a name and its value. -/
  colon : String
  /-- Characters beyond ASCII are written as escapes. -/
  ascii : Bool

/-- Spaces after separators and ASCII only: the form of request bodies and of data in messages. -/
def spacedAscii : Format := ⟨", ", ": ", true⟩

/-- Spaces after separators, all characters as they are: the form of log lines. -/
def spaced : Format := ⟨", ", ": ", false⟩

/-- No spaces and ASCII only. -/
def compactAscii : Format := ⟨",", ":", true⟩

/-- The lower-case hexadecimal digits of a number, padded with zeros to a width. -/
def hexPadded (width n : Nat) : List Char :=
  let digits := Nat.toDigits 16 n
  List.replicate (width - digits.length) '0' ++ digits

/-- The escape of a code unit of 16 bits. -/
def unitEscape (n : Nat) : List Char := '\\' :: 'u' :: hexPadded 4 n

/-- A character beyond the first plane is escaped as its two surrogates. -/
def codePointEscape (n : Nat) : List Char :=
  if n < 0x10000 then unitEscape n
  else unitEscape (0xD800 + (n - 0x10000) / 0x400) ++ unitEscape (0xDC00 + (n - 0x10000) % 0x400)

/-- A character inside quotes. -/
def escapeChar (ascii : Bool) (c : Char) : List Char :=
  if c = '"' then ['\\', '"']
  else if c = '\\' then ['\\', '\\']
  else if c = '\n' then ['\\', 'n']
  else if c = '\r' then ['\\', 'r']
  else if c = '\t' then ['\\', 't']
  else if c.toNat = 8 then ['\\', 'b']
  else if c.toNat = 12 then ['\\', 'f']
  else if c.toNat < 32 || (ascii && c.toNat > 126) then codePointEscape c.toNat
  else [c]

/-- A text in quotes. -/
def quote (ascii : Bool) (s : String) : String :=
  "\"" ++ String.ofList (s.toList.flatMap (escapeChar ascii)) ++ "\""

mutual

/-- A value as one line of JSON. -/
def written (f : Format) : Json → String
  | null => "null"
  | bool b => if b then "true" else "false"
  | int n => toString n
  | real x => x.textWith "Infinity" "NaN"
  | str s => quote f.ascii s
  | arr items => "[" ++ joinWith f.separator (writtenItems f items) ++ "]"
  | obj fields => "\x7b" ++ joinWith f.separator (writtenFields f fields) ++ "\x7d"

/-- The items of an array, each as JSON. -/
def writtenItems (f : Format) : List Json → List String
  | [] => []
  | v :: rest => written f v :: writtenItems f rest

/-- The fields of an object, each as a quoted name and its value. -/
def writtenFields (f : Format) : List (String × Json) → List String
  | [] => []
  | (k, v) :: rest => (quote f.ascii k ++ f.colon ++ written f v) :: writtenFields f rest

end

mutual

/-- The value with the fields of every object sorted by name. -/
def sorted : Json → Json
  | arr items => arr (sortedItems items)
  | obj fields => obj ((sortedFields fields).mergeSort fun a b => a.1 ≤ b.1)
  | v => v

/-- The items, each sorted. -/
def sortedItems : List Json → List Json
  | [] => []
  | v :: rest => sorted v :: sortedItems rest

/-- The fields, each with its value sorted. -/
def sortedFields : List (String × Json) → List (String × Json)
  | [] => []
  | (k, v) :: rest => (k, sorted v) :: sortedFields rest

end

mutual

/-- Every number of the value is finite. -/
def isFinite : Json → Bool
  | real x => x.isFinite
  | arr items => areFiniteItems items
  | obj fields => areFiniteFields fields
  | _ => true

/-- Every number of the items is finite. -/
def areFiniteItems : List Json → Bool
  | [] => true
  | v :: rest => isFinite v && areFiniteItems rest

/-- Every number of the fields' values is finite. -/
def areFiniteFields : List (String × Json) → Bool
  | [] => true
  | (_, v) :: rest => isFinite v && areFiniteFields rest

end

end AlertBridge.Json
