import AlertBridge.Binary64

/-!
# Dynamic values

Alerts, annotations and configuration files come from elsewhere and may hold anything, so they are
kept as `Json`: integers without bound, doubles, texts, arrays, and objects whose fields stay in
the order in which they were first written.

`Json.truthy` is the sense in which a value counts as present, and `Json.sameKey` the sense in
which two values name the same group.
-/

namespace AlertBridge

/-- A value of a document. The names of an object's fields are different from each other. -/
inductive Json where
  | null
  | bool (value : Bool)
  | int (value : Int)
  | real (value : Binary64)
  | str (value : String)
  | arr (items : List Json)
  | obj (fields : List (String × Json))
  deriving Inhabited

namespace Json

/-- The word for a value's kind in messages. -/
def kindName : Json → String
  | null => "NoneType"
  | bool _ => "bool"
  | int _ => "int"
  | real _ => "float"
  | str _ => "str"
  | arr _ => "list"
  | obj _ => "dict"

/-- A value counts as present unless it is null, false, zero or empty. -/
def truthy : Json → Bool
  | null => false
  | bool b => b
  | int n => n ≠ 0
  | real x => !x.isZero
  | str s => s ≠ ""
  | arr items => !items.isEmpty
  | obj fields => !fields.isEmpty

/-- The value itself if it counts as present, else the other one. -/
def orElse (v other : Json) : Json := if v.truthy then v else other

/-- Two values name the same key: texts that are equal, or numbers of equal value, where true
counts as one and false as zero. Arrays and objects name none. -/
def sameKey : Json → Json → Bool
  | null, null => true
  | str s, str t => s = t
  | real x, real y => x = y || x.compare? y = some .eq
  | real x, int n => x.compareInt? n = some .eq
  | int n, real x => x.compareInt? n = some .eq
  | real x, bool b => x.compareInt? b.toInt = some .eq
  | bool b, real x => x.compareInt? b.toInt = some .eq
  | int m, int n => m = n
  | int n, bool b => n = b.toInt
  | bool b, int n => n = b.toInt
  | bool a, bool b => a = b
  | _, _ => false

/-- The value can name a key. -/
def isKey : Json → Bool
  | arr _ => false
  | obj _ => false
  | _ => true

/-- The value under a name among fields. -/
def fieldOf? (fields : List (String × Json)) (name : String) : Option Json :=
  fields.lookup name

/-- Fields with the value under `name` set: in place if the name is there, else at the end. -/
def setField {α : Type} (fields : List (String × α)) (name : String) (value : α) :
    List (String × α) :=
  match fields with
  | [] => [(name, value)]
  | (k, v) :: rest =>
    if k = name then (k, value) :: rest else (k, v) :: setField rest name value

/-- An object with the given fields, of which a later one replaces an earlier one of its name. -/
def ofFields (fields : List (String × Json)) : Json :=
  obj (fields.foldl (fun acc (k, v) => setField acc k v) [])

mutual

/-- The number of values in a value, itself included. -/
def weight : Json → Nat
  | arr items => weightItems items + 1
  | obj fields => weightFields fields + 1
  | _ => 1

/-- The number of values in items. -/
def weightItems : List Json → Nat
  | [] => 0
  | v :: rest => weight v + weightItems rest

/-- The number of values in fields. -/
def weightFields : List (String × Json) → Nat
  | [] => 0
  | (_, v) :: rest => weight v + weightFields rest

end

theorem weight_pos (v : Json) : 0 < v.weight := by
  cases v <;> simp [weight]

theorem weightItems_append (vs ws : List Json) :
    weightItems (vs ++ ws) = weightItems vs + weightItems ws := by
  induction vs with
  | nil => simp [weightItems]
  | cons v vs ih => simp [weightItems, ih, Nat.add_assoc]

/-- A value under a name weighs no more than the fields. -/
theorem weight_fieldOf? {fields : List (String × Json)} {name : String} {v : Json}
    (h : fieldOf? fields name = some v) : v.weight ≤ weightFields fields := by
  induction fields with
  | nil => simp [fieldOf?] at h
  | cons f rest ih =>
    obtain ⟨k, w⟩ := f
    simp only [fieldOf?, List.lookup_cons] at h
    split at h
    · simp at h; subst h; simp [weightFields]
    · have := ih h; simp [weightFields]; omega

/-- A text, or null. -/
def ofOption : Option String → Json
  | some s => str s
  | none => null

/-- An array of texts. -/
def ofTexts (texts : List String) : Json := arr (texts.map str)

end Json

end AlertBridge
