import AlertBridge.Fault

/-!
# Text styles

Styles accumulate on the way down a tree of tokens, so a set of styles is kept for each run of
text: one truth value for each style of the vocabulary. `StyleSet.words` lists a set in the order
in which styles are written.
-/

namespace AlertBridge

/-- A style of the vocabulary. -/
inductive TextStyle where
  | bold | italic | strike | code
  deriving DecidableEq, Inhabited

/-- The styles in the order in which they are written. -/
def TextStyle.all : List TextStyle := [.bold, .italic, .strike, .code]

/-- The word for a style. -/
def TextStyle.word : TextStyle → String
  | .bold => "bold"
  | .italic => "italic"
  | .strike => "strike"
  | .code => "code"

/-- The style that a word names. -/
def TextStyle.ofWord? (word : String) : Option TextStyle :=
  TextStyle.all.find? fun s => s.word = word

/-- A set of styles. -/
structure StyleSet where
  bold : Bool := false
  italic : Bool := false
  strike : Bool := false
  code : Bool := false
  deriving DecidableEq, Inhabited

namespace StyleSet

/-- No style. -/
def empty : StyleSet := {}

/-- The style is in the set. -/
def has (s : StyleSet) : TextStyle → Bool
  | .bold => s.bold
  | .italic => s.italic
  | .strike => s.strike
  | .code => s.code

/-- The set with one more style. -/
def insert (s : StyleSet) : TextStyle → StyleSet
  | .bold => { s with bold := true }
  | .italic => { s with italic := true }
  | .strike => { s with strike := true }
  | .code => { s with code := true }

@[simp] theorem has_insert (s : StyleSet) (x y : TextStyle) :
    (s.insert x).has y = (decide (x = y) || s.has y) := by
  cases x <;> cases y <;> simp [insert, has]

/-- The set with the style of a kind added, if the kind has one. -/
def add (s : StyleSet) (style : Option TextStyle) : StyleSet :=
  match style with
  | some x => s.insert x
  | none => s

/-- The words of the styles in a set, in the order in which they are written. -/
def words (s : StyleSet) : List String := (TextStyle.all.filter s.has).map TextStyle.word

/-- The set of the styles that words name. -/
def ofWords? (words : List String) : Except Fault StyleSet :=
  words.foldlM (fun s w => match TextStyle.ofWord? w with
    | some x => .ok (s.insert x)
    | none => .error (.unknownStyle w)) empty

/-- A set as the `style` of a run; an empty one has none. -/
def toFields (s : StyleSet) : List (String × Json) :=
  match s.words with
  | [] => []
  | words => [("style", .obj (words.map fun w => (w, .bool true)))]

end StyleSet

end AlertBridge
