import AlertBridge.Fault
import AlertBridge.Text.Integer

/-!
# Asking values for their parts

A value may be of any kind, so each question about its parts can fail, with the fault that names
what the value lacks.
-/

namespace AlertBridge.Json

/-- The value under a name, null if the object does not have it. -/
def get (v : Json) (name : String) : Except Fault Json :=
  match v with
  | obj fields => .ok ((fieldOf? fields name).getD null)
  | _ => .error .notAnObject

/-- The value under a name that the object has to have. -/
def require (v : Json) (name : String) : Except Fault Json :=
  match v with
  | obj fields => match fieldOf? fields name with
    | some value => .ok value
    | none => .error (.missing name)
  | _ => .error .notIterable

/-- The items of a value: those of an array, the names of an object's fields, the characters of
a text. -/
def items : Json → Except Fault (List Json)
  | arr vs => .ok vs
  | obj fields => .ok (fields.map fun f => str f.1)
  | str s => .ok (s.toList.map fun c => str (String.singleton c))
  | _ => .error .notIterable

/-- The number of items of a value. -/
def size : Json → Except Fault Nat
  | arr vs => .ok vs.length
  | obj fields => .ok fields.length
  | str s => .ok s.length
  | _ => .error .notSized

/-- The first `n` characters of a text or items of an array. -/
def firstPart (n : Nat) : Json → Except Fault Json
  | str s => .ok (str (takeText n s))
  | arr vs => .ok (arr (vs.take n))
  | _ => .error .notSliceable

/-- The text that a value is, where a pattern is to be found in it. -/
def searchable : Json → Except Fault String
  | str s => .ok s
  | _ => .error .notSearchable

/-- The text that a value is, where it is to be taken apart. -/
def text : Json → Except Fault String
  | str s => .ok s
  | _ => .error .notText

/-- The texts that values are, where they are to be joined. -/
def joinable (vs : List Json) : Except Fault (List String) :=
  vs.mapM fun v => match v with
    | str s => .ok s
    | _ => .error .notJoinable

/-- The integer that a value denotes: the number without its fraction, or a written integer. -/
def toInt : Json → Except Fault Int
  | int n => .ok n
  | bool b => .ok b.toInt
  | real x => match x.truncate? with
    | some n => .ok n
    | none => .error .notANumeral
  | str s => match readInteger? s with
    | some n => .ok n
    | none => .error .notANumeral
  | _ => .error .notNumeric

/-- The sum of two numbers, or two texts or arrays one after the other. -/
def plus : Json → Json → Except Fault Json
  | str s, str t => .ok (str (s ++ t))
  | arr xs, arr ys => .ok (arr (xs ++ ys))
  | v, w => match number? v, number? w with
    | some (.inl m), some (.inl n) => .ok (int (m + n))
    | some x, some y => .ok (real ((toReal x).add (toReal y)))
    | _, _ => .error .notAddable
where
  /-- The number that a value is: true is one and false is zero. -/
  number? : Json → Option (Int ⊕ Binary64)
    | int n => some (.inl n)
    | bool b => some (.inl b.toInt)
    | real x => some (.inr x)
    | _ => none
  /-- The number as a double. -/
  toReal : Int ⊕ Binary64 → Binary64
    | .inl n => .ofInt n
    | .inr x => x

end AlertBridge.Json
