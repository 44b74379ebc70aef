import AlertBridge.Fault
import AlertBridge.Yaml.Node
import AlertBridge.Yaml.Scalar

/-!
# The value of a YAML document

The nodes of a document become values by their tags, or by their form where they have none. A
mapping may merge others, whose entries then stand in front of its own; of two entries with one
key the later counts. A key that is not a text is known by the text that shows it.
-/

namespace AlertBridge.Yaml

/-- Why there is no value: the document is not well-formed, or a value is not of the form that its
tag demands. -/
inductive Failure where
  | document
  | value (fault : Fault)

/-- The kind of a scalar with a tag. -/
def kindOfTag? (tag : String) : Option ScalarKind :=
  [("null", ScalarKind.null), ("bool", .bool), ("int", .int), ("float", .float),
    ("str", .text)].lookup (String.ofList (tag.toList.drop Reading.coreTag.length)) |>.filter
    fun _ => (stripStart? Reading.coreTag.toList tag.toList).isSome

/-- The kind of a scalar: what its tag says, or its form if it is plain. -/
def kindOf? (tag : Option String) (plain : Bool) (text : String) : Option ScalarKind :=
  match tag with
  | none => some (if plain then .ofText text else .text)
  | some "!" => some (.ofText text)
  | some tag => kindOfTag? tag

/-- The value, or the fault for a text that is no numeral. -/
def numeral (value : Option Json) : Except Failure Json :=
  match value with
  | some v => .ok v
  | none => .error (.value .notANumeral)

/-- The value of a scalar. -/
def scalarValue (tag : Option String) (plain : Bool) (text : String) : Except Failure Json :=
  match kindOf? tag plain text with
  | some .null => .ok .null
  | some .bool => match bool? text with
    | some b => .ok (.bool b)
    | none => .error (.value (.missing text))
  | some .int => numeral ((integer? text).map .int)
  | some .float => numeral ((float? text).map .real)
  | some .text => .ok (.str text)
  | _ => .error .document

/-- A collection has no tag, or the one of its kind. -/
def hasTag (name : String) : Option String → Bool
  | none => true
  | some tag => tag = "!" || tag = Reading.coreTag ++ name

/-- The key of a node that is not a merge: a collection can be none. -/
def keyText : Node → Except Failure String
  | .scalar tag plain text =>
    if kindOf? tag plain text = some .default then .ok text
    else (scalarValue tag plain text).map Json.shown
  | _ => .error .document

/-- The key merges another mapping. -/
def isMerge : Node → Bool
  | .scalar tag plain text =>
    kindOf? tag plain text = some .merge || tag = some (Reading.coreTag ++ "merge")
  | _ => false

mutual

/-- The value of a node. -/
def Node.value : Node → Except Failure Json
  | .scalar tag plain text => scalarValue tag plain text
  | .sequence tag items =>
    if hasTag "seq" tag then (itemValues items).map .arr else .error .document
  | .mapping tag entries =>
    if hasTag "map" tag then do
      let (merged, own) ← entryValues entries
      return Json.ofFields (merged ++ own)
    else .error .document

/-- The values of nodes. -/
def itemValues : List Node → Except Failure (List Json)
  | [] => .ok []
  | node :: rest => do return (← node.value) :: (← itemValues rest)

/-- The entries that a mapping merges, and its own. -/
def entryValues : List (Node × Node) →
    Except Failure (List (String × Json) × List (String × Json))
  | [] => .ok ([], [])
  | (key, node) :: rest =>
    if isMerge key then do
      let found ← mergeValues node
      let (merged, own) ← entryValues rest
      return (found ++ merged, own)
    else do
      let name ← keyText key
      let value ← node.value
      let (merged, own) ← entryValues rest
      return (merged, (name, value) :: own)

/-- The entries of what is merged: a mapping, or several, the first of which counts most. -/
def mergeValues : Node → Except Failure (List (String × Json))
  | .mapping _ entries => do
    let (merged, own) ← entryValues entries
    return merged ++ own
  | .sequence _ items => mergeAll items
  | _ => .error .document

/-- The entries of several mappings that are merged, those of the last one in front. -/
def mergeAll : List Node → Except Failure (List (String × Json))
  | [] => .ok []
  | .mapping _ entries :: rest => do
    let (merged, own) ← entryValues entries
    return (← mergeAll rest) ++ (merged ++ own)
  | _ :: _ => .error .document

end

/-- The value of a text, null for one without a document. -/
def readText (cs : List Char) : Except Failure Json :=
  match Node.ofText? cs with
  | none => .error .document
  | some none => .ok .null
  | some (some node) => node.value

end AlertBridge.Yaml
