import AlertBridge.Yaml.Layout

/-!
# The nodes of a YAML document

A document is a tree of scalars, sequences and mappings, each with a tag if it has been given one.
`Node.ofText?` reads a text that is one document at most. Nodes may be named, and a later alias
stands for the node of its name.
-/

namespace AlertBridge.Yaml

/-- A node. -/
inductive Node where
  | scalar (tag : Option String) (plain : Bool) (text : String)
  | sequence (tag : Option String) (items : List Node)
  | mapping (tag : Option String) (entries : List (Node × Node))
  deriving Inhabited

/-- The node where nothing is written. -/
def Node.empty : Node := .scalar none true ""

/-- What is known while a document is read: the tokens that are left, the named nodes, and the
beginnings of tags by handle. -/
structure Reading where
  tokens : List Token
  anchors : List (String × Node)
  handles : List (String × String)

namespace Reading

/-- The reading with other tokens left. -/
def on (r : Reading) (tokens : List Token) : Reading := { r with tokens }

/-- The beginning of the tags that every document knows. -/
def coreTag : String := "tag:yaml.org,2002:"

/-- The handles that every document knows. -/
def coreHandles : List (String × String) := [("!", "!"), ("!!", coreTag)]

/-- The tag that is meant by what is written. -/
def tagOf? (r : Reading) (tag : TagText) : Option String :=
  match tag.handle with
  | none => some tag.suffix
  | some handle => (r.handles.lookup handle).map (· ++ tag.suffix)

/-- The properties of a node: its name and its tag, in either order. -/
structure Properties where
  anchor : Option String
  tag : Option String

/-- Properties of a node, if there are any. -/
def properties? (r : Reading) : Option (Properties × Reading) :=
  match r.tokens with
  | .anchor name :: .tag tag :: rest => do return (⟨some name, ← r.tagOf? tag⟩, r.on rest)
  | .anchor name :: rest => some (⟨some name, none⟩, r.on rest)
  | .tag tag :: .anchor name :: rest => do return (⟨some name, ← r.tagOf? tag⟩, r.on rest)
  | .tag tag :: rest => do return (⟨none, ← r.tagOf? tag⟩, r.on rest)
  | _ => some (⟨none, none⟩, r)

/-- The reading with a node of a name, which must be new. -/
def named? (r : Reading) (anchor : Option String) (node : Node) : Option (Node × Reading) :=
  match anchor with
  | none => some (node, r)
  | some name =>
    if (r.anchors.lookup name).isSome then none
    else some (node, { r with anchors := (name, node) :: r.anchors })

/-- Where a node stands, which tells what can start one. -/
inductive Place where
  | flow
  | block
  /-- A value or a key of a block mapping, where a sequence need not be indented. -/
  | entry
  deriving DecidableEq

/-- A token at which an entry of a block mapping ends without a node. -/
def endsEntry : List Token → Bool
  | .key :: _ => true
  | .value :: _ => true
  | .blockEnd :: _ => true
  | _ => false

/-- A token at which an item of a block sequence ends without a node. -/
def endsItem : List Token → Bool
  | .blockEntry :: _ => true
  | .blockEnd :: _ => true
  | _ => false

/-- A token at which an item of a sequence that is not indented ends without a node. -/
def endsLooseItem (ts : List Token) : Bool := endsItem ts || endsEntry ts

/-- A token at which a key or a value in a flow sequence ends without a node. -/
def endsFlowItem : List Token → Bool
  | .flowEntry :: _ => true
  | .flowSequenceEnd :: _ => true
  | _ => false

/-- A token at which a value in a flow mapping ends without a node. -/
def endsFlowEntry : List Token → Bool
  | .flowEntry :: _ => true
  | .flowMappingEnd :: _ => true
  | _ => false

/-- A value stands in front. -/
def startsValue : List Token → Bool
  | .value :: _ => true
  | _ => false

mutual

/-- A node, where `fuel` bounds the depth of the reading. -/
def node? (fuel : Nat) (place : Place) (r : Reading) : Option (Node × Reading) :=
  match fuel with
  | 0 => none
  | fuel + 1 =>
    match r.tokens with
    | .alias name :: rest => (r.anchors.lookup name).map fun node => (node, r.on rest)
    | _ => do
      let (props, r) ← r.properties?
      let (node, r) ← content? fuel place props r
      r.named? props.anchor node

/-- A node behind its properties. -/
def content? (fuel : Nat) (place : Place) (props : Properties) (r : Reading) :
    Option (Node × Reading) :=
  match fuel with
  | 0 => none
  | fuel + 1 =>
    let sequence := fun (found : Option (List Node × Reading)) =>
      found.map fun (items, r) => (Node.sequence props.tag items, r)
    let mapping := fun (found : Option (List (Node × Node) × Reading)) =>
      found.map fun (entries, r) => (Node.mapping props.tag entries, r)
    match r.tokens with
    | .scalar plain text :: rest => some (.scalar props.tag plain text, r.on rest)
    | .flowSequenceStart :: rest => sequence (flowItems? fuel true (r.on rest))
    | .flowMappingStart :: rest => mapping (flowEntries? fuel true (r.on rest))
    | .blockEntry :: rest =>
      if place = .entry then sequence (looseItems? fuel (r.on (.blockEntry :: rest)))
      else emptyContent? props r
    | .blockSequenceStart :: rest =>
      if place = .flow then emptyContent? props r else sequence (blockItems? fuel (r.on rest))
    | .blockMappingStart :: rest =>
      if place = .flow then emptyContent? props r else mapping (blockEntries? fuel (r.on rest))
    | _ => emptyContent? props r

/-- The items of a block sequence. -/
def blockItems? (fuel : Nat) (r : Reading) : Option (List Node × Reading) :=
  match fuel with
  | 0 => none
  | fuel + 1 =>
    match r.tokens with
    | .blockEntry :: rest => do
      let (item, r) ← nodeUnless? fuel endsItem .block (r.on rest)
      let (items, r) ← blockItems? fuel r
      return (item :: items, r)
    | .blockEnd :: rest => some ([], r.on rest)
    | _ => none

/-- The items of a sequence that is not indented. -/
def looseItems? (fuel : Nat) (r : Reading) : Option (List Node × Reading) :=
  match fuel with
  | 0 => none
  | fuel + 1 =>
    match r.tokens with
    | .blockEntry :: rest => do
      let (item, r) ← nodeUnless? fuel endsLooseItem .block (r.on rest)
      let (items, r) ← looseItems? fuel r
      return (item :: items, r)
    | _ => some ([], r)

/-- The entries of a block mapping. -/
def blockEntries? (fuel : Nat) (r : Reading) : Option (List (Node × Node) × Reading) :=
  match fuel with
  | 0 => none
  | fuel + 1 =>
    match r.tokens with
    | .blockEnd :: rest => some ([], r.on rest)
    | .key :: rest => do
      let (key, r) ← nodeUnless? fuel endsEntry .entry (r.on rest)
      let (value, r) ← valueOf? fuel endsEntry .entry r
      let (entries, r) ← blockEntries? fuel r
      return ((key, value) :: entries, r)
    | _ => none

/-- The node at the position, an empty one where `ends` says that there is none. -/
def nodeUnless? (fuel : Nat) (ends : List Token → Bool) (place : Place) (r : Reading) :
    Option (Node × Reading) :=
  match fuel with
  | 0 => none
  | fuel + 1 => if ends r.tokens then some (.empty, r) else node? fuel place r

/-- The value behind a key, an empty one if there is none. -/
def valueOf? (fuel : Nat) (ends : List Token → Bool) (place : Place) (r : Reading) :
    Option (Node × Reading) :=
  match fuel with
  | 0 => none
  | fuel + 1 =>
    match r.tokens with
    | .value :: rest => nodeUnless? fuel ends place (r.on rest)
    | _ => some (.empty, r)

/-- The items of a flow sequence. A key among them makes a mapping of one entry. -/
def flowItems? (fuel : Nat) (first : Bool) (r : Reading) : Option (List Node × Reading) :=
  match fuel with
  | 0 => none
  | fuel + 1 =>
    match r.tokens with
    | .flowSequenceEnd :: rest => some ([], r.on rest)
    | tokens => do
      let tokens ← if first then some tokens else match tokens with
        | .flowEntry :: rest => some rest
        | _ => none
      match tokens with
      | .flowSequenceEnd :: rest => return ([], r.on rest)
      | .key :: rest =>
        let (key, r) ← nodeUnless? fuel (fun ts => startsValue ts || endsFlowItem ts) .flow
          (r.on rest)
        let (value, r) ← valueOf? fuel endsFlowItem .flow r
        let (items, r) ← flowItems? fuel false r
        return (.mapping none [(key, value)] :: items, r)
      | tokens =>
        let (item, r) ← node? fuel .flow (r.on tokens)
        let (items, r) ← flowItems? fuel false r
        return (item :: items, r)

/-- The entries of a flow mapping. A node that is no key has no value. -/
def flowEntries? (fuel : Nat) (first : Bool) (r : Reading) :
    Option (List (Node × Node) × Reading) :=
  match fuel with
  | 0 => none
  | fuel + 1 =>
    match r.tokens with
    | .flowMappingEnd :: rest => some ([], r.on rest)
    | tokens => do
      let tokens ← if first then some tokens else match tokens with
        | .flowEntry :: rest => some rest
        | _ => none
      match tokens with
      | .flowMappingEnd :: rest => return ([], r.on rest)
      | .key :: rest =>
        let (key, r) ← nodeUnless? fuel (fun ts => startsValue ts || endsFlowEntry ts) .flow
          (r.on rest)
        let (value, r) ← valueOf? fuel endsFlowEntry .flow r
        let (entries, r) ← flowEntries? fuel false r
        return ((key, value) :: entries, r)
      | tokens =>
        let (key, r) ← node? fuel .flow (r.on tokens)
        let (entries, r) ← flowEntries? fuel false r
        return ((key, .empty) :: entries, r)

/-- The empty content of a node that has properties. -/
def emptyContent? (props : Properties) (r : Reading) : Option (Node × Reading) :=
  if props.anchor.isSome || props.tag.isSome then some (.scalar props.tag (props.tag.isNone) "", r)
  else none

end

/-! ### Documents -/

/-- The handles that the directives in front of a document define, and the tokens behind them. -/
def directives? (version : Bool) (handles : List (String × String)) :
    List Token → Option (List (String × String) × List Token)
  | .directive (.version major) :: rest =>
    if version || major ≠ 1 then none else directives? true handles rest
  | .directive (.tag handle beginning) :: rest =>
    if (handles.lookup handle).isSome then none
    else directives? version ((handle, beginning) :: handles) rest
  | .directive .other :: rest => directives? version handles rest
  | rest => some (handles, rest)

/-- A document holds nothing but its node. -/
def endsDocument : List Token → Bool
  | [] => true
  | .directive _ :: _ => true
  | .documentStart :: _ => true
  | .documentEnd :: _ => true
  | _ => false

/-- The tokens behind marks of an end. -/
def skipEnds : List Token → List Token
  | .documentEnd :: rest => skipEnds rest
  | rest => rest

/-- The document of some tokens, which may be missing; there must not be a second one. -/
def document? (tokens : List Token) : Option (Option Node) := do
  let fuel := 4 * tokens.length + 8
  match tokens with
  | [] => return none
  | .directive _ :: _ => explicit fuel tokens
  | .documentStart :: _ => explicit fuel tokens
  | tokens => finish (← node? fuel .block ⟨tokens, [], coreHandles⟩)
where
  /-- A document behind its directives and its mark. -/
  explicit (fuel : Nat) (tokens : List Token) : Option (Option Node) := do
    let (handles, rest) ← directives? false [] tokens
    match rest with
    | .documentStart :: rest =>
      finish (← nodeUnless? fuel endsDocument .block ⟨rest, [], handles ++ coreHandles⟩)
    | _ => none
  /-- Nothing follows a document but marks of its end. -/
  finish : Node × Reading → Option (Option Node)
    | (node, r) => if (skipEnds r.tokens).isEmpty then some (some node) else none

end Reading

/-- The document of a text, which may be missing. -/
def Node.ofText? (cs : List Char) : Option (Option Node) :=
  (tokens? cs).bind Reading.document?

end AlertBridge.Yaml
