import AlertBridge.Proofs.Token.Conversion

/-!
# Trees of nodes

`IsNode` tells which values are the nodes of a proper Markdown tree: a node with a literal text, a
node with nothing in it, or a node that holds others. Besides its attributes a node may have fields
of any name, which nothing looks at.

`Reads` is the meaning of the walk that collects the text of nodes: what it collects of a list is
the texts of the nodes, one after the other, and what it collects of a node with children is the
text of the children.

## Main definitions

* `IsNode`: the nodes of a proper tree
* `Reads`: nodes and the text that they hold

## Main results

* `flatten_eq_ok_iff`, `Reads.append`, `reads_of_children`: the text of nodes
-/

namespace AlertBridge.Token

open Json (fieldOf?)

/-! ## Nodes -/

/-- The types of nodes with a literal text. -/
def literalTypes : List String := ["text", "codespan", "inline_html"]

/-- The types of nodes with nothing in them. -/
def emptyTypes : List String := ["softbreak", "linebreak", "blank_line", "thematic_break"]

/-- The types of nodes that hold others. -/
def holderTypes : List String :=
  ["strong", "emphasis", "strikethrough", "link", "image", "heading", "paragraph", "block_text",
    "block_quote", "list", "list_item"]

/-- The attributes of a node: texts or nothing for the address and the title, and an integer for
the level, where there are any. -/
structure IsAttributes (attributes : List (String × Json)) : Prop where
  url : ∀ v, fieldOf? attributes "url" = some v → v = .null ∨ ∃ s, v = .str s
  title : ∀ v, fieldOf? attributes "title" = some v → v = .null ∨ ∃ s, v = .str s
  level : ∀ v, fieldOf? attributes "level" = some v → ∃ n, v = .int n

/-- The fields have proper attributes, or none. -/
def HasAttributes (fields : List (String × Json)) : Prop :=
  ∀ v, fieldOf? fields "attrs" = some v →
    v = .null ∨ ∃ attributes, v = .obj attributes ∧ IsAttributes attributes

/-- The fields have no children. -/
def HasNoChildren (fields : List (String × Json)) : Prop :=
  ∀ v, fieldOf? fields "children" = some v → v = .null ∨ v = .arr []

/-- The nodes of a proper Markdown tree. -/
inductive IsNode : Json → Prop where
  | literal {fields : List (String × Json)} {type raw : String}
      (htype : fieldOf? fields "type" = some (.str type)) (hmem : type ∈ literalTypes)
      (hraw : fieldOf? fields "raw" = some (.str raw)) (hchildren : HasNoChildren fields)
      (hattributes : HasAttributes fields) : IsNode (.obj fields)
  | empty {fields : List (String × Json)} {type : String}
      (htype : fieldOf? fields "type" = some (.str type)) (hmem : type ∈ emptyTypes)
      (hraw : fieldOf? fields "raw" = none) (hchildren : HasNoChildren fields)
      (hattributes : HasAttributes fields) : IsNode (.obj fields)
  | holder {fields : List (String × Json)} {type : String} {children : List Json}
      (htype : fieldOf? fields "type" = some (.str type)) (hmem : type ∈ holderTypes)
      (hraw : fieldOf? fields "raw" = none)
      (hchildren : fieldOf? fields "children" = some (.arr children))
      (hattributes : HasAttributes fields) (hbelow : ∀ child ∈ children, IsNode child) :
      IsNode (.obj fields)

variable {fields : List (String × Json)} {type : String} {children : List Json}

theorem get_obj (fields : List (String × Json)) (name : String) :
    Json.get (.obj fields) name = .ok ((fieldOf? fields name).getD .null) := rfl

theorem get_of_fieldOf? {name : String} {v : Json} (h : fieldOf? fields name = some v) :
    Json.get (.obj fields) name = .ok v := by
  rw [get_obj, h, Option.getD_some]

theorem weight_le_weightItems {v : Json} {vs : List Json} (h : v ∈ vs) :
    v.weight ≤ Json.weightItems vs := by
  induction vs with
  | nil => cases h
  | cons w vs ih =>
    rw [Json.weightItems]
    rcases List.mem_cons.1 h with rfl | h
    · exact Nat.le_add_right _ _
    · exact Nat.le_add_left_of_le (ih h)

/-- A child of a node weighs less than the node. -/
theorem weight_lt_of_childrenOf {node child : Json} {children : List Json}
    (h : childrenOf node = .ok children) (hchild : child ∈ children) :
    child.weight < node.weight :=
  Nat.lt_of_le_of_lt (weight_le_weightItems hchild) (weight_childrenOf h)

theorem hasAttributes_of_none (h : fieldOf? fields "attrs" = none) : HasAttributes fields := by
  intro v hv
  rw [h] at hv
  cases hv

theorem hasNoChildren_of_none (h : fieldOf? fields "children" = none) : HasNoChildren fields := by
  intro v hv
  rw [h] at hv
  cases hv

theorem HasNoChildren.childrenOf (h : HasNoChildren fields) :
    childrenOf (.obj fields) = .ok [] := by
  rw [Token.childrenOf, get_obj]
  cases hv : fieldOf? fields "children" with
  | none => rfl
  | some v => rcases h v hv with rfl | rfl <;> rfl

/-- No children do not count as present. -/
theorem HasNoChildren.get (h : HasNoChildren fields) :
    ∃ v, Json.get (.obj fields) "children" = .ok v ∧ v.truthy = false := by
  rw [get_obj]
  cases hv : fieldOf? fields "children" with
  | none => exact ⟨.null, rfl, rfl⟩
  | some v => exact ⟨v, rfl, by rcases h v hv with rfl | rfl <;> rfl⟩

theorem childrenOf_of_fieldOf? (h : fieldOf? fields "children" = some (.arr children)) :
    childrenOf (.obj fields) = .ok children := by
  rw [childrenOf, get_of_fieldOf? h]
  rfl

/-- The attributes are there, if only as an empty object. -/
theorem HasAttributes.attributesOf (h : HasAttributes fields) :
    ∃ attributes, attributesOf (.obj fields) = .ok (.obj attributes) ∧ IsAttributes attributes := by
  have hnone : IsAttributes [] := ⟨nofun, nofun, nofun⟩
  rw [Token.attributesOf, get_obj]
  cases hv : fieldOf? fields "attrs" with
  | none => exact ⟨[], rfl, hnone⟩
  | some v =>
    rcases h v hv with rfl | ⟨attributes, rfl, hattributes⟩
    · exact ⟨[], rfl, hnone⟩
    · cases attributes with
      | nil => exact ⟨[], rfl, hnone⟩
      | cons f fs => exact ⟨f :: fs, rfl, hattributes⟩

/-! ## The text of nodes -/

/-- The nodes hold a text: it is made of the literal texts that are met on the way. -/
def Reads (nodes : List Json) (text : String) : Prop :=
  ∃ parts : List String, flattenParts nodes = .ok (parts.map Json.str) ∧ concat parts = text

variable {node child : Json} {nodes nodes' : List Json} {text text' : String}

theorem joinable_map_str (parts : List String) : Json.joinable (parts.map .str) = .ok parts := by
  rw [Json.joinable]
  induction parts with
  | nil => rfl
  | cons part parts ih =>
    rw [List.map_cons, List.mapM_cons]
    exact bind_eq_ok_iff.2 ⟨part, rfl, bind_eq_ok_iff.2 ⟨parts, ih, rfl⟩⟩

theorem eq_map_str_of_joinable {vs : List Json} {parts : List String}
    (h : Json.joinable vs = .ok parts) : vs = parts.map .str := by
  rw [Json.joinable] at h
  induction vs generalizing parts with
  | nil =>
    obtain rfl := Except.ok.inj h
    rfl
  | cons v vs ih =>
    rw [List.mapM_cons] at h
    obtain ⟨first, hfirst, h⟩ := bind_eq_ok_iff.1 h
    obtain ⟨more, hmore, h⟩ := bind_eq_ok_iff.1 h
    obtain rfl := Except.ok.inj h
    obtain rfl : v = .str first := by cases v <;> cases hfirst; rfl
    rw [ih hmore, List.map_cons]

theorem flatten_eq_ok_iff : flatten node = .ok text ↔ Reads [node] text := by
  rw [flatten, bind_eq_ok_iff]
  constructor
  · rintro ⟨parts, hparts, h⟩
    obtain ⟨texts, htexts, h⟩ := bind_eq_ok_iff.1 h
    exact ⟨texts, eq_map_str_of_joinable htexts ▸ hparts, Except.ok.inj h⟩
  · rintro ⟨texts, hparts, rfl⟩
    exact ⟨_, hparts, bind_eq_ok_iff.2 ⟨texts, joinable_map_str texts, rfl⟩⟩

theorem reads_nil : Reads [] "" := ⟨[], by rw [flattenParts]; rfl, rfl⟩

/-- The value that is read of a node without children. -/
def leafPart (kind node : Json) : Except Fault Json :=
  if isType kind "softbreak" then .ok (.str "\n") else valueOf node "raw"

theorem flattenParts_cons_of_error {fault : Fault} (h : childrenOf node = .error fault)
    (rest : List Json) : flattenParts (node :: rest) = .error fault := by
  rw [flattenParts]
  split
  · next hfault => rw [← h, hfault]
  · next hnil => simp [h] at hnil
  · next hcons => simp [h] at hcons

/-- What is read of a node without children stands before what is read of the others. -/
theorem flattenParts_cons_of_nil (h : childrenOf node = .ok []) (rest : List Json) :
    flattenParts (node :: rest) = (do
      let kind ← node.get "type"
      let part ← leafPart kind node
      let parts ← flattenParts rest
      return part :: parts) := by
  rw [flattenParts]
  split
  · next hfault => simp [h] at hfault
  · refine congrArg (node.get "type" >>= ·) (funext fun kind => ?_)
    rw [leafPart]
    split <;> rfl
  · next hcons => simp [h] at hcons

/-- The children of a node are read in its place. -/
theorem flattenParts_cons_of_children (h : childrenOf node = .ok (child :: children))
    (rest : List Json) :
    flattenParts (node :: rest) = flattenParts (child :: children ++ rest) := by
  rw [flattenParts]
  split
  · next hfault => simp [h] at hfault
  · next hnil => simp [h] at hnil
  · next hcons =>
    obtain ⟨rfl, rfl⟩ := List.cons.inj (Except.ok.inj (h.symm.trans hcons))
    rfl

/-- The walk reads what is to be read one after the other, by what it does with the first node. -/
theorem flattenParts_append {parts parts' : List Json} (h : flattenParts nodes = .ok parts)
    (h' : flattenParts nodes' = .ok parts') :
    flattenParts (nodes ++ nodes') = .ok (parts ++ parts') := by
  induction nodes using flattenParts.induct generalizing parts with
  | case1 =>
    rw [flattenParts] at h
    obtain rfl := Except.ok.inj h
    exact h'
  | case2 node rest fault hfault =>
    rw [flattenParts_cons_of_error hfault] at h
    cases h
  | case3 node rest hnil ih =>
    rw [flattenParts_cons_of_nil hnil] at h
    obtain ⟨kind, hkind, h⟩ := bind_eq_ok_iff.1 h
    obtain ⟨part, hpart, h⟩ := bind_eq_ok_iff.1 h
    obtain ⟨more, hmore, h⟩ := bind_eq_ok_iff.1 h
    obtain rfl := Except.ok.inj h
    rw [List.cons_append, flattenParts_cons_of_nil hnil]
    refine bind_eq_ok_iff.2 ⟨kind, hkind, bind_eq_ok_iff.2 ⟨part, hpart, ?_⟩⟩
    exact bind_eq_ok_iff.2 ⟨_, ih hmore, rfl⟩
  | case4 node rest child children hcons ih =>
    rw [flattenParts_cons_of_children hcons] at h
    rw [List.cons_append, flattenParts_cons_of_children hcons, ← List.append_assoc]
    exact ih h

theorem Reads.unique (h : Reads nodes text) (h' : Reads nodes text') : text = text' := by
  obtain ⟨parts, hparts, rfl⟩ := h
  obtain ⟨parts', hparts', rfl⟩ := h'
  have hmap := Except.ok.inj (hparts.symm.trans hparts')
  rw [(List.map_inj_right fun _ _ => Json.str.inj).1 hmap]

theorem Reads.append (h : Reads nodes text) (h' : Reads nodes' text') :
    Reads (nodes ++ nodes') (text ++ text') := by
  obtain ⟨parts, hparts, rfl⟩ := h
  obtain ⟨parts', hparts', rfl⟩ := h'
  refine ⟨parts ++ parts', ?_, concat_append parts parts'⟩
  rw [flattenParts_append hparts hparts', List.map_append]

/-- The text of a node with children is that of the children. -/
theorem reads_of_children (hchildren : childrenOf node = .ok (child :: children))
    (h : Reads (child :: children) text) : Reads [node] text := by
  obtain ⟨parts, hparts, rfl⟩ := h
  exact ⟨parts, by rw [flattenParts_cons_of_children hchildren, List.append_nil, hparts], rfl⟩

/-- The text of a node without children is a line end or its literal text, if it has one. -/
theorem reads_of_no_children (hchildren : childrenOf (.obj fields) = .ok [])
    (htype : fieldOf? fields "type" = some (.str type))
    (hpart : leafPart (.str type) (.obj fields) = .ok (.str text)) :
    Reads [.obj fields] text := by
  refine ⟨[text], ?_, by simp⟩
  rw [flattenParts_cons_of_nil hchildren]
  refine bind_eq_ok_iff.2 ⟨_, get_of_fieldOf? htype, bind_eq_ok_iff.2 ⟨_, hpart, ?_⟩⟩
  exact bind_eq_ok_iff.2 ⟨[], by rw [flattenParts], rfl⟩

end AlertBridge.Token
