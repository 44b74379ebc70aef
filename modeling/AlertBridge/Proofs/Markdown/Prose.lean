import AlertBridge.Proofs.Token.NodeTree

/-!
# Documents as trees of nodes

A Markdown document that has no block of code and none of raw HTML is, as data, a proper tree of
nodes.

Main statement: `isNode_toJson`.
-/

namespace AlertBridge.Markdown.Node

open Token (IsNode IsAttributes HasAttributes HasNoChildren literalTypes emptyTypes holderTypes)

mutual

/-- Nothing in the tree is a block of code or of raw HTML. -/
def isProse : Node → Bool
  | blockCode _ | blockHtml _ => false
  | strong ns | emphasis ns | strikethrough ns | link _ _ ns | image _ _ ns | heading _ ns
  | paragraph ns | blockText ns | blockQuote ns | list _ ns | listItem ns => areProse ns
  | text _ | softbreak | linebreak | codespan _ | inlineHtml _ | blankLine | thematicBreak => true

/-- Nothing in the trees is a block of code or of raw HTML. -/
def areProse : List Node → Bool
  | [] => true
  | n :: rest => isProse n && areProse rest

end

/-- The fields of a node that holds others, and its attributes. -/
def holderFields (type : String) (ns : List Node) (attributes : List (String × Json)) :
    List (String × Json) :=
  ("type", .str type) :: ("children", .arr (toJsons ns)) :: attributes

theorem isNode_leaf {type : String} (hmem : type ∈ literalTypes) (raw : String) :
    IsNode (leaf type raw) :=
  .literal rfl hmem rfl (Token.hasNoChildren_of_none rfl) (Token.hasAttributes_of_none rfl)

theorem isNode_empty {type : String} (hmem : type ∈ emptyTypes) :
    IsNode (.obj [("type", .str type)]) :=
  .empty rfl hmem rfl (Token.hasNoChildren_of_none rfl) (Token.hasAttributes_of_none rfl)

theorem isNode_holder {type : String} {ns : List Node} (hmem : type ∈ holderTypes)
    (h : ∀ node ∈ toJsons ns, IsNode node) :
    IsNode (.obj (holderFields type ns [])) :=
  .holder rfl hmem rfl rfl (Token.hasAttributes_of_none rfl) h

theorem isNode_holder_attrs {type : String} {ns : List Node} {attributes : List (String × Json)}
    (hmem : type ∈ holderTypes) (hattributes : IsAttributes attributes)
    (h : ∀ node ∈ toJsons ns, IsNode node) :
    IsNode (.obj (holderFields type ns [("attrs", .obj attributes)])) := by
  refine .holder rfl hmem rfl rfl ?_ h
  intro v hv
  obtain rfl := Option.some.inj hv
  exact .inr ⟨attributes, rfl, hattributes⟩

theorem isAttributes_target (url : String) (title : Option String) :
    IsAttributes [("url", .str url), ("title", .ofOption title)] where
  url v hv := .inr ⟨url, (Option.some.inj hv).symm⟩
  title v hv := by
    obtain rfl := Option.some.inj hv
    cases title with
    | none => exact .inl rfl
    | some title => exact .inr ⟨title, rfl⟩
  level v hv := by cases hv

theorem isAttributes_level (level : Int) : IsAttributes [("level", .int level)] where
  url v hv := by cases hv
  title v hv := by cases hv
  level v hv := ⟨level, (Option.some.inj hv).symm⟩

theorem isAttributes_ordered (ordered : Bool) : IsAttributes [("ordered", .bool ordered)] where
  url v hv := by cases hv
  title v hv := by cases hv
  level v hv := by cases hv

mutual

/-- **Documents are proper trees** if they have no block of code and none of raw HTML. -/
theorem isNode_toJson (n : Node) (h : n.isProse = true) : IsNode n.toJson := by
  cases n with
  | text raw | codespan raw | inlineHtml raw => exact isNode_leaf (by decide) raw
  | softbreak | linebreak | blankLine | thematicBreak => exact isNode_empty (by decide)
  | blockCode | blockHtml => cases h
  | strong ns | emphasis ns | strikethrough ns | paragraph ns | blockText ns | blockQuote ns
  | listItem ns => exact isNode_holder (by decide) (isNode_of_mem_toJsons ns h)
  | link url title ns | image url title ns =>
    exact isNode_holder_attrs (by decide) (isAttributes_target url title)
      (isNode_of_mem_toJsons ns h)
  | heading level ns =>
    exact isNode_holder_attrs (by decide) (isAttributes_level level) (isNode_of_mem_toJsons ns h)
  | list ordered ns =>
    exact isNode_holder_attrs (by decide) (isAttributes_ordered ordered)
      (isNode_of_mem_toJsons ns h)

/-- So is each of them. -/
theorem isNode_of_mem_toJsons (ns : List Node) (h : areProse ns = true) :
    ∀ node ∈ toJsons ns, IsNode node := by
  cases ns with
  | nil => exact nofun
  | cons n rest =>
    obtain ⟨hn, hrest⟩ := Bool.and_eq_true_iff.1 h
    intro node hnode
    rcases List.mem_cons.1 hnode with rfl | hnode
    · exact isNode_toJson n hn
    · exact isNode_of_mem_toJsons rest hrest node hnode

end

end AlertBridge.Markdown.Node
