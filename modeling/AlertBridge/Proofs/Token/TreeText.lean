import AlertBridge.Proofs.Token.NodeTree
import AlertBridge.Proofs.Token.PlainText
import AlertBridge.Proofs.Text.Concat

/-!
# The text of a tree, by recursion

What is seen of a token, what a heading says of it, and the text that a node holds are each read with
a list of what is still to be read. They have the same meaning as a recursion on the tree: the text
of a token or a node is that of its children, one after the other, and the three differ in where they
stop. What is seen is read of the children wherever there are any, and so is what a node holds. A
heading stops at links and images, whose own text it says, and has no text of tokens of other kinds.

At any time of a walk, what is still to be read amounts to the texts of the trees that are left.

## Main definitions

* `seenIn`, `saidIn`, `heldIn`: the texts by recursion
* `IsReadable`: nodes with a text
* `IsUniform`: tokens of which a heading says what is seen of them

## Main results

* `concat_visibleTexts_eq`, `concat_headingTexts_eq`: what is still to be read
* `walks_eq_recursions`: the walks are the recursions
-/

namespace AlertBridge.Token

open Json (fieldOf?)

/-! ## What is seen -/

/-- The text that is seen of a token without children. -/
def ownText (kind : TokenKind) (text : String) : String :=
  if kind = .codespan then unescapeHtml text else if kind = .br then "" else text

mutual

/-- What is seen of a token: what is seen of its children, if it has any. -/
def seenIn : Token → String
  | ⟨kind, text, children, _, _, _, _, _⟩ =>
    if children.isEmpty then ownText kind text else seenInAll children

/-- What is seen of tokens, one after the other. -/
def seenInAll : List Token → String
  | [] => ""
  | t :: rest => seenIn t ++ seenInAll rest

end

theorem seenIn_eq (t : Token) :
    seenIn t = if t.children.isEmpty then ownText t.kind t.text else seenInAll t.children := by
  cases t
  rw [seenIn]

theorem seenInAll_append (ts us : List Token) :
    seenInAll (ts ++ us) = seenInAll ts ++ seenInAll us := by
  induction ts with
  | nil => rw [List.nil_append, seenInAll, String.empty_append]
  | cons t ts ih => rw [List.cons_append, seenInAll, ih, seenInAll, String.append_assoc]

/-- At any time of the walk, the texts that are still to be read are those of the trees that are
left. -/
theorem concat_visibleTexts_eq (todo : List Token) :
    concat (visibleTexts todo) = seenInAll todo := by
  fun_induction visibleTexts todo with
  | case1 => rfl
  | case2 t rest hreference ih =>
    obtain ⟨hkind, hnil⟩ := Bool.and_eq_true_iff.1 hreference
    have hown : ownText t.kind t.text = t.text := by
      rcases (show t.kind = .link ∨ t.kind = .image by simpa [isReference] using hkind) with h | h
      · rw [h]
        rfl
      · rw [h]
        rfl
    rw [concat_cons, ih, seenInAll, seenIn_eq, if_pos hnil, hown]
  | case3 t rest _ hsome ih =>
    have hnot : ¬ t.children.isEmpty := by simpa using hsome
    rw [ih, seenInAll_append, seenInAll, seenIn_eq, if_neg hnot]
  | case4 t rest _ hnone hcode ih =>
    have hnil : t.children.isEmpty := by simpa using hnone
    rw [concat_cons, ih, seenInAll, seenIn_eq, if_pos hnil, ownText, if_pos hcode]
  | case5 t rest _ hnone hcode hbreak ih =>
    have hnil : t.children.isEmpty := by simpa using hnone
    rw [ih, seenInAll, seenIn_eq, if_pos hnil, ownText, if_neg hcode, if_pos hbreak,
      String.empty_append]
  | case6 t rest _ hnone hcode hbreak ih =>
    have hnil : t.children.isEmpty := by simpa using hnone
    rw [concat_cons, ih, seenInAll, seenIn_eq, if_pos hnil, ownText, if_neg hcode, if_neg hbreak]

theorem plainText_eq_seenIn (t : Token) : t.plainText = seenIn t := by
  rw [plainText, concat_visibleTexts_eq, seenInAll, seenInAll, String.append_empty]

/-! ## What a heading says -/

/-- What stands for an image: its title, or its alternative text if it has none. -/
def imageText (title : Option String) (text : String) : String :=
  match title with
  | some title => if title = "" then text else title
  | none => text

/-- What a heading says of a token at which it stops. -/
def stopText? (kind : TokenKind) (title : Option String) (text : String) : Option String :=
  match kind with
  | .image => some (imageText title text)
  | .codespan => some (unescapeHtml text)
  | .link | .text | .escape | .html => some text
  | _ => none

mutual

/-- What a heading says of a token: where it does not stop, what it says of the children. -/
def saidIn : Token → String
  | ⟨kind, text, children, _, title, _, _, _⟩ =>
    (stopText? kind title text).getD (saidInAll children)

/-- What a heading says of tokens, one after the other. -/
def saidInAll : List Token → String
  | [] => ""
  | t :: rest => saidIn t ++ saidInAll rest

end

theorem saidIn_eq (t : Token) :
    saidIn t = (stopText? t.kind t.title t.text).getD (saidInAll t.children) := by
  cases t
  rw [saidIn]

theorem saidInAll_append (ts us : List Token) :
    saidInAll (ts ++ us) = saidInAll ts ++ saidInAll us := by
  induction ts with
  | nil => rw [List.nil_append, saidInAll, String.empty_append]
  | cons t ts ih => rw [List.cons_append, saidInAll, ih, saidInAll, String.append_assoc]

/-- At any time of the walk, the texts that are still to be read are those of the trees that are
left. -/
theorem concat_headingTexts_eq (todo : List Token) :
    concat (headingTexts todo) = saidInAll todo := by
  fun_induction headingTexts todo with
  | case1 => rfl
  | case2 t rest hkind ih =>
    rw [concat_cons, ih, saidInAll, saidIn_eq, hkind, stopText?, Option.getD_some]
    cases t.title <;> rfl
  | case3 t rest hkind ih | case4 t rest hkind ih | case5 t rest hkind ih | case6 t rest hkind ih
  | case7 t rest hkind ih =>
    rw [concat_cons, ih, saidInAll, saidIn_eq, hkind, stopText?, Option.getD_some]
  | case8 t rest himage hlink hcode htext hescape hhtml ih =>
    have hgoes : stopText? t.kind t.title t.text = none := by
      rw [stopText?] <;> assumption
    rw [ih, saidInAll_append, saidInAll, saidIn_eq, hgoes, Option.getD_none]

theorem headingText_eq_saidIn (t : Token) : t.headingText = saidIn t := by
  rw [headingText, concat_headingTexts_eq, saidInAll, saidInAll, String.append_empty]

/-! ## What a node holds -/

/-- The text under a name, an empty one if there is none. -/
def textUnder (node : Json) (name : String) : String :=
  match node with
  | .obj fields => match fieldOf? fields name with
    | some (.str text) => text
    | _ => ""
  | _ => ""

/-- The text of a node without children: a line end, or its literal text, if it has one. -/
def leafText (node : Json) : String :=
  if textUnder node "type" = "softbreak" then "\n" else textUnder node "raw"

/-- The text that a node holds: that of its children, if it has any. -/
def heldIn (node : Json) : String :=
  match _h : childrenOf node with
  | .ok (child :: children) =>
    concat ((child :: children).attach.map fun below => heldIn below.1)
  | _ => leafText node
termination_by node.weight
decreasing_by exact weight_lt_of_childrenOf _h below.2

/-- The literal text of a node is a text, if it has one. -/
def HasText (fields : List (String × Json)) : Prop :=
  ∀ v, fieldOf? fields "raw" = some v → ∃ raw, v = .str raw

/-- The nodes that have a list of nodes below them, or nothing, and a literal text or none. -/
inductive IsReadable : Json → Prop where
  | leaf {fields : List (String × Json)} (hchildren : HasNoChildren fields)
      (hraw : HasText fields) : IsReadable (.obj fields)
  | holder {fields : List (String × Json)} {children : List Json}
      (hchildren : fieldOf? fields "children" = some (.arr children)) (hraw : HasText fields)
      (hbelow : ∀ child ∈ children, IsReadable child) : IsReadable (.obj fields)

variable {fields : List (String × Json)} {node child : Json} {nodes children : List Json}

theorem heldIn_of_no_children (h : childrenOf node = .ok []) : heldIn node = leafText node := by
  rw [heldIn]
  split
  · next hsome => simp [h] at hsome
  · rfl

theorem heldIn_of_children (h : childrenOf node = .ok (child :: children)) :
    heldIn node = concat ((child :: children).map heldIn) := by
  rw [heldIn]
  split
  · next first more hsome =>
    obtain ⟨rfl, rfl⟩ := List.cons.inj (Except.ok.inj (hsome.symm.trans h))
    rw [List.attach_map_val]
  · next hnone => exact absurd h (hnone _ _)

theorem textUnder_of_fieldOf? {name text : String} (h : fieldOf? fields name = some (.str text)) :
    textUnder (.obj fields) name = text := by
  rw [textUnder, h]

/-- A type is one of text only if it is a text. -/
theorem isType_eq_true_iff {type : String} (hne : type ≠ "") :
    isType ((fieldOf? fields "type").getD .null) type = true ↔
      textUnder (.obj fields) "type" = type := by
  rw [textUnder]
  cases fieldOf? fields "type" with
  | none => simp [isType, hne.symm]
  | some kind => cases kind <;> simp [isType, hne.symm]

/-- A node without children shows its text. -/
theorem reads_leafText (hchildren : childrenOf (.obj fields) = .ok []) (hraw : HasText fields) :
    Reads [.obj fields] (leafText (.obj fields)) := by
  have hpart : leafPart ((fieldOf? fields "type").getD .null) (.obj fields) =
      .ok (.str (leafText (.obj fields))) := by
    rw [leafPart, leafText]
    by_cases hbreak : textUnder (.obj fields) "type" = "softbreak"
    · rw [if_pos hbreak, if_pos ((isType_eq_true_iff (by decide)).2 hbreak)]
    rw [if_neg hbreak, if_neg (mt (isType_eq_true_iff (by decide)).1 hbreak), valueOf, textUnder]
    cases hv : fieldOf? fields "raw" with
    | none => rfl
    | some v =>
      obtain ⟨raw, rfl⟩ := hraw v hv
      rfl
  refine ⟨[leafText (.obj fields)], ?_, by simp⟩
  rw [flattenParts_cons_of_nil hchildren]
  refine bind_eq_ok_iff.2 ⟨_, get_obj fields "type", bind_eq_ok_iff.2 ⟨_, hpart, ?_⟩⟩
  exact bind_eq_ok_iff.2 ⟨[], by rw [flattenParts], rfl⟩

/-- What is read of nodes is what each of them holds. -/
theorem reads_of_forall (h : ∀ node ∈ nodes, Reads [node] (heldIn node)) :
    Reads nodes (concat (nodes.map heldIn)) := by
  induction nodes with
  | nil => exact reads_nil
  | cons node rest ih =>
    obtain ⟨hnode, hrest⟩ := List.forall_mem_cons.1 h
    exact hnode.append (ih hrest)

theorem IsReadable.reads (h : IsReadable node) : Reads [node] (heldIn node) := by
  induction h with
  | leaf hchildren hraw =>
    rw [heldIn_of_no_children hchildren.childrenOf]
    exact reads_leafText hchildren.childrenOf hraw
  | @holder fields children hchildren hraw _ ih =>
    have hnodes := childrenOf_of_fieldOf? hchildren
    cases children with
    | nil =>
      rw [heldIn_of_no_children hnodes]
      exact reads_leafText hnodes hraw
    | cons child children =>
      rw [heldIn_of_children hnodes]
      exact reads_of_children hnodes (reads_of_forall ih)

/-! ## Where a heading says what is seen -/

/-- The kinds of tokens with a text, or a line end, and nothing below. -/
def bareKinds : List TokenKind := [.text, .escape, .html, .codespan, .br]

/-- The kinds of tokens that are nothing but their children. -/
def holderKinds : List TokenKind :=
  [.strong, .em, .del, .heading, .paragraph, .blockquote, .list, .listitem]

/-- A tree of which a heading says what is seen of it: texts stand in leaves, links show the text of
their children, images have no title, and nothing is a block of code. -/
inductive IsUniform : Token → Prop where
  | leaf {t : Token} (hkind : t.kind ∈ bareKinds) (hchildren : t.children = []) : IsUniform t
  | link {t : Token} (hkind : t.kind = .link) (htext : t.text = t.plainText) : IsUniform t
  | image {t : Token} (hkind : t.kind = .image) (hchildren : t.children = [])
      (htitle : t.title = none ∨ t.title = some "") : IsUniform t
  | holder {t : Token} (hkind : t.kind ∈ holderKinds) (htext : t.text = "")
      (hbelow : ∀ u ∈ t.children, IsUniform u) : IsUniform t

variable {t : Token}

theorem saidInAll_eq (ts : List Token) : saidInAll ts = concat (ts.map headingText) := by
  induction ts with
  | nil => rfl
  | cons t ts ih => rw [saidInAll, ih, List.map_cons, concat_cons, headingText_eq_saidIn]

theorem headingText_of_stop {said : String} (h : stopText? t.kind t.title t.text = some said) :
    t.headingText = said := by
  rw [headingText_eq_saidIn, saidIn_eq, h, Option.getD_some]

theorem headingText_of_open (h : stopText? t.kind t.title t.text = none) :
    t.headingText = concat (t.children.map headingText) := by
  rw [headingText_eq_saidIn, saidIn_eq, h, Option.getD_none, saidInAll_eq]

/-- A leaf is said as it is seen. -/
theorem headingText_of_leaf (hnil : t.children = []) (hkind : t.kind ∈ bareKinds) :
    t.headingText = t.plainText := by
  rw [plainText_of_children_eq_nil hnil]
  simp only [bareKinds, List.mem_cons, List.not_mem_nil, or_false] at hkind
  rcases hkind with hkind | hkind | hkind | hkind | hkind
  case inr.inr.inr.inr =>
    rw [isReference, hkind, headingText_of_open (by rw [hkind]; rfl), hnil]
    rfl
  all_goals
    rw [isReference, hkind, headingText_of_stop (by rw [hkind]; rfl)]
    rfl

theorem headingText_of_image (hkind : t.kind = .image) (hnil : t.children = [])
    (htitle : t.title = none ∨ t.title = some "") : t.headingText = t.plainText := by
  have hseen : t.plainText = t.text := by
    rw [plainText_of_children_eq_nil hnil, isReference, hkind]
    rfl
  have hsaid : imageText t.title t.text = t.text := by
    rcases htitle with h | h
    · rw [h, imageText]
    · rw [h, imageText, if_pos rfl]
  rw [headingText_of_stop (by rw [hkind]; rfl), hsaid, hseen]

theorem stopText?_of_mem_holderKinds {kind : TokenKind} (h : kind ∈ holderKinds)
    (title : Option String) (text : String) : stopText? kind title text = none := by
  revert h
  cases kind <;> simp [holderKinds, stopText?]

theorem IsUniform.headingText_eq (h : IsUniform t) : t.headingText = t.plainText := by
  induction h with
  | leaf hkind hchildren => exact headingText_of_leaf hchildren hkind
  | link hkind htext => rw [headingText_of_stop (by rw [hkind]; rfl), htext]
  | image hkind hchildren htitle => exact headingText_of_image hkind hchildren htitle
  | holder hkind htext _ ih =>
    rw [headingText_of_open (stopText?_of_mem_holderKinds hkind _ _),
      plainText_of_text_eq_empty htext, List.map_congr_left ih]

/-! ## The walks -/

/-- **The walks are the recursions.** What is seen of a token and what a heading says of it are read
of the tree by recursion, and so is the text of a node that has a list of nodes below it, or
nothing, and a literal text or none. Where links show the text of their children, images have no
title, and only leaves have a text of their own, a heading says what is seen. -/
theorem walks_eq_recursions :
    (∀ t, plainText t = seenIn t) ∧ (∀ t, headingText t = saidIn t) ∧
      (∀ node, IsReadable node → flatten node = .ok (heldIn node)) ∧
      ∀ t, IsUniform t → headingText t = plainText t :=
  ⟨plainText_eq_seenIn, headingText_eq_saidIn, fun _ h => flatten_eq_ok_iff.2 h.reads,
    fun _ h => h.headingText_eq⟩

/-- A heading with a link, an image and a code span. -/
def mixedHeading : Token where
  kind := .heading
  children := [ofText "see ", { kind := .link, text := "x", children := [ofText "x"] },
    { kind := .em, children := [{ kind := .image, text := "alt" }] },
    { kind := .codespan, text := "a &lt; b" }]

/-- A node of no type, with a line end and a literal text below it, and a text of its own that is
not read. -/
def untypedNode : Json :=
  .obj [("raw", .str "own"), ("children", .arr [.obj [("type", .str "softbreak")],
    .obj [("children", .null), ("raw", .str "b")]])]

theorem isReadable_untypedNode : IsReadable untypedNode := by
  have htext {v : Json} {raw : String} (h : some (Json.str raw) = some v) :
      ∃ raw, v = .str raw := ⟨raw, (Option.some.inj h).symm⟩
  refine .holder rfl (fun v hv => htext hv) (List.forall_mem_cons.2 ⟨?_, ?_⟩)
  · exact .leaf (hasNoChildren_of_none rfl) nofun
  · refine List.forall_mem_singleton.2 (.leaf ?_ fun v hv => htext hv)
    intro v hv
    exact .inl (Option.some.inj hv).symm

theorem isUniform_mixedHeading : IsUniform mixedHeading := by
  have hlink : plainText { kind := .link, text := "x", children := [ofText "x"] } = "x" := by
    simp [plainText_of_children_ne_nil, plainText_of_children_eq_nil, ofText, isReference]
  refine .holder (by decide) rfl ?_
  simp only [mixedHeading, List.forall_mem_cons, List.not_mem_nil, false_implies, implies_true,
    and_true]
  refine ⟨.leaf (by decide) rfl, .link rfl hlink.symm, .holder (by decide) rfl ?_,
    .leaf (by decide) rfl⟩
  exact List.forall_mem_singleton.2 (.image rfl rfl (.inl rfl))

/-- The node holds the texts below it, and the heading says what is seen of it. -/
theorem walks_eq_recursions_mixedHeading :
    IsReadable untypedNode ∧ flatten untypedNode = .ok (heldIn untypedNode) ∧
      IsUniform mixedHeading ∧ headingText mixedHeading = plainText mixedHeading := by
  obtain ⟨-, -, hheld, hsame⟩ := walks_eq_recursions
  exact ⟨isReadable_untypedNode, hheld _ isReadable_untypedNode, isUniform_mixedHeading,
    hsame _ isUniform_mixedHeading⟩

end AlertBridge.Token
