import AlertBridge.Proofs.Fault.Sequence
import AlertBridge.Token.OfNodes

/-!
# How nodes become tokens

`Converted` is the relation between nodes and the tokens that they become, before these are brought
to normal form. It has one rule for each thing that can happen to a node: it becomes a token or
none, or a token that holds the tokens of the node's children. What is to be said of all tokens that
come from nodes is said by induction on it.

## Main definitions

* `Converted`: nodes and the tokens that they become
* `IsLeaf`: a token without children, as a node becomes one

## Main results

* `ofEach_eq_ok_iff`: the conversion succeeds with the tokens that are related to the nodes
* `readingOf_cases`: what a node becomes
-/

namespace AlertBridge.Token

/-! ## The relation -/

/-- Nodes `depth` levels down and the tokens that they become. -/
inductive Converted (limit : Int) : Int → List Json → List Token → Prop where
  | nil (depth : Int) : Converted limit depth [] []
  | token {depth : Int} {node : Json} {rest : List Json} {token : Option Token}
      {tokens : List Token} (hreading : readingOf limit depth node = .ok (.token token))
      (hrest : Converted limit depth rest tokens) :
      Converted limit depth (node :: rest) (token.toList ++ tokens)
  | container {depth : Int} {node : Json} {rest children : List Json} {kind : TokenKind}
      {below inner tokens : List Token} {token : Token}
      (hreading : readingOf limit depth node = .ok (.container kind))
      (hchildren : childrenOf node = .ok children)
      (hbelow : Converted limit (depth + 1) children below) (hinner : normalize below = .ok inner)
      (htoken : ofContainer kind inner node = .ok token)
      (hrest : Converted limit depth rest tokens) :
      Converted limit depth (node :: rest) (token :: tokens)

theorem exists_eq_ok_of_map {α β : Type} {x : Except Fault α} {f : α → β} {b : β}
    (h : x.toOption.map f = some b) : ∃ a, x = .ok a ∧ f a = b := by
  cases x with
  | error fault => cases h
  | ok a => exact ⟨a, rfl, Option.some.inj h⟩

variable {limit depth : Int} {node : Json} {nodes : List Json} {kind : TokenKind}
  {token : Token} {tokens inner : List Token}

theorem converted_of_ofEach (h : ofEach limit nodes depth = .ok tokens) :
    Converted limit depth nodes tokens := by
  fun_induction ofEach limit nodes depth generalizing tokens with
  | case1 depth =>
    obtain rfl := Except.ok.inj h
    exact .nil depth
  | case2 => cases h
  | case3 depth node rest token hreading ih =>
    obtain ⟨more, hmore, htokens⟩ := bind_eq_ok_iff.1 h
    obtain rfl := Except.ok.inj htokens
    exact .token hreading (ih hmore)
  | case4 => cases h
  | case5 depth node rest kind hreading children hchildren ihbelow ihrest =>
    obtain ⟨below, hbelow, h⟩ := bind_eq_ok_iff.1 h
    obtain ⟨inner, hinner, h⟩ := bind_eq_ok_iff.1 h
    obtain ⟨token, htoken, h⟩ := bind_eq_ok_iff.1 h
    obtain ⟨more, hmore, htokens⟩ := bind_eq_ok_iff.1 h
    obtain rfl := Except.ok.inj htokens
    exact .container hreading hchildren (ihbelow hbelow) hinner htoken (ihrest hmore)

theorem ofEach_of_converted (h : Converted limit depth nodes tokens) :
    ofEach limit nodes depth = .ok tokens := by
  induction h with
  | nil depth => rw [ofEach]
  | token hreading _ ih =>
    rw [ofEach, hreading]
    exact bind_eq_ok_iff.2 ⟨_, ih, rfl⟩
  | container hreading hchildren _ hinner htoken _ ihbelow ihrest =>
    rw [ofEach, hreading]
    simp only []
    split
    · next hfault => simp [hchildren] at hfault
    · next children hsome =>
      obtain rfl := Except.ok.inj (hchildren.symm.trans hsome)
      refine bind_eq_ok_iff.2 ⟨_, ihbelow, bind_eq_ok_iff.2 ⟨_, hinner, ?_⟩⟩
      exact bind_eq_ok_iff.2 ⟨_, htoken, bind_eq_ok_iff.2 ⟨_, ihrest, rfl⟩⟩

/-- The conversion succeeds with the tokens that are related to the nodes. -/
theorem ofEach_eq_ok_iff :
    ofEach limit nodes depth = .ok tokens ↔ Converted limit depth nodes tokens :=
  ⟨converted_of_ofEach, ofEach_of_converted⟩

theorem ofNodes?_eq_ok_iff :
    ofNodes? nodes depth limit = .ok tokens ↔
      ∃ below, Converted limit depth nodes below ∧ normalize below = .ok tokens := by
  simp only [← ofEach_eq_ok_iff]
  exact bind_eq_ok_iff

/-- The tokens of the nodes of two lists follow each other. -/
theorem Converted.append {nodes' : List Json} {tokens' : List Token}
    (h : Converted limit depth nodes tokens) (h' : Converted limit depth nodes' tokens') :
    Converted limit depth (nodes ++ nodes') (tokens ++ tokens') := by
  induction h with
  | nil => exact h'
  | token hreading _ ih =>
    rw [List.append_assoc]
    exact .token hreading (ih h')
  | container hreading hchildren hbelow hinner htoken _ _ ih =>
    exact .container hreading hchildren hbelow hinner htoken (ih h')

/-! ## What one node becomes -/

theorem value_ofValue (v : Json) : (ofValue v).value = v := by
  cases v <;> rfl

theorem kind_ofValue (v : Json) : (ofValue v).kind = .text := by
  cases v <;> rfl

/-- A token without children, as a node becomes one. A text has nothing but the value that it
holds, and the text of a code span has been escaped. -/
structure IsLeaf (t : Token) : Prop where
  childless : t.children = []
  text : t.kind = .text → t = ofValue t.value
  codespan : t.kind = .codespan → ∃ s, t.value = .str (escapeHtml s)
  not_escape : t.kind ≠ .escape

theorem isLeaf_ofValue (v : Json) : IsLeaf (ofValue v) := by
  refine ⟨?_, fun _ => by rw [value_ofValue], fun h => ?_, fun h => ?_⟩
  · cases v <;> rfl
  all_goals
    rw [kind_ofValue] at h
    cases h

theorem isLeaf_of_kind {t : Token} (hchildren : t.children = []) (htext : t.kind ≠ .text)
    (hcode : t.kind ≠ .codespan) (hescape : t.kind ≠ .escape) : IsLeaf t :=
  ⟨hchildren, fun h => absurd h htext, fun h => absurd h hcode, hescape⟩

/-- A text, a line break, soft or hard, raw HTML, a code span and a block of code are leaves. -/
theorem isLeaf_of_ofLeaf {type : Json} (h : ofLeaf type node = .ok (some token)) :
    IsLeaf token := by
  unfold ofLeaf at h
  split at h
  · obtain ⟨raw, -, h⟩ := bind_eq_ok_iff.1 h
    split at h
    · obtain rfl := Option.some.inj (Except.ok.inj h)
      exact isLeaf_ofValue raw
    · cases h
  split at h
  · obtain rfl := Option.some.inj (Except.ok.inj h)
    exact isLeaf_ofValue (.str "\n")
  split at h
  · obtain rfl := Option.some.inj (Except.ok.inj h)
    exact isLeaf_of_kind rfl nofun nofun nofun
  split at h
  · obtain ⟨raw, -, h⟩ := bind_eq_ok_iff.1 h
    split at h <;>
    · obtain rfl := Option.some.inj (Except.ok.inj h)
      exact isLeaf_of_kind rfl nofun nofun nofun
  split at h
  · obtain ⟨raw, -, h⟩ := bind_eq_ok_iff.1 h
    obtain ⟨text, -, h⟩ := bind_eq_ok_iff.1 h
    obtain rfl := Option.some.inj (Except.ok.inj h)
    exact ⟨rfl, nofun, fun _ => ⟨text, rfl⟩, nofun⟩
  split at h
  · obtain ⟨raw, -, h⟩ := bind_eq_ok_iff.1 h
    obtain ⟨text, -, h⟩ := bind_eq_ok_iff.1 h
    obtain rfl := Option.some.inj (Except.ok.inj h)
    exact isLeaf_of_kind rfl nofun nofun nofun
  · cases h

/-- What a node becomes: a text, if it lies too deep and has children; else what a leaf of its type
becomes, or a container. -/
theorem readingOf_cases {reading : Reading} (h : readingOf limit depth node = .ok reading) :
    ∃ type children, node.get "type" = .ok type ∧ node.get "children" = .ok children ∧
      ((limit < depth ∧ children.truthy = true ∧
          ∃ text, flatten node = .ok text ∧ reading = .token (some (ofText text))) ∨
        (¬ (limit < depth ∧ children.truthy = true) ∧
          ((∃ token, ofLeaf type node = .ok token ∧ reading = .token token) ∨
            ∃ kind, containerKind? type = some kind ∧ reading = .container kind))) := by
  obtain ⟨type, htype, h⟩ := bind_eq_ok_iff.1 h
  obtain ⟨children, hchildren, h⟩ := bind_eq_ok_iff.1 h
  refine ⟨type, children, htype, hchildren, ?_⟩
  by_cases hcut : limit < depth ∧ children.truthy = true
  · rw [if_pos (by simpa using hcut)] at h
    obtain ⟨text, htext, h⟩ := bind_eq_ok_iff.1 h
    exact .inl ⟨hcut.1, hcut.2, text, htext, (Except.ok.inj h).symm⟩
  rw [if_neg (by simpa using hcut)] at h
  refine .inr ⟨hcut, ?_⟩
  split at h
  · obtain ⟨leaf, hleaf, h⟩ := bind_eq_ok_iff.1 h
    exact .inl ⟨leaf, hleaf, (Except.ok.inj h).symm⟩
  split at h
  · cases h
  split at h
  · next kind hkind => exact .inr ⟨kind, hkind, (Except.ok.inj h).symm⟩
  · obtain ⟨leaf, hleaf, h⟩ := bind_eq_ok_iff.1 h
    exact .inl ⟨leaf, hleaf, (Except.ok.inj h).symm⟩

/-- A node that becomes a token at once becomes a leaf. -/
theorem isLeaf_of_readingOf (h : readingOf limit depth node = .ok (.token (some token))) :
    IsLeaf token := by
  obtain ⟨type, children, -, -, hcut | ⟨-, hleaf | hcontainer⟩⟩ := readingOf_cases h
  · obtain ⟨-, -, text, -, h⟩ := hcut
    obtain rfl := Option.some.inj (Reading.token.inj h)
    exact isLeaf_ofValue (.str text)
  · obtain ⟨leaf, hleaf, h⟩ := hleaf
    obtain rfl := Reading.token.inj h
    exact isLeaf_of_ofLeaf hleaf
  · obtain ⟨kind, -, h⟩ := hcontainer
    cases h

/-- A container has a type that names its kind, and keeps its children only if it does not lie too
deep. -/
theorem container_of_readingOf (h : readingOf limit depth node = .ok (.container kind)) :
    ∃ type children, node.get "children" = .ok children ∧ containerKind? type = some kind ∧
      ¬ (limit < depth ∧ children.truthy = true) := by
  obtain ⟨type, children, -, hchildren, hcut | ⟨hkept, hleaf | hcontainer⟩⟩ := readingOf_cases h
  · obtain ⟨-, -, text, -, h⟩ := hcut
    cases h
  · obtain ⟨leaf, -, h⟩ := hleaf
    cases h
  · obtain ⟨k, hkind, h⟩ := hcontainer
    obtain rfl := Reading.container.inj h
    exact ⟨type, children, hchildren, hkind, hkept⟩

theorem truthy_of_nodesOf {v child : Json} {children : List Json}
    (h : nodesOf v = .ok (child :: children)) : v.truthy = true := by
  unfold nodesOf at h
  split at h <;> (try split at h) <;> simp_all [Json.truthy]

theorem le_of_readingOf {child : Json} {children : List Json}
    (hreading : readingOf limit depth node = .ok (.container kind))
    (hchildren : childrenOf node = .ok (child :: children)) : depth ≤ limit := by
  obtain ⟨v, hv, hnodes⟩ := bind_eq_ok_iff.1 hchildren
  obtain ⟨type, v', hv', -, hkept⟩ := container_of_readingOf hreading
  obtain rfl := Except.ok.inj (hv.symm.trans hv')
  exact Int.not_lt.1 fun hdeep => hkept ⟨hdeep, truthy_of_nodesOf hnodes⟩

/-- The kinds of tokens that hold the tokens of children. -/
def containerKinds : List TokenKind :=
  [.strong, .em, .del, .link, .image, .heading, .paragraph, .blockquote, .listitem, .list]

theorem mem_containerKinds_of_containerKind? {type : Json} (h : containerKind? type = some kind) :
    kind ∈ containerKinds := by
  unfold containerKind? at h
  split at h
  · next name =>
    obtain ⟨before, after, htable, -⟩ := List.lookup_eq_some_iff.1 h
    have hmem : kind ∈ (before ++ (name, kind) :: after).map Prod.snd := by simp
    rw [← htable] at hmem
    revert hmem
    revert kind
    simp [containerKinds]
  · cases h

theorem mem_containerKinds_of_readingOf (h : readingOf limit depth node = .ok (.container kind)) :
    kind ∈ containerKinds := by
  obtain ⟨type, -, -, hkind, -⟩ := container_of_readingOf h
  exact mem_containerKinds_of_containerKind? hkind

/-- A container has the kind of its node, and an image keeps none of its children. -/
theorem ofContainer_spec (h : ofContainer kind inner node = .ok token) :
    token.kind = kind ∧ token.children = if kind = .image then [] else inner := by
  unfold ofContainer at h
  split at h
  case h_1 | h_2 =>
    obtain ⟨attributes, -, h⟩ := bind_eq_ok_iff.1 h
    obtain ⟨text, -, h⟩ := bind_eq_ok_iff.1 h
    obtain ⟨url, -, h⟩ := bind_eq_ok_iff.1 h
    obtain ⟨title, -, h⟩ := bind_eq_ok_iff.1 h
    obtain rfl := Except.ok.inj h
    exact ⟨rfl, rfl⟩
  case h_3 =>
    obtain ⟨level, -, h⟩ := bind_eq_ok_iff.1 h
    obtain rfl := Except.ok.inj h
    exact ⟨rfl, rfl⟩
  case h_4 =>
    obtain ⟨attributes, -, h⟩ := bind_eq_ok_iff.1 h
    obtain ⟨ordered, -, h⟩ := bind_eq_ok_iff.1 h
    obtain rfl := Except.ok.inj h
    exact ⟨rfl, rfl⟩
  case h_5 hlink himage hheading hlist =>
    obtain rfl := Except.ok.inj h
    exact ⟨rfl, (if_neg himage).symm⟩

end AlertBridge.Token
