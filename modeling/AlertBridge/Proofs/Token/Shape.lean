import AlertBridge.Proofs.Token.NormalForm
import AlertBridge.Proofs.Token.Subtree

/-!
# The shape of converted trees

Whatever nodes are converted, if the conversion succeeds its tokens form a proper tree: on every
level they are in normal form, none that may not have children has any, and none that has children
lies more than `limit` levels down. Nodes of unknown type, missing fields and values that are no
text make no difference.

A level is in normal form because `normalize` is the last step on every level. The bound on the
depth comes from the first step: a node with children that lies too deep is a text, and the
children of a token come from the children of its node.

Main statement: `isProper_of_ofNodes?`.
-/

namespace AlertBridge.Token

/-- The kinds of tokens that have no children. -/
def leafKinds : List TokenKind := [.text, .codespan, .image, .br, .html, .code]

/-- What is true of every token in a converted tree, if it lies `depth` levels down. -/
structure IsProper (limit depth : Int) (t : Token) : Prop where
  children : IsNormal t.children
  depth_le : t.children ≠ [] → depth ≤ limit
  childless : t.kind ∈ leafKinds → t.children = []
  codespan : t.kind = .codespan → ∃ s, t.value = .str (escapeHtml s)
  not_escape : t.kind ≠ .escape

variable {limit depth : Int} {nodes : List Json} {tokens ts us : List Token} {t : Token}

theorem IsLeaf.isProper (h : IsLeaf t) (limit depth : Int) : IsProper limit depth t where
  children := h.childless ▸ isNormal_nil
  depth_le := fun hne => absurd h.childless hne
  childless := fun _ => h.childless
  codespan := h.codespan
  not_escape := h.not_escape

theorem isProper_of_ofValue (limit depth : Int) (h : ∃ v, t = ofValue v) :
    IsProper limit depth t ∧ t.children = [] := by
  obtain ⟨v, rfl⟩ := h
  exact ⟨(isLeaf_ofValue v).isProper limit depth, (isLeaf_ofValue v).childless⟩

/-! ## The invariant of the conversion -/

/-- A container is the only kind of token that may have children, but for an image. -/
theorem eq_image_of_mem_kinds {kind : TokenKind} (h : kind ∈ containerKinds)
    (hleaf : kind ∈ leafKinds) : kind = .image := by
  revert h hleaf
  cases kind <;> decide

/-- Without children of the node there are no tokens to be held. -/
theorem Converted.inner_eq_nil {inner : List Token} (h : Converted limit depth [] tokens)
    (hinner : normalize tokens = .ok inner) : inner = [] := by
  cases h
  exact (Except.ok.inj hinner).symm

variable {node : Json} {children : List Json} {kind : TokenKind} {below inner : List Token}

theorem isProper_of_ofContainer (hreading : readingOf limit depth node = .ok (.container kind))
    (hchildren : childrenOf node = .ok children)
    (hbelow : Converted limit (depth + 1) children below) (hinner : normalize below = .ok inner)
    (hnormal : IsNormal inner) (htoken : ofContainer kind inner node = .ok t) :
    IsProper limit depth t := by
  obtain ⟨rfl, hinside⟩ := ofContainer_spec htoken
  have hcontainer := mem_containerKinds_of_readingOf hreading
  refine ⟨?_, fun hne => ?_, fun hleaf => ?_, fun hcode => ?_, fun hescape => ?_⟩
  · rw [hinside]
    split
    · exact isNormal_nil
    · exact hnormal
  · cases children with
    | nil =>
      have hnil := hbelow.inner_eq_nil hinner
      simp [hinside, hnil] at hne
    | cons child children => exact le_of_readingOf hreading hchildren
  · rw [hinside, if_pos (eq_image_of_mem_kinds hcontainer hleaf)]
  · rw [hcode] at hcontainer
    exact absurd hcontainer (by decide)
  · rw [hescape] at hcontainer
    exact absurd hcontainer (by decide)

/-- Before the tokens of nodes are brought to normal form, texts hold nothing but their values, and
all tokens are proper. -/
theorem Converted.throughout (h : Converted limit depth nodes tokens) :
    (∀ t ∈ tokens, t.HoldsValue) ∧ Throughout (IsProper limit) depth tokens := by
  induction h with
  | nil depth => exact ⟨by simp, throughout_nil _ depth⟩
  | @token depth node rest token tokens hreading _ ih =>
    cases token with
    | none => exact ih
    | some t =>
      have hleaf : IsLeaf t := isLeaf_of_readingOf hreading
      refine ⟨List.forall_mem_cons.2 ⟨hleaf.text, ih.1⟩, throughout_cons_iff.2 ?_⟩
      refine ⟨hleaf.isProper limit depth, ?_, ih.2⟩
      rw [hleaf.childless]
      exact throughout_nil _ (depth + 1)
  | @container depth node rest children kind below inner tokens t hreading hchildren hbelow hinner
      htoken _ ihbelow ihrest =>
    obtain ⟨hnormal, hmem⟩ := isNormal_of_normalize ihbelow.1 hinner
    obtain ⟨hkind, hinside⟩ := ofContainer_spec htoken
    have hproper := isProper_of_ofContainer hreading hchildren hbelow hinner hnormal htoken
    have hchildren : Throughout (IsProper limit) (depth + 1) t.children := by
      rw [hinside]
      split
      · exact throughout_nil _ (depth + 1)
      · exact ihbelow.2.of_mem fun u hu => (hmem u hu).imp_right (isProper_of_ofValue limit _)
    refine ⟨List.forall_mem_cons.2 ⟨fun htext => ?_, ihrest.1⟩,
      throughout_cons_iff.2 ⟨hproper, hchildren, ihrest.2⟩⟩
    have hcontainer := mem_containerKinds_of_readingOf hreading
    rw [← hkind, htext] at hcontainer
    exact absurd hcontainer (by decide)

/-- Normal form adds nothing to the tokens but texts, and so they stay proper. -/
theorem Converted.throughout_normalize {below : List Token} (h : Converted limit depth nodes below)
    (htokens : normalize below = .ok tokens) :
    IsNormal tokens ∧ Throughout (IsProper limit) depth tokens := by
  obtain ⟨hholds, hproper⟩ := h.throughout
  obtain ⟨hnormal, hmem⟩ := isNormal_of_normalize hholds htokens
  exact ⟨hnormal, hproper.of_mem fun u hu => (hmem u hu).imp_right (isProper_of_ofValue limit _)⟩

/-- **Converted nodes form a proper tree.** The tokens are in normal form, and each token in the
tree is proper at the depth that it has. -/
theorem isProper_of_ofNodes? (h : ofNodes? nodes depth limit = .ok tokens) :
    IsNormal tokens ∧ ∀ level t, Occurs tokens level t → IsProper limit (depth + level) t := by
  obtain ⟨below, hbelow, htokens⟩ := ofNodes?_eq_ok_iff.1 h
  exact hbelow.throughout_normalize htokens

/-- A paragraph with styled text in styled text. -/
def strongParagraph : Markdown.Node :=
  .paragraph [.text "a", .softbreak,
    .strong [.emphasis [.text "b"], .text "c", .codespan "<"], .text ""]

/-- Where the inner style is too deep, its text is joined to the text beside it. -/
theorem isProper_strongParagraph : ∃ tokens,
    ofNodes? [strongParagraph.toJson] 0 1 = .ok tokens ∧
      tokens.flatMap (fun t => t.children.map plainText) = ["a\n", "bc<"] ∧ IsNormal tokens ∧
      ∀ level t, Occurs tokens level t → IsProper 1 (0 + level) t := by
  have hevaluated : (ofNodes? [strongParagraph.toJson] 0 1).toOption.map
      (fun tokens => tokens.flatMap fun t => t.children.map plainText) =
        some ["a\n", "bc<"] := by
    decide +kernel
  obtain ⟨tokens, htokens, htexts⟩ := exists_eq_ok_of_map hevaluated
  exact ⟨tokens, htokens, htexts, isProper_of_ofNodes? htokens⟩

end AlertBridge.Token
