import AlertBridge.Proofs.Token.NestedList
import AlertBridge.Proofs.Token.TreeText
import AlertBridge.Proofs.Token.VisibleText

/-!
# The Markdown that tokens were made of

From the tokens of a Markdown tree its inline Markdown can be written again: texts and raw HTML as
they were, code spans between backticks, styled text between its marks, and links and images with
their text and address. `sourceIn` says so of the nodes themselves. The escapes of a code span are
undone, texts that were merged are written one after the other, and a link is written with the text
that it holds, not with the Markdown of its children.

A node that lies too deep has become its text, without marks. So this is true of trees in which only
leaves lie too deep.

## Main definitions

* `sourceIn`: the Markdown of a node
* `Fits`: nodes of which no node with children lies too deep

## Main results

* `concat_markdownSource_of_ofNodes?`: the tokens give the Markdown of the nodes
* `fits_of_mem_toJsons`: documents of which nothing is cut
-/

namespace AlertBridge

namespace Token

open Json (fieldOf?)

/-! ## The Markdown of nodes -/

/-- The address of a link or an image: empty if there is none, and written out if it is null. -/
def addressIn (node : Json) : String :=
  match attributesOf node with
  | .ok (.obj attributes) => match fieldOf? attributes "url" with
    | some .null => "None"
    | _ => textUnder (.obj attributes) "url"
  | _ => ""

/-- The Markdown of a node of a type, around that of its children. -/
def sourceAround (type : String) (node : Json) (inner : String) : String :=
  match type with
  | "text" | "inline_html" => textUnder node "raw"
  | "codespan" => "`" ++ textUnder node "raw" ++ "`"
  | "softbreak" | "linebreak" => "\n"
  | "blank_line" | "thematic_break" => ""
  | "strong" => "**" ++ inner ++ "**"
  | "emphasis" => "_" ++ inner ++ "_"
  | "strikethrough" => "~~" ++ inner ++ "~~"
  | "link" => "[" ++ textOf node ++ "](" ++ addressIn node ++ ")"
  | "image" => "![" ++ textOf node ++ "](" ++ addressIn node ++ ")"
  | _ => inner

/-- The Markdown of a node. -/
def sourceIn (node : Json) : String :=
  sourceAround (textUnder node "type") node <|
    match _h : childrenOf node with
    | .ok children => concat (children.attach.map fun child => sourceIn child.1)
    | .error _ => ""
termination_by node.weight
decreasing_by exact weight_lt_of_childrenOf _h child.2

/-- A node `depth` levels down with nothing too deep: it lies no more than `limit` levels down if it
has children, and so do all nodes below it. -/
inductive Fits (limit : Int) : Int → Json → Prop where
  | intro {depth : Int} {node : Json} {children : List Json}
      (hchildren : childrenOf node = .ok children) (hdepth : children ≠ [] → depth ≤ limit)
      (hbelow : ∀ child ∈ children, Fits limit (depth + 1) child) : Fits limit depth node

variable {limit depth : Int} {fields : List (String × Json)} {type raw text : String}
  {node : Json} {nodes children : List Json} {kind : TokenKind} {t : Token}
  {tokens below inner : List Token}

theorem sourceIn_eq (htype : fieldOf? fields "type" = some (.str type))
    (hchildren : childrenOf (.obj fields) = .ok children) :
    sourceIn (.obj fields) = sourceAround type (.obj fields) (concat (children.map sourceIn)) := by
  rw [sourceIn, textUnder_of_fieldOf? htype]
  split
  · next found hfound =>
    obtain rfl := Except.ok.inj (hchildren.symm.trans hfound)
    rw [List.attach_map_val]
  · next hfault => simp [hchildren] at hfault

theorem Fits.of_childrenOf (h : Fits limit depth node) (hchildren : childrenOf node = .ok children) :
    (depth ≤ limit ∨ children = []) ∧ ∀ child ∈ children, Fits limit (depth + 1) child := by
  obtain ⟨hfound, hdepth, hbelow⟩ := h
  obtain rfl := Except.ok.inj (hfound.symm.trans hchildren)
  refine ⟨?_, hbelow⟩
  rw [or_iff_not_imp_right]
  exact hdepth

/-! ## The Markdown of tokens -/

theorem markdownSources_eq (ts : List Token) :
    markdownSources ts = concat (ts.map markdownSource) := by
  induction ts with
  | nil => rfl
  | cons t ts ih => rw [markdownSources, ih, List.map_cons, concat_cons]

theorem markdownSource_ofText (s : String) : (ofText s).markdownSource = s := rfl

/-- Styled text stands between its marks. -/
theorem markdownSource_of_marker {marker : String} (h : marker? t.kind = some marker) :
    t.markdownSource = marker ++ concat (t.children.map markdownSource) ++ marker := by
  obtain ⟨kind, text, children, href, title, ordered, level, foreign⟩ := t
  rw [← markdownSources_eq]
  cases kind <;> cases h <;> rfl

theorem markdownSource_of_link (h : t.kind = .link) :
    t.markdownSource = "[" ++ t.text ++ "](" ++ shownHref t.href ++ ")" := by
  cases t
  cases h
  rw [markdownSource]
  rfl

theorem markdownSource_of_image (h : t.kind = .image) :
    t.markdownSource = "![" ++ t.text ++ "](" ++ shownHref t.href ++ ")" := by
  cases t
  cases h
  rw [markdownSource]
  rfl

/-- The kinds of tokens that are written without marks. -/
def blockKinds : List TokenKind := [.heading, .paragraph, .blockquote, .listitem, .list]

/-- A block without a text of its own is the Markdown of its children. -/
theorem markdownSource_of_block (h : t.kind ∈ blockKinds) (htext : t.text = "") :
    t.markdownSource = concat (t.children.map markdownSource) := by
  obtain ⟨kind, text, children, href, title, ordered, level, foreign⟩ := t
  have hsame : markdownSource ⟨kind, text, children, href, title, ordered, level, foreign⟩ =
      if children.isEmpty then text else markdownSources children := by
    simp only [blockKinds, List.mem_cons, List.not_mem_nil, or_false] at h
    rcases h with rfl | rfl | rfl | rfl | rfl <;> rfl
  rw [hsame, markdownSources_eq]
  cases children with
  | nil => exact htext
  | cons child children => rfl

/-! ## Leaves -/

theorem sourceIn_leaf (htype : fieldOf? fields "type" = some (.str type))
    (hchildren : HasNoChildren fields) :
    sourceIn (.obj fields) = sourceAround type (.obj fields) "" := by
  rw [sourceIn_eq htype hchildren.childrenOf, List.map_nil, concat_nil]

/-- A node with a literal text is written with it. -/
theorem exists_source_literal (htype : fieldOf? fields "type" = some (.str type))
    (hmem : type ∈ literalTypes) (hraw : fieldOf? fields "raw" = some (.str raw))
    (hchildren : HasNoChildren fields) (limit depth : Int) :
    ∃ tokens text, Shows limit depth [.obj fields] tokens text ∧
      concat (tokens.map markdownSource) = sourceIn (.obj fields) := by
  rw [sourceIn_leaf htype hchildren]
  have htext : textUnder (.obj fields) "raw" = raw := textUnder_of_fieldOf? hraw
  simp only [literalTypes, List.mem_cons, List.not_mem_nil, or_false] at hmem
  rcases hmem with rfl | rfl | rfl
  · obtain ⟨tokens, hshows, htokens⟩ := shows_text htype hraw hchildren limit depth
    refine ⟨tokens, raw, hshows, ?_⟩
    have hsame : tokens.map markdownSource = tokens.map plainText := by
      refine List.map_congr_left fun t ht => ?_
      rw [htokens t ht, markdownSource_ofText, plainText_ofText]
    rw [hsame, hshows.plainText]
    exact htext.symm
  · refine ⟨_, raw, shows_codespan htype hraw hchildren limit depth, ?_⟩
    show "`" ++ unescapeHtml (escapeHtml raw) ++ "`" ++ "" = "`" ++ textUnder _ "raw" ++ "`"
    rw [unescapeHtml_escapeHtml, htext, String.append_empty]
  · refine ⟨_, raw, shows_inlineHtml htype hraw hchildren limit depth, ?_⟩
    have hsource : sourceAround "inline_html" (.obj fields) "" = textUnder (.obj fields) "raw" := rfl
    have htoken : markdownSource { kind := .html, text := raw } = raw := rfl
    rw [hsource, htext, List.map_singleton, htoken, concat_cons, concat_nil, String.append_empty]

/-- A node with nothing in it is written as a line end, or not at all. -/
theorem exists_source_empty (htype : fieldOf? fields "type" = some (.str type))
    (hmem : type ∈ emptyTypes) (hraw : fieldOf? fields "raw" = none)
    (hchildren : HasNoChildren fields) (limit depth : Int) :
    ∃ tokens text, Shows limit depth [.obj fields] tokens text ∧
      concat (tokens.map markdownSource) = sourceIn (.obj fields) := by
  rw [sourceIn_leaf htype hchildren]
  simp only [emptyTypes, List.mem_cons, List.not_mem_nil, or_false] at hmem
  rcases hmem with rfl | rfl | rfl | rfl
  · exact ⟨_, _, shows_softbreak htype hchildren limit depth, rfl⟩
  · exact ⟨_, _, shows_linebreak htype hraw hchildren limit depth, rfl⟩
  · exact ⟨_, _, shows_nothing htype (by decide) hraw hchildren limit depth, rfl⟩
  · exact ⟨_, _, shows_nothing htype (by decide) hraw hchildren limit depth, rfl⟩

/-! ## Holders -/

/-- The address of a link or an image is that of its node. -/
theorem shownHref_of_ofReference (hattributes : HasAttributes fields)
    (ht : ofReference kind inner (.obj fields) = .ok t) :
    shownHref t.href = addressIn (.obj fields) := by
  obtain ⟨attributes, hattrs, hfit⟩ := hattributes.attributesOf
  obtain ⟨found, hfound, ht⟩ := bind_eq_ok_iff.1 ht
  obtain rfl := Except.ok.inj (hattrs.symm.trans hfound)
  obtain ⟨text, -, ht⟩ := bind_eq_ok_iff.1 ht
  obtain ⟨url, hurl, ht⟩ := bind_eq_ok_iff.1 ht
  obtain ⟨title, -, ht⟩ := bind_eq_ok_iff.1 ht
  obtain rfl := Except.ok.inj ht
  rw [addressIn, hattrs]
  show shownHref (textField "href" url).1 = _
  cases hv : fieldOf? attributes "url" with
  | none =>
    obtain rfl := Except.ok.inj ((valueOf_of_none hv).symm.trans hurl)
    simp [textUnder, hv, textField, shownHref]
  | some v =>
    obtain rfl := Except.ok.inj ((valueOf_of_fieldOf? hv).symm.trans hurl)
    rcases hfit.url v hv with rfl | ⟨s, rfl⟩
    · simp [hv, textField, shownHref]
    · simp [textUnder, hv, textField, shownHref]

/-- The types of styled text. -/
def styledTypes : List String := ["strong", "emphasis", "strikethrough"]

/-- The types of nodes that are written as their children. -/
def blockTypes : List String :=
  ["heading", "paragraph", "block_text", "block_quote", "list", "list_item"]

section Container

variable (hkind : containerKind? (.str type) = some kind)
  (ht : ofContainer kind inner (.obj fields) = .ok t)

include hkind ht

theorem markdownSource_styled (hmem : type ∈ styledTypes) :
    t.markdownSource = sourceAround type (.obj fields) (concat (inner.map markdownSource)) := by
  obtain ⟨hsame, hinside⟩ := ofContainer_spec ht
  simp only [styledTypes, List.mem_cons, List.not_mem_nil, or_false] at hmem
  rcases hmem with rfl | rfl | rfl
  all_goals
    obtain rfl := Option.some.inj hkind
    rw [markdownSource_of_marker (by rw [hsame]; rfl), hinside]
    rfl

theorem markdownSource_block (hmem : type ∈ blockTypes)
    (htext : t.text = if kind = .link ∨ kind = .image then textOf (.obj fields) else "") :
    t.markdownSource = sourceAround type (.obj fields) (concat (inner.map markdownSource)) := by
  obtain ⟨hsame, hinside⟩ := ofContainer_spec ht
  simp only [blockTypes, List.mem_cons, List.not_mem_nil, or_false] at hmem
  rcases hmem with rfl | rfl | rfl | rfl | rfl | rfl
  all_goals
    obtain rfl := Option.some.inj hkind
    rw [markdownSource_of_block (by rw [hsame]; decide) (htext.trans (if_neg (by decide))), hinside]
    rfl

/-- The token of a holder is written around what is below it as the node is. -/
theorem markdownSource_holder (hmem : type ∈ holderTypes) (hattributes : HasAttributes fields)
    (htext : t.text = if kind = .link ∨ kind = .image then textOf (.obj fields) else "") :
    t.markdownSource = sourceAround type (.obj fields) (concat (inner.map markdownSource)) := by
  have hgroups : ∀ type ∈ holderTypes,
      type ∈ styledTypes ∨ type = "link" ∨ type = "image" ∨ type ∈ blockTypes := by decide
  rcases hgroups type hmem with hstyled | rfl | rfl | hblock
  · exact markdownSource_styled hkind ht hstyled
  · obtain rfl := Option.some.inj hkind
    rw [markdownSource_of_link (ofContainer_spec ht).1, htext,
      shownHref_of_ofReference hattributes ht]
    rfl
  · obtain rfl := Option.some.inj hkind
    rw [markdownSource_of_image (ofContainer_spec ht).1, htext,
      shownHref_of_ofReference hattributes ht]
    rfl
  · exact markdownSource_block hkind ht hblock htext

end Container

/-! ## Trees -/

/-- The Markdown of nodes adds up, as does that of their tokens. -/
theorem exists_source_all (h : ∀ node ∈ nodes, ∃ tokens text,
      Shows limit depth [node] tokens text ∧ concat (tokens.map markdownSource) = sourceIn node) :
    ∃ tokens text, Shows limit depth nodes tokens text ∧
      concat (tokens.map markdownSource) = concat (nodes.map sourceIn) := by
  apply exists_shows (R := fun nodes tokens =>
    concat (tokens.map markdownSource) = concat (nodes.map sourceIn))
  · rfl
  · intro ns ns' ts ts' hfirst hmore
    rw [List.map_append, List.map_append, concat_append, concat_append, hfirst, hmore]
  · intro node hnode
    obtain ⟨tokens, text, hshows, hsource⟩ := h node hnode
    refine ⟨tokens, text, hshows, ?_⟩
    rw [hsource, List.map_singleton, concat_cons, concat_nil, String.append_empty]

/-- Every node that fits becomes tokens that give its Markdown. -/
theorem IsNode.exists_source (h : IsNode node) (hfits : Fits limit depth node) :
    ∃ tokens text, Shows limit depth [node] tokens text ∧
      concat (tokens.map markdownSource) = sourceIn node := by
  induction h generalizing depth with
  | literal htype hmem hraw hchildren _ =>
    exact exists_source_literal htype hmem hraw hchildren limit depth
  | empty htype hmem hraw hchildren _ =>
    exact exists_source_empty htype hmem hraw hchildren limit depth
  | @holder fields type children htype hmem hraw hchildren hattributes _ ih =>
    have hnodes := childrenOf_of_fieldOf? hchildren
    obtain ⟨hdepth, hfits⟩ := hfits.of_childrenOf hnodes
    obtain ⟨below, text, hbelow, hsource⟩ :=
      exists_source_all fun child hchild => ih child hchild (hfits child hchild)
    obtain ⟨kind, hkind⟩ := Option.isSome_iff_exists.1 (kind_of_mem_holderTypes type hmem).1
    have hreads := reads_holder htype hmem hraw hchildren hbelow.reads
    obtain ⟨t, ht, hforeign, htext⟩ :=
      exists_ofContainer hattributes hreads kind (mergeText below)
    refine ⟨[t], text, shows_of_ofContainer htype hmem hraw hchildren hkind hbelow hdepth ht
      hforeign htext, ?_⟩
    rw [← textOf_of_reads hreads] at htext
    rw [List.map_singleton, concat_cons, concat_nil, String.append_empty,
      markdownSource_holder hkind ht hmem hattributes htext, sourceIn_eq htype hnodes,
      concat_map_mergeText markdownSource_ofText hbelow.converted.throughout.1, hsource]

end Token

/-! ## Documents -/

namespace Markdown.Node

open Token (Fits childrenOf)

variable {limit depth : Int}

theorem fits_of_no_children {node : Json} (h : childrenOf node = .ok []) (limit depth : Int) :
    Fits limit depth node :=
  .intro h (fun hne => absurd rfl hne) nofun

/-- A node that is not cut does not lie too deep. -/
theorem fits_of_cutOr {node : Json} {type : String} {ns : List Node} {below : List String}
    (hchildren : childrenOf node = .ok (toJsons ns))
    (h : cuts.cutOr limit depth type ns below = [])
    (hbelow : below = [] → ∀ child ∈ toJsons ns, Fits limit (depth + 1) child) :
    Fits limit depth node := by
  rw [cuts.cutOr] at h
  split at h
  · cases h
  · next hkept =>
    refine .intro hchildren (fun hne => ?_) (hbelow h)
    cases ns with
    | nil => exact absurd rfl hne
    | cons n rest => simpa using hkept

mutual

/-- A node fits if nothing is cut in it. -/
theorem fits_toJson (n : Node) (limit depth : Int) (h : n.cuts limit depth = []) :
    Fits limit depth n.toJson := by
  cases n with
  | text | codespan | inlineHtml | blockCode | blockHtml | softbreak | linebreak | blankLine
  | thematicBreak => exact fits_of_no_children rfl limit depth
  | strong ns | emphasis ns | strikethrough ns | paragraph ns | blockText ns | blockQuote ns
  | listItem ns | link url title ns | image url title ns | heading level ns | list ordered ns =>
    exact fits_of_cutOr rfl h (fits_of_mem_toJsons ns limit (depth + 1))

/-- Nodes fit if nothing is cut in any of them. -/
theorem fits_of_mem_toJsons (ns : List Node) (limit depth : Int)
    (h : cutsAll limit depth ns = []) : ∀ node ∈ toJsons ns, Fits limit depth node := by
  cases ns with
  | nil => exact nofun
  | cons n rest =>
    obtain ⟨hn, hrest⟩ := List.append_eq_nil_iff.1 h
    intro node hnode
    rcases List.mem_cons.1 hnode with rfl | hnode
    · exact fits_toJson n limit depth hn
    · exact fits_of_mem_toJsons rest limit depth hrest node hnode

end

end Markdown.Node

namespace Token

variable {limit depth : Int} {nodes : List Json}

/-- **The tokens give the Markdown of the nodes.** A proper tree in which only leaves lie too deep is
converted, and the Markdown of its tokens, one after the other, is that of its nodes. -/
theorem concat_markdownSource_of_ofNodes? (h : ∀ node ∈ nodes, IsNode node)
    (hfits : ∀ node ∈ nodes, Fits limit depth node) :
    ∃ tokens, ofNodes? nodes depth limit = .ok tokens ∧
      concat (tokens.map markdownSource) = concat (nodes.map sourceIn) := by
  obtain ⟨below, text, hshows, hsource⟩ :=
    exists_source_all fun node hnode => (h node hnode).exists_source (hfits node hnode)
  obtain ⟨hnormalize, -, -⟩ := hshows.normalize
  refine ⟨mergeText below, ofNodes?_eq_ok_iff.2 ⟨below, hshows.converted, hnormalize⟩, ?_⟩
  rw [concat_map_mergeText markdownSource_ofText hshows.converted.throughout.1, hsource]

/-- A list with an item of inline nodes of every type. -/
def styledList : Markdown.Node :=
  .list false [.listItem [.blockText [.strong [.text "a"], .text " ", .emphasis [.text "b"],
    .softbreak, .strikethrough [.text "c"], .linebreak, .codespan "d < &lt;", .text "", .inlineHtml "<i>",
    .link "u" none [.strong [.text "e"], .text "f"], .image "i" none [.text "g"]]]]

/-- Nothing in it lies too deep under a limit of four levels, and it is written as it was. -/
theorem concat_markdownSource_styledList :
    (∀ node ∈ [styledList.toJson], IsNode node) ∧
      (∀ node ∈ [styledList.toJson], Fits 4 0 node) ∧
      ∃ tokens, ofNodes? [styledList.toJson] 0 4 = .ok tokens ∧
        concat (tokens.map markdownSource) =
          "**a** _b_\n~~c~~\n`d < &lt;`<i>[ef](u)![g](i)" := by
  have hnodes : ∀ node ∈ [styledList.toJson], IsNode node :=
    Markdown.Node.isNode_of_mem_toJsons [styledList] rfl
  have hfits : ∀ node ∈ [styledList.toJson], Fits 4 0 node :=
    Markdown.Node.fits_of_mem_toJsons [styledList] 4 0 rfl
  obtain ⟨tokens, htokens, hsource⟩ := concat_markdownSource_of_ofNodes? hnodes hfits
  have hevaluated : concat ([styledList.toJson].map sourceIn) =
      "**a** _b_\n~~c~~\n`d < &lt;`<i>[ef](u)![g](i)" := by
    decide +kernel
  exact ⟨hnodes, hfits, tokens, htokens, hsource.trans hevaluated⟩

end Token

end AlertBridge
