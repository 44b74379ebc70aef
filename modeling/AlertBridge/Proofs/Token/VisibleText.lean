import AlertBridge.Proofs.Markdown.Prose
import AlertBridge.Proofs.Token.Escape
import AlertBridge.Proofs.Token.NodeTree
import AlertBridge.Proofs.Token.PlainText
import AlertBridge.Proofs.Token.Shape

/-!
# The conversion keeps the visible text

What is seen of the tokens of a proper Markdown tree is the text that the nodes hold, whatever the
limit: a node that lies too deep becomes the text that would have been seen of its tokens. The
escapes of a code span are undone when it is read, texts that are merged are read one after the
other anyway, and a link or an image has its text twice, as the text that it shows and as that of
its children.

The induction is on the tree of nodes. `Shows` is what it carries from the children to a node.

Main statement: `concat_plainText_of_ofNodes?`.
-/

namespace AlertBridge.Token

open Json (fieldOf?)

/-- A token that holds text wherever text is expected, and that, if it is a link, shows the text of
its children. -/
structure IsFaithful (t : Token) : Prop where
  foreign : t.foreign = []
  link : t.kind = .link → t.plainText = t.text

/-- Nodes with a text become tokens of which this text is seen. -/
structure Shows (limit depth : Int) (nodes : List Json) (tokens : List Token) (text : String) :
    Prop where
  reads : Reads nodes text
  converted : Converted limit depth nodes tokens
  plainText : concat (tokens.map plainText) = text
  faithful : Throughout (fun _ => IsFaithful) depth tokens

variable {limit depth : Int} {node : Json} {nodes nodes' : List Json} {t : Token}
  {tokens tokens' below : List Token} {text text' : String}

theorem shows_nil (limit depth : Int) : Shows limit depth [] [] "" :=
  ⟨reads_nil, .nil depth, rfl, throughout_nil _ depth⟩

theorem Shows.append (h : Shows limit depth nodes tokens text)
    (h' : Shows limit depth nodes' tokens' text') :
    Shows limit depth (nodes ++ nodes') (tokens ++ tokens') (text ++ text') where
  reads := h.reads.append h'.reads
  converted := h.converted.append h'.converted
  plainText := by rw [List.map_append, concat_append, h.plainText, h'.plainText]
  faithful := h.faithful.append h'.faithful

/-- If each node becomes tokens of which its text is seen, then so do all of them. What adds up for
nodes and tokens one after the other, and is true of each node and its tokens, is true of all. -/
theorem exists_shows {R : List Json → List Token → Prop} (hnil : R [] [])
    (happend : ∀ {ns ns' ts ts'}, R ns ts → R ns' ts' → R (ns ++ ns') (ts ++ ts'))
    (h : ∀ node ∈ nodes, ∃ tokens text, Shows limit depth [node] tokens text ∧ R [node] tokens) :
    ∃ tokens text, Shows limit depth nodes tokens text ∧ R nodes tokens := by
  induction nodes with
  | nil => exact ⟨[], "", shows_nil limit depth, hnil⟩
  | cons node rest ih =>
    obtain ⟨hnode, hrest⟩ := List.forall_mem_cons.1 h
    obtain ⟨first, text, hfirst, hR⟩ := hnode
    obtain ⟨more, text', hmore, hR'⟩ := ih hrest
    exact ⟨first ++ more, text ++ text', hfirst.append hmore, happend hR hR'⟩

theorem exists_shows_forall {P : Token → Prop}
    (h : ∀ node ∈ nodes, ∃ tokens text, Shows limit depth [node] tokens text ∧
      ∀ t ∈ tokens, P t) :
    ∃ tokens text, Shows limit depth nodes tokens text ∧ ∀ t ∈ tokens, P t :=
  exists_shows (R := fun _ tokens => ∀ t ∈ tokens, P t) (by simp)
    (fun h h' t ht => (List.mem_append.1 ht).elim (h t) (h' t)) h

theorem exists_shows_all
    (h : ∀ node ∈ nodes, ∃ tokens text, Shows limit depth [node] tokens text) :
    ∃ tokens text, Shows limit depth nodes tokens text := by
  obtain ⟨tokens, text, hshows, -⟩ := exists_shows_forall (P := fun _ => True) (by simpa using h)
  exact ⟨tokens, text, hshows⟩

/-! ## Normal form -/

theorem plainText_ofText (s : String) : (ofText s).plainText = s := by
  rw [plainText_of_children_eq_nil rfl]
  rfl

section Reading

/- A reading of tokens that gives the texts of texts. -/
variable {f : Token → String} (hf : ∀ s, f (ofText s) = s)

include hf

theorem concat_map_consMerged (ht : t.HoldsValue) (hts : ∀ u ∈ tokens, u.HoldsValue) :
    concat ((consMerged t tokens).map f) = f t ++ concat (tokens.map f) := by
  cases htext : t.isText with
  | false => rw [consMerged_of_ne_text htext, List.map_cons, concat_cons]
  | true =>
    have hread : f t = t.text := by rw [ht.eq_ofText htext, hf, ofText]
    by_cases hempty : t.text = ""
    · rw [consMerged_of_empty htext hempty, hread, hempty, String.empty_append]
    rcases consMerged_of_text htext hempty tokens with ⟨u, rest, rfl, hu, heq⟩ | ⟨-, heq⟩
    · have hread' : f u = u.text := by rw [(hts u List.mem_cons_self).eq_ofText hu, hf, ofText]
      rw [heq, List.map_cons, concat_cons, hf, List.map_cons, concat_cons, hread, hread',
        String.append_assoc]
    · rw [heq, List.map_cons, concat_cons]

/-- What is read of tokens, one after the other, stays in normal form. -/
theorem concat_map_mergeText (h : ∀ t ∈ tokens, t.HoldsValue) :
    concat ((mergeText tokens).map f) = concat (tokens.map f) := by
  induction tokens with
  | nil => rfl
  | cons t ts ih =>
    obtain ⟨ht, hts⟩ := List.forall_mem_cons.1 h
    have hmerged : ∀ u ∈ mergeText ts, u.HoldsValue :=
      forall_mem_mergeText (fun s => (isLeaf_ofValue (.str s)).text) hts
    rw [mergeText, concat_map_consMerged hf ht hmerged, ih hts, List.map_cons, concat_cons]

end Reading

theorem kind_ofText_ne_link (s : String) : (ofText s).kind ≠ .link := by
  intro h
  cases h

theorem isFaithful_ofText (s : String) : IsFaithful (ofText s) :=
  ⟨rfl, fun h => absurd h (kind_ofText_ne_link s)⟩

/-- Where all texts hold text, normal form is reached by merging, and all stays as it is. -/
theorem Shows.normalize (h : Shows limit depth nodes tokens text) :
    normalize tokens = .ok (mergeText tokens) ∧
      concat ((mergeText tokens).map Token.plainText) = text ∧
      Throughout (fun _ => IsFaithful) depth (mergeText tokens) := by
  refine ⟨?_, ?_, ?_⟩
  · have hpure : ¬ tokens.any isForeignText = true := by
      rw [List.any_eq_true]
      rintro ⟨t, ht, hforeign⟩
      simp [isForeignText, (h.faithful.of_mem_root ht).foreign] at hforeign
    rw [Token.normalize, if_neg hpure]
  · rw [concat_map_mergeText plainText_ofText h.converted.throughout.1, h.plainText]
  · refine h.faithful.of_mem fun u hu => ?_
    refine (mem_or_text_of_mem_mergeText hu).imp_right ?_
    rintro ⟨s, rfl⟩
    exact ⟨isFaithful_ofText s, rfl⟩

/-! ## Nodes without children -/

theorem valueOf_of_fieldOf? {fields : List (String × Json)} {name : String} {v : Json}
    (h : fieldOf? fields name = some v) : valueOf (.obj fields) name = .ok v := by
  rw [valueOf, h, Option.getD_some]

theorem valueOf_of_none {fields : List (String × Json)} {name : String}
    (h : fieldOf? fields name = none) : valueOf (.obj fields) name = .ok (.str "") := by
  rw [valueOf, h, Option.getD_none]

/-- A node becomes one token, in which nothing is below and nothing else than text. -/
theorem shows_of_token (hreads : Reads [node] text)
    (hreading : readingOf limit depth node = .ok (.token (some t))) (hplain : t.plainText = text)
    (hchildren : t.children = []) (hforeign : t.foreign = []) (hlink : t.kind ≠ .link) :
    Shows limit depth [node] [t] text where
  reads := hreads
  converted := .token hreading (.nil depth)
  plainText := by rw [List.map_singleton, concat_cons, concat_nil, hplain, String.append_empty]
  faithful := by
    refine throughout_cons_iff.2 ⟨⟨hforeign, fun h => absurd h hlink⟩, ?_, throughout_nil _ depth⟩
    rw [hchildren]
    exact throughout_nil _ (depth + 1)

/-- A node of which nothing is seen becomes no token. -/
theorem shows_of_no_token (hreads : Reads [node] "")
    (hreading : readingOf limit depth node = .ok (.token none)) : Shows limit depth [node] [] "" :=
  ⟨hreads, .token hreading (.nil depth), rfl, throughout_nil _ depth⟩

section Leaf

variable {fields : List (String × Json)} {type raw : String}

/-- A node without children is never too deep, and one that is no container becomes a leaf. -/
theorem readingOf_of_no_children {token : Option Token}
    (htype : fieldOf? fields "type" = some (.str type)) (hchildren : HasNoChildren fields)
    (hkind : containerKind? (.str type) = none)
    (hleaf : ofLeaf (.str type) (.obj fields) = .ok token) (limit depth : Int) :
    readingOf limit depth (.obj fields) = .ok (.token token) := by
  obtain ⟨v, hv, hfalsy⟩ := hchildren.get
  unfold readingOf
  rw [get_of_fieldOf? htype, hv]
  simp only [bind, Except.bind, hfalsy, Bool.and_false, Bool.false_eq_true, if_false, hkind,
    Json.isKey, Bool.not_true, hleaf]
  split <;> rfl

/-- A text shows itself. There is no token of it if it is empty. -/
theorem shows_text (htype : fieldOf? fields "type" = some (.str "text"))
    (hraw : fieldOf? fields "raw" = some (.str raw)) (hchildren : HasNoChildren fields)
    (limit depth : Int) :
    ∃ tokens, Shows limit depth [.obj fields] tokens raw ∧ ∀ t ∈ tokens, t = ofText raw := by
  have hvalue := valueOf_of_fieldOf? hraw
  have hreads := reads_of_no_children hchildren.childrenOf htype hvalue
  by_cases hempty : raw = ""
  · subst hempty
    have hleaf : ofLeaf (.str "text") (.obj fields) = .ok none :=
      bind_eq_ok_iff.2 ⟨.str "", hvalue, rfl⟩
    exact ⟨[], shows_of_no_token hreads
      (readingOf_of_no_children htype hchildren rfl hleaf limit depth), by simp⟩
  · have hleaf : ofLeaf (.str "text") (.obj fields) = .ok (some (ofText raw)) := by
      have htruthy : (Json.str raw).truthy = true := by simpa [Json.truthy] using hempty
      exact bind_eq_ok_iff.2 ⟨.str raw, hvalue, by rw [if_pos htruthy]; rfl⟩
    refine ⟨[ofText raw], shows_of_token hreads
      (readingOf_of_no_children htype hchildren rfl hleaf limit depth) (plainText_ofText raw)
      rfl rfl (kind_ofText_ne_link raw), by simp⟩

/-- A code span shows its text, as the escapes are undone. -/
theorem shows_codespan (htype : fieldOf? fields "type" = some (.str "codespan"))
    (hraw : fieldOf? fields "raw" = some (.str raw)) (hchildren : HasNoChildren fields)
    (limit depth : Int) :
    Shows limit depth [.obj fields] [{ kind := .codespan, text := escapeHtml raw }] raw := by
  have hvalue := valueOf_of_fieldOf? hraw
  have hleaf : ofLeaf (.str "codespan") (.obj fields) =
      .ok (some { kind := .codespan, text := escapeHtml raw }) :=
    bind_eq_ok_iff.2 ⟨.str raw, hvalue, bind_eq_ok_iff.2 ⟨raw, rfl, rfl⟩⟩
  refine shows_of_token (reads_of_no_children hchildren.childrenOf htype hvalue)
    (readingOf_of_no_children htype hchildren rfl hleaf limit depth) ?_ rfl rfl nofun
  rw [plainText_of_children_eq_nil rfl]
  exact unescapeHtml_escapeHtml raw

/-- Raw HTML shows itself. -/
theorem shows_inlineHtml (htype : fieldOf? fields "type" = some (.str "inline_html"))
    (hraw : fieldOf? fields "raw" = some (.str raw)) (hchildren : HasNoChildren fields)
    (limit depth : Int) : Shows limit depth [.obj fields] [{ kind := .html, text := raw }] raw := by
  have hvalue := valueOf_of_fieldOf? hraw
  have hleaf : ofLeaf (.str "inline_html") (.obj fields) =
      .ok (some { kind := .html, text := raw }) :=
    bind_eq_ok_iff.2 ⟨.str raw, hvalue, rfl⟩
  refine shows_of_token (reads_of_no_children hchildren.childrenOf htype hvalue)
    (readingOf_of_no_children htype hchildren rfl hleaf limit depth) ?_ rfl rfl nofun
  rw [plainText_of_children_eq_nil rfl]
  rfl

/-- A soft line break shows a line end. -/
theorem shows_softbreak (htype : fieldOf? fields "type" = some (.str "softbreak"))
    (hchildren : HasNoChildren fields) (limit depth : Int) :
    Shows limit depth [.obj fields] [ofText "\n"] "\n" :=
  shows_of_token (reads_of_no_children hchildren.childrenOf htype rfl)
    (readingOf_of_no_children htype hchildren rfl rfl limit depth) (plainText_ofText "\n") rfl rfl
    (kind_ofText_ne_link "\n")

/-- Nothing is seen of a line break. -/
theorem shows_linebreak (htype : fieldOf? fields "type" = some (.str "linebreak"))
    (hraw : fieldOf? fields "raw" = none) (hchildren : HasNoChildren fields) (limit depth : Int) :
    Shows limit depth [.obj fields] [{ kind := .br }] "" := by
  refine shows_of_token (reads_of_no_children hchildren.childrenOf htype (valueOf_of_none hraw))
    (readingOf_of_no_children htype hchildren rfl rfl limit depth) ?_ rfl rfl nofun
  rw [plainText_of_children_eq_nil rfl]
  rfl

/-- There is no token of a node of which nothing is shown. -/
theorem shows_nothing (htype : fieldOf? fields "type" = some (.str type))
    (hmem : type ∈ ["blank_line", "thematic_break"]) (hraw : fieldOf? fields "raw" = none)
    (hchildren : HasNoChildren fields) (limit depth : Int) :
    Shows limit depth [.obj fields] [] "" := by
  have hvalue := valueOf_of_none hraw
  simp only [List.mem_cons, List.not_mem_nil, or_false] at hmem
  rcases hmem with rfl | rfl
  all_goals
    exact shows_of_no_token (reads_of_no_children hchildren.childrenOf htype hvalue)
      (readingOf_of_no_children htype hchildren rfl rfl limit depth)

/-- A node with a literal text shows it. -/
theorem shows_literal (htype : fieldOf? fields "type" = some (.str type))
    (hmem : type ∈ literalTypes) (hraw : fieldOf? fields "raw" = some (.str raw))
    (hchildren : HasNoChildren fields) (limit depth : Int) :
    ∃ tokens, Shows limit depth [.obj fields] tokens raw := by
  simp only [literalTypes, List.mem_cons, List.not_mem_nil, or_false] at hmem
  rcases hmem with rfl | rfl | rfl
  · obtain ⟨tokens, hshows, -⟩ := shows_text htype hraw hchildren limit depth
    exact ⟨tokens, hshows⟩
  · exact ⟨_, shows_codespan htype hraw hchildren limit depth⟩
  · exact ⟨_, shows_inlineHtml htype hraw hchildren limit depth⟩

/-- A node with nothing in it shows nothing, or a line end. -/
theorem shows_empty (htype : fieldOf? fields "type" = some (.str type)) (hmem : type ∈ emptyTypes)
    (hraw : fieldOf? fields "raw" = none) (hchildren : HasNoChildren fields) (limit depth : Int) :
    ∃ tokens text, Shows limit depth [.obj fields] tokens text := by
  simp only [emptyTypes, List.mem_cons, List.not_mem_nil, or_false] at hmem
  rcases hmem with rfl | rfl | hmem
  · exact ⟨_, _, shows_softbreak htype hchildren limit depth⟩
  · exact ⟨_, _, shows_linebreak htype hraw hchildren limit depth⟩
  · exact ⟨_, _, shows_nothing htype (by simpa using hmem) hraw hchildren limit depth⟩

end Leaf

/-! ## Nodes that hold others -/

section Holder

variable {fields : List (String × Json)} {type : String} {kind : TokenKind} {children : List Json}
  {inner : List Token}

/-- The types of holders are those of containers, and none of them is looked at before. -/
theorem kind_of_mem_holderTypes : ∀ type ∈ holderTypes,
    (containerKind? (.str type)).isSome ∧ leafTypes.any (isType (.str type)) = false := by
  decide

/-- A node that holds others keeps its structure unless it lies too deep. -/
theorem readingOf_holder (htype : fieldOf? fields "type" = some (.str type))
    (hmem : type ∈ holderTypes) (hkind : containerKind? (.str type) = some kind)
    (hchildren : fieldOf? fields "children" = some (.arr children))
    (hdepth : depth ≤ limit ∨ children = []) :
    readingOf limit depth (.obj fields) = .ok (.container kind) := by
  have hkeeps : (decide (depth > limit) && (Json.arr children).truthy) = false := by
    rcases hdepth with hdepth | rfl
    · simp [Int.not_lt.2 hdepth]
    · simp [Json.truthy]
  unfold readingOf
  rw [get_of_fieldOf? htype, get_of_fieldOf? hchildren]
  simp only [bind, Except.bind, hkeeps, (kind_of_mem_holderTypes type hmem).2, Bool.false_eq_true,
    if_false, Json.isKey, Bool.not_true, hkind]
  rfl

/-- One that lies too deep becomes the text that it holds. -/
theorem readingOf_too_deep (htype : fieldOf? fields "type" = some (.str type))
    (hchildren : fieldOf? fields "children" = some (.arr children)) (hdepth : limit < depth)
    (hne : children ≠ []) (hreads : Reads [.obj fields] text) :
    readingOf limit depth (.obj fields) = .ok (.token (some (ofText text))) := by
  have hcut : (decide (depth > limit) && (Json.arr children).truthy) = true := by
    simpa [Json.truthy, hne] using hdepth
  unfold readingOf
  rw [get_of_fieldOf? htype, get_of_fieldOf? hchildren]
  simp only [bind, Except.bind, hcut, if_true, flatten_eq_ok_iff.2 hreads]
  rfl

theorem exists_ofReference (hattributes : HasAttributes fields)
    (hreads : Reads [.obj fields] text) (kind : TokenKind) (inner : List Token) :
    ∃ t, ofReference kind inner (.obj fields) = .ok t ∧ t.foreign = [] ∧ t.text = text := by
  obtain ⟨attributes, hattrs, hfit⟩ := hattributes.attributesOf
  have hnone {name : String} {v : Json} (h : v = .null ∨ ∃ s, v = .str s) :
      (textField name v).2 = [] := by
    rcases h with rfl | ⟨s, rfl⟩ <;> rfl
  obtain ⟨url, hurl, hhref⟩ : ∃ v, valueOf (.obj attributes) "url" = .ok v ∧
      (textField "href" v).2 = [] := by
    cases hv : fieldOf? attributes "url" with
    | none => exact ⟨_, valueOf_of_none hv, rfl⟩
    | some v => exact ⟨v, valueOf_of_fieldOf? hv, hnone (hfit.url v hv)⟩
  obtain ⟨title, htitle, hforeign⟩ : ∃ v, Json.get (.obj attributes) "title" = .ok v ∧
      (textField "title" v).2 = [] := by
    rw [get_obj]
    cases hv : fieldOf? attributes "title" with
    | none => exact ⟨.null, rfl, rfl⟩
    | some v => exact ⟨v, rfl, hnone (hfit.title v hv)⟩
  unfold ofReference
  simp only [bind, Except.bind, hattrs, flatten_eq_ok_iff.2 hreads, hurl, htitle]
  exact ⟨_, rfl, by rw [hhref, hforeign, List.append_nil], rfl⟩

/-- The token of a holder is there: with the text of the node if it shows that by itself, and
otherwise without a text of its own. -/
theorem exists_ofContainer (hattributes : HasAttributes fields)
    (hreads : Reads [.obj fields] text) (kind : TokenKind) (inner : List Token) :
    ∃ t, ofContainer kind inner (.obj fields) = .ok t ∧ t.foreign = [] ∧
      t.text = if kind = .link ∨ kind = .image then text else "" := by
  obtain ⟨attributes, hattrs, hfit⟩ := hattributes.attributesOf
  cases kind with
  | link => exact exists_ofReference hattributes hreads .link inner
  | image => exact exists_ofReference hattributes hreads .image inner
  | heading =>
    obtain ⟨level, hlevel⟩ : ∃ level, levelOf (.obj fields) = .ok level := by
      rw [levelOf, hattrs]
      cases hv : fieldOf? attributes "level" with
      | none => exact ⟨1, by simp [bind, Except.bind, hv, Json.toInt]⟩
      | some v =>
        obtain ⟨level, rfl⟩ := hfit.level v hv
        exact ⟨level, by simp [bind, Except.bind, hv, Json.toInt]⟩
    exact ⟨_, bind_eq_ok_iff.2 ⟨level, hlevel, rfl⟩, rfl, rfl⟩
  | list =>
    have hordered := get_obj attributes "ordered"
    exact ⟨_, bind_eq_ok_iff.2 ⟨_, hattrs, bind_eq_ok_iff.2 ⟨_, hordered, rfl⟩⟩, rfl, rfl⟩
  | _ => exact ⟨_, rfl, rfl, rfl⟩

/-- What is seen of a container is what is seen of its children, if it has any. Otherwise it is its
own text, which is empty unless it is a link or an image. -/
theorem plainText_container {t : Token}
    (hchildren : t.children = if t.kind = .image then [] else inner)
    (htext : t.text = if t.kind = .link ∨ t.kind = .image then text else "")
    (hinner : concat (inner.map plainText) = text) : t.plainText = text := by
  by_cases hnil : t.children = []
  · by_cases hreference : t.kind = .link ∨ t.kind = .image
    · have htrue : t.isReference = true := by simpa [isReference] using hreference
      rw [plainText_of_children_eq_nil hnil, if_pos htrue, htext, if_pos hreference]
    · obtain ⟨-, himage⟩ := not_or.1 hreference
      rw [hnil, if_neg himage] at hchildren
      rw [plainText_of_empty hnil (htext.trans (if_neg hreference)), ← hinner, ← hchildren]
      rfl
  · have himage : t.kind ≠ .image := fun h => hnil (by rw [hchildren, if_pos h])
    rw [plainText_of_children_ne_nil hnil, hchildren, if_neg himage, hinner]

/-- The text of a holder is that of its children. -/
theorem reads_holder (htype : fieldOf? fields "type" = some (.str type))
    (hmem : type ∈ holderTypes) (hraw : fieldOf? fields "raw" = none)
    (hchildren : fieldOf? fields "children" = some (.arr children)) (hreads : Reads children text) :
    Reads [.obj fields] text := by
  have hnodes := childrenOf_of_fieldOf? hchildren
  cases children with
  | nil =>
    obtain ⟨parts, hparts, rfl⟩ := hreads
    rw [flattenParts] at hparts
    obtain rfl := List.map_eq_nil_iff.1 (Except.ok.inj hparts).symm
    refine reads_of_no_children hnodes htype ?_
    have hbreak : ¬ isType (.str type) "softbreak" = true :=
      List.any_eq_false.1 (kind_of_mem_holderTypes type hmem).2 "softbreak" (by decide)
    rw [leafPart, if_neg hbreak]
    exact valueOf_of_none hraw
  | cons child children => exact reads_of_children hnodes hreads

/-- The token of a holder that does not lie too deep holds the tokens of its children, and shows
their text. -/
theorem shows_of_ofContainer {t : Token} (htype : fieldOf? fields "type" = some (.str type))
    (hmem : type ∈ holderTypes) (hraw : fieldOf? fields "raw" = none)
    (hchildren : fieldOf? fields "children" = some (.arr children))
    (hkind : containerKind? (.str type) = some kind)
    (hbelow : Shows limit (depth + 1) children below text)
    (hdepth : depth ≤ limit ∨ children = [])
    (ht : ofContainer kind (mergeText below) (.obj fields) = .ok t) (hforeign : t.foreign = [])
    (htext : t.text = if kind = .link ∨ kind = .image then text else "") :
    Shows limit depth [.obj fields] [t] text := by
  have hreads := reads_holder htype hmem hraw hchildren hbelow.reads
  have hreading := readingOf_holder htype hmem hkind hchildren hdepth
  obtain ⟨hnormalize, hplain, hfaithful⟩ := hbelow.normalize
  obtain ⟨rfl, hinside⟩ := ofContainer_spec ht
  have hseen : t.plainText = text := plainText_container hinside htext hplain
  refine ⟨hreads, ?_, ?_, throughout_cons_iff.2 ⟨⟨hforeign, fun hlink => ?_⟩, ?_, ?_⟩⟩
  · exact .container hreading (childrenOf_of_fieldOf? hchildren) hbelow.converted hnormalize ht
      (.nil depth)
  · rw [List.map_singleton, concat_cons, concat_nil, hseen, String.append_empty]
  · rw [hseen, htext, if_pos (.inl hlink)]
  · rw [hinside]
    split
    · exact throughout_nil _ (depth + 1)
    · exact hfaithful
  · exact throughout_nil _ depth

/-- A node that holds others and does not lie too deep becomes a token that holds theirs. -/
theorem shows_holder_of_le (htype : fieldOf? fields "type" = some (.str type))
    (hmem : type ∈ holderTypes) (hraw : fieldOf? fields "raw" = none)
    (hchildren : fieldOf? fields "children" = some (.arr children))
    (hattributes : HasAttributes fields) (hkind : containerKind? (.str type) = some kind)
    (hbelow : Shows limit (depth + 1) children below text)
    (hdepth : depth ≤ limit ∨ children = []) :
    ∃ t, Shows limit depth [.obj fields] [t] text ∧ t.kind = kind ∧
      (t.children = if kind = .image then [] else mergeText below) ∧
      t.text = if kind = .link ∨ kind = .image then text else "" := by
  have hreads := reads_holder htype hmem hraw hchildren hbelow.reads
  obtain ⟨t, ht, hforeign, htext⟩ := exists_ofContainer hattributes hreads kind (mergeText below)
  obtain ⟨hsame, hinside⟩ := ofContainer_spec ht
  exact ⟨t, shows_of_ofContainer htype hmem hraw hchildren hkind hbelow hdepth ht hforeign htext,
    hsame, hinside, htext⟩

/-- A node that holds others and lies too deep becomes a text. -/
theorem shows_holder_of_lt (htype : fieldOf? fields "type" = some (.str type))
    (hchildren : fieldOf? fields "children" = some (.arr children)) (hdepth : limit < depth)
    (hne : children ≠ []) (hreads : Reads [.obj fields] text) :
    Shows limit depth [.obj fields] [ofText text] text :=
  shows_of_token hreads (readingOf_too_deep htype hchildren hdepth hne hreads)
    (plainText_ofText text) rfl rfl (kind_ofText_ne_link text)

end Holder

/-! ## Trees -/

/-- Every node of a proper tree becomes tokens of which its text is seen. -/
theorem IsNode.exists_shows (h : IsNode node) (limit depth : Int) :
    ∃ tokens text, Shows limit depth [node] tokens text := by
  induction h generalizing depth with
  | literal htype hmem hraw hchildren _ =>
    obtain ⟨tokens, htokens⟩ := shows_literal htype hmem hraw hchildren limit depth
    exact ⟨tokens, _, htokens⟩
  | empty htype hmem hraw hchildren _ =>
    exact shows_empty htype hmem hraw hchildren limit depth
  | @holder fields type children htype hmem hraw hchildren hattributes _ ih =>
    obtain ⟨below, text, hbelow⟩ := exists_shows_all fun child hchild => ih child hchild (depth + 1)
    by_cases hdeep : limit < depth ∧ children ≠ []
    · have hreads := reads_holder htype hmem hraw hchildren hbelow.reads
      exact ⟨_, text, shows_holder_of_lt htype hchildren hdeep.1 hdeep.2 hreads⟩
    · have hdepth : depth ≤ limit ∨ children = [] := by
        rwa [not_and_or, not_not, Int.not_lt] at hdeep
      obtain ⟨kind, hkind⟩ := Option.isSome_iff_exists.1 (kind_of_mem_holderTypes type hmem).1
      obtain ⟨t, ht, -⟩ :=
        shows_holder_of_le htype hmem hraw hchildren hattributes hkind hbelow hdepth
      exact ⟨[t], text, ht⟩

/-- The nodes hold what each of them holds. -/
theorem exists_mapM_flatten (h : ∀ node ∈ nodes, IsNode node) :
    ∃ texts, nodes.mapM flatten = .ok texts ∧ Reads nodes (concat texts) := by
  induction nodes with
  | nil => exact ⟨[], rfl, reads_nil⟩
  | cons node rest ih =>
    obtain ⟨hnode, hrest⟩ := List.forall_mem_cons.1 h
    obtain ⟨tokens, text, hfirst⟩ := hnode.exists_shows 0 0
    obtain ⟨texts, htexts, hmore⟩ := ih hrest
    have hflatten := flatten_eq_ok_iff.2 hfirst.reads
    refine ⟨text :: texts, ?_, hfirst.reads.append hmore⟩
    rw [List.mapM_cons]
    exact bind_eq_ok_iff.2 ⟨text, hflatten, bind_eq_ok_iff.2 ⟨texts, htexts, rfl⟩⟩

/-- **The conversion keeps the visible text.** A proper tree is always converted, and what is seen
of its tokens is the text of its nodes, whatever the depth at which they lie and the limit. In the
tokens all texts are texts, and a link shows what is seen of its children. -/
theorem concat_plainText_of_ofNodes? (h : ∀ node ∈ nodes, IsNode node) (depth limit : Int) :
    ∃ tokens texts, ofNodes? nodes depth limit = .ok tokens ∧ nodes.mapM flatten = .ok texts ∧
      concat (tokens.map plainText) = concat texts ∧
      ∀ level t, Occurs tokens level t →
        t.foreign = [] ∧ (t.kind = .link → t.plainText = t.text) := by
  obtain ⟨below, text, hshows⟩ :=
    exists_shows_all fun node hnode => (h node hnode).exists_shows limit depth
  obtain ⟨texts, htexts, hreads⟩ := exists_mapM_flatten h
  obtain ⟨hnormalize, hplain, hfaithful⟩ := hshows.normalize
  have hconverted := ofNodes?_eq_ok_iff.2 ⟨below, hshows.converted, hnormalize⟩
  refine ⟨mergeText below, texts, hconverted, htexts, ?_, fun level t ht => ?_⟩
  · rw [hplain, hshows.reads.unique hreads]
  · obtain ⟨hforeign, hlink⟩ := hfaithful level t ht
    exact ⟨hforeign, hlink⟩

/-- A paragraph with a code span and a link in styled text. -/
def styledParagraph : Markdown.Node :=
  .paragraph [.text "see ", .strong [.codespan "a < b", .text "",
    .link "u" none [.emphasis [.text "x"], .text "y"]], .softbreak, .image "i" none [.text "alt"]]

/-- Its text is seen where the limit makes a text of the link. -/
theorem concat_plainText_styledParagraph :
    (∀ node ∈ [styledParagraph.toJson], IsNode node) ∧
      ∃ tokens, ofNodes? [styledParagraph.toJson] 0 1 = .ok tokens ∧
        concat (tokens.map plainText) = "see a < bxy\nalt" := by
  have hnodes : ∀ node ∈ [styledParagraph.toJson], IsNode node :=
    Markdown.Node.isNode_of_mem_toJsons [styledParagraph] rfl
  obtain ⟨tokens, texts, htokens, htexts, hseen, -⟩ := concat_plainText_of_ofNodes? hnodes 0 1
  have hevaluated : ([styledParagraph.toJson].mapM flatten).toOption.map concat =
      some "see a < bxy\nalt" := by
    decide +kernel
  rw [htexts] at hevaluated
  exact ⟨hnodes, tokens, htokens, hseen.trans (Option.some.inj hevaluated)⟩

end AlertBridge.Token
