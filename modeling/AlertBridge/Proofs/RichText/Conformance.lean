import AlertBridge.Proofs.Fault.Sequence
import AlertBridge.Proofs.RichText.ListLayout
import AlertBridge.Proofs.RichText.Rebuilding

/-!
# Compiled documents conform to the schema

Whatever tokens a document is compiled from, its constructors accept all that they are given, so
that the compilation yields a rich text. Token by token it has one section, one preformatted text,
one quote, some lists or nothing, according to the kind of the token, and every node in it has the
shape that its type asks for. So it does not matter whether a lexer has made the tokens: lists may
stand in lists, texts in the place of items, and links may have no address.

## Main definitions

* `assembleDocument`: a document through the constructors of its nodes
* `IsPartOf`: the nodes that a token of a kind has in a document

## Main results

* `assembleDocument_eq_ok`: the constructors accept every document
* `conforms_compileDocument`: the rich text of a compiled document
-/

namespace AlertBridge

open Schema (typed holder IsStyle IsRun IsSection IsList Rebuilds)

/-! ## Through the constructors -/

/-- A set of styles as constructors take it: null if it is empty. -/
def StyleSet.toArgument (styles : StyleSet) : Json :=
  match styles.words with
  | [] => .null
  | words => .obj (words.map fun word => (word, .bool true))

/-- A run through its constructor. -/
def TextRun.assemble : TextRun → Except Fault Json
  | .text shown styles => Schema.richText (.str shown) styles.toArgument
  | .link url shown styles => Schema.richLink (.str url) (.str shown) styles.toArgument

namespace RichText

/-- Runs through their constructors, and then through that of a node that holds them. -/
def assembleRuns (build : Json → Except Fault Json) (runs : List TextRun) : Except Fault Json := do
  build (.arr (← runs.mapM TextRun.assemble))

/-- An element through its constructor. A list is given its style and its indentation only. -/
def assembleElement : RichElement → Except Fault Json
  | .paragraph runs => assembleRuns Schema.richSection runs
  | .preformatted runs => assembleRuns Schema.richPreformatted runs
  | .quote runs => assembleRuns Schema.richQuote runs
  | .list ordered indent items => do
    let sections ← items.mapM (assembleRuns Schema.richSection)
    Schema.richList (.arr sections) (.str (if ordered then "ordered" else "bullet")) (.int indent)
      .null .null

/-- A document through its constructor. -/
def assembleDocument (elements : List RichElement) : Except Fault Json := do
  Schema.rich (.arr (← elements.mapM assembleElement))

theorem styleFields_toArgument (styles : StyleSet) :
    Schema.styleFields styles.toArgument = .ok styles.toFields := by
  rcases styles with ⟨_ | _, _ | _, _ | _, _ | _⟩ <;> rfl

theorem assemble_eq_ok (run : TextRun) : run.assemble = .ok run.toJson := by
  cases run with
  | text shown styles =>
    exact Schema.richText_of_styleFields (styleFields_toArgument styles) (.str shown)
  | link url shown styles =>
    exact Schema.richLink_of_styleFields (styleFields_toArgument styles) (.str url) (.str shown)

theorem assembleRuns_eq (build : Json → Except Fault Json) (runs : List TextRun) :
    assembleRuns build runs = build (.arr (runs.map TextRun.toJson)) :=
  bind_of_ok (mapM_eq_ok_map fun run _ => assemble_eq_ok run)

theorem assembleElement_eq_ok (element : RichElement) :
    assembleElement element = .ok element.toJson := by
  cases element with
  | paragraph runs | preformatted runs | quote runs => exact assembleRuns_eq _ runs
  | list ordered indent items =>
    have hitems : items.mapM (assembleRuns Schema.richSection) =
        .ok (items.map (runsJson "rich_text_section")) :=
      mapM_eq_ok_map fun runs _ => assembleRuns_eq Schema.richSection runs
    rw [assembleElement, bind_of_ok hitems]
    cases ordered <;> rfl

/-- The constructors accept every document. -/
theorem assembleDocument_eq_ok (elements : List RichElement) :
    assembleDocument elements = .ok (richTextBlock elements) :=
  bind_of_ok (mapM_eq_ok_map fun element _ => assembleElement_eq_ok element)

/-! ## The shape of runs and lists -/

theorem words_sublist (styles : StyleSet) : styles.words.Sublist styleWords :=
  List.filter_sublist.map _

theorem isStyle_toFields (styles : StyleSet) : IsStyle styles.toFields := by
  rw [StyleSet.toFields]
  split
  · exact .unstyled
  · next hne => exact .styled hne (words_sublist styles)

theorem isRun_toJson (run : TextRun) : IsRun run.toJson := by
  cases run with
  | text shown styles => exact .text shown (isStyle_toFields styles)
  | link url shown styles => exact .link url shown (isStyle_toFields styles)

theorem isRun_of_mem_map {runs : List TextRun} : ∀ run ∈ runs.map TextRun.toJson, IsRun run :=
  List.forall_mem_map.2 fun run _ => isRun_toJson run

theorem isSection_runsJson (runs : List TextRun) : IsSection (runsJson "rich_text_section" runs) :=
  .intro isRun_of_mem_map

variable {ceiling indent : Int}

/-- The element is a list with items, indented between two bounds. -/
def IsListWithin (low high : Int) (element : RichElement) : Prop :=
  ∃ ordered indent items, element = .list ordered indent items ∧ low ≤ indent ∧ indent ≤ high ∧
    items ≠ []

theorem isListWithin_of_mem_flush {ordered : Bool} {items : List (List TextRun)}
    {element : RichElement} (hindent : indent ≤ ceiling)
    (h : element ∈ flush ordered indent items) : IsListWithin indent ceiling element := by
  rw [flush] at h
  split at h
  · cases h
  · next hne =>
    obtain rfl := List.mem_singleton.1 h
    exact ⟨ordered, indent, items, rfl, Int.le_refl _, hindent, by simpa using hne⟩

/-- The lists in an item are indented further, but not beyond the ceiling. -/
theorem isListWithin_of_mem_compileItems (hbelow : indent < ceiling) {ordered : Bool}
    {collected : List (List TextRun)} {items : List Token}
    (hnested : ∀ item ∈ items, ∀ t ∈ item.children, ∀ element ∈ compileList ceiling (indent + 1) t,
      IsListWithin (indent + 1) ceiling element) :
    ∀ element ∈ compileItems ceiling indent ordered collected items,
      IsListWithin indent ceiling element := by
  induction items generalizing collected with
  | nil =>
    rw [compileItems]
    exact fun element helement => isListWithin_of_mem_flush (Int.le_of_lt hbelow) helement
  | cons item rest ih =>
    obtain ⟨hitem, hrest⟩ := List.forall_mem_cons.1 hnested
    rw [compileItems_cons hbelow]
    split
    · intro element helement
      rw [List.mem_append, List.mem_append] at helement
      rcases helement with (helement | helement) | helement
      · exact isListWithin_of_mem_flush (Int.le_of_lt hbelow) helement
      · rw [compileNested_eq_flatMap, List.mem_flatMap] at helement
        obtain ⟨t, ht, helement⟩ := helement
        obtain ⟨ordered', indent', items', heq, hlow, hhigh, hne⟩ :=
          hitem t (List.mem_filter.1 ht).1 element helement
        exact ⟨ordered', indent', items', heq, by omega, hhigh, hne⟩
      · exact ih hrest element helement
    · exact ih hrest

theorem isListWithin_of_mem_compileList (t : Token) : ∀ indent, indent ≤ ceiling →
    ∀ element ∈ compileList ceiling indent t, IsListWithin indent ceiling element := by
  induction t using Token.induction_on_items with
  | step t ih =>
    intro indent hindent
    rw [compileList_eq]
    split
    · rw [flattenedList_eq_flush]
      exact fun element helement => isListWithin_of_mem_flush hindent helement
    · next hbelow =>
      have hbelow : indent < ceiling := Int.not_le.1 hbelow
      exact isListWithin_of_mem_compileItems hbelow fun item hitem u hu =>
        ih item hitem u hu (indent + 1) hbelow

theorem isList_toJson {element : RichElement} (h : IsListWithin 0 ceiling element) :
    IsList ceiling element.toJson := by
  obtain ⟨ordered, indent, items, rfl, hlow, hhigh, hne⟩ := h
  refine .intro ?_ ⟨hlow, hhigh⟩ (by simpa using hne)
    (List.forall_mem_map.2 fun runs _ => isSection_runsJson runs)
  cases ordered
  · exact .inl rfl
  · exact .inr rfl

/-! ## The parts of a document -/

/-- The nodes that a token of a kind has in a document. -/
inductive IsPartOf (ceiling : Int) : TokenKind → List Json → Prop where
  | heading (text : String) : IsPartOf ceiling .heading
      [holder "rich_text_section"
        [typed "text" [("text", .str text), ("style", .obj [("bold", .bool true)])]]]
  | paragraph {node : Json} (hnode : IsSection node) : IsPartOf ceiling .paragraph [node]
  | code (text : String) : IsPartOf ceiling .code
      [holder "rich_text_preformatted" [typed "text" [("text", .str text)]]]
  | blockquote {runs : List Json} (hruns : ∀ run ∈ runs, IsRun run) :
      IsPartOf ceiling .blockquote [holder "rich_text_quote" runs]
  | list {nodes : List Json} (hnodes : ∀ node ∈ nodes, IsList ceiling node) :
      IsPartOf ceiling .list nodes
  | other {kind : TokenKind}
      (hkind : kind ∉ [TokenKind.heading, .paragraph, .code, .blockquote, .list]) :
      IsPartOf ceiling kind []

theorem isPartOf_dispatch (hceiling : 0 ≤ ceiling) (t : Token) :
    IsPartOf ceiling t.kind ((dispatch ceiling t).map RichElement.toJson) := by
  rw [dispatch]
  split
  case h_1 hkind => rw [hkind]; exact .heading t.headingText
  case h_2 hkind => rw [hkind]; exact .paragraph (isSection_runsJson _)
  case h_3 hkind => rw [hkind]; exact .code t.text
  case h_4 hkind => rw [hkind]; exact .blockquote isRun_of_mem_map
  case h_5 hkind =>
    rw [hkind]
    refine .list (List.forall_mem_map.2 fun element helement => isList_toJson ?_)
    exact isListWithin_of_mem_compileList t 0 hceiling element helement
  case h_6 hheading hparagraph hcode hquote hlist =>
    refine .other ?_
    simp only [List.mem_cons, List.not_mem_nil, or_false, not_or]
    exact ⟨hheading, hparagraph, hcode, hquote, hlist⟩

theorem IsPartOf.rebuilds {kind : TokenKind} {nodes : List Json} (h : IsPartOf ceiling kind nodes) :
    ∀ node ∈ nodes, Rebuilds node := by
  cases h with
  | heading text =>
    have hbold : IsStyle [("style", .obj (["bold"].map fun word => (word, .bool true)))] :=
      .styled (by decide) (by decide)
    refine List.forall_mem_singleton.2 (IsSection.rebuilds (.intro ?_))
    exact List.forall_mem_singleton.2 (.text text hbold)
  | paragraph hnode => exact List.forall_mem_singleton.2 hnode.rebuilds
  | code text =>
    refine List.forall_mem_singleton.2 (Schema.rebuilds_holder (by decide) ?_)
    exact List.forall_mem_singleton.2 (IsRun.text text .unstyled).rebuilds
  | blockquote hruns =>
    refine List.forall_mem_singleton.2 (Schema.rebuilds_holder (by decide) ?_)
    exact fun run hrun => (hruns run hrun).rebuilds
  | list hnodes => exact fun node hnode => (hnodes node hnode).rebuilds
  | other => simp

/-- **Compilation never fails, and its document conforms to the schema.** All constructors accept
what any tokens are compiled to. The nodes of the rich text are those of the tokens, one token after
the other, of the shapes that the kinds of the tokens ask for; and each node in it is what its own
constructor makes of its fields. -/
theorem conforms_compileDocument (hceiling : 1 ≤ ceiling) (tokens : List Token) :
    assembleDocument (compileDocument ceiling tokens) =
        .ok (richTextBlock (compileDocument ceiling tokens)) ∧
      (∃ parts : List (List Json),
        richTextBlock (compileDocument ceiling tokens) = holder "rich_text" parts.flatten ∧
        List.Forall₂ (fun t nodes => IsPartOf ceiling t.kind nodes) tokens parts) ∧
      Rebuilds (richTextBlock (compileDocument ceiling tokens)) := by
  let parts : List (List Json) :=
    tokens.map fun t => (dispatch ceiling t).map RichElement.toJson
  have hblock : richTextBlock (compileDocument ceiling tokens) =
      holder "rich_text" parts.flatten := by
    rw [richTextBlock, compileDocument, List.map_flatMap, List.flatMap_def]
    rfl
  have hparts : List.Forall₂ (fun t nodes => IsPartOf ceiling t.kind nodes) tokens parts :=
    List.forall₂_map_right_iff.2
      (List.forall₂_same.2 fun t _ => isPartOf_dispatch (Int.le_of_lt hceiling) t)
  refine ⟨assembleDocument_eq_ok _, ⟨parts, hblock, hparts⟩, ?_⟩
  rw [hblock]
  refine Schema.rebuilds_holder (by decide) fun node hnode => ?_
  obtain ⟨nodes, hnodes, hnode⟩ := List.mem_flatten.1 hnode
  obtain ⟨t, -, hpart⟩ := exists_mem_of_forall₂ hparts nodes hnodes
  exact hpart.rebuilds node hnode

/-- A list in a list, a text with a list in the place of an item, and a link without an address. -/
def oddTokens : List Token := [
  { kind := .list, children := [
    { kind := .list, children := [{ kind := .link, text := "a" }] },
    { kind := .text, text := "b", children := [
      { kind := .list, ordered := true, children := [.ofText "c"] }] }] },
  { kind := .code, text := "d" },
  { kind := .listitem, children := [.ofText "e"] }]

/-- What is odd is compiled to two lists and a preformatted text. -/
theorem conforms_compileDocument_oddTokens : (1 : Int) ≤ 1 ∧
    compileDocument 1 oddTokens =
      [.list false 0 [[.link "" "a" .empty]], .list true 1 [[.text "c" .empty]],
        .preformatted [.text "d" .empty]] ∧
    assembleDocument (compileDocument 1 oddTokens) =
      .ok (richTextBlock (compileDocument 1 oddTokens)) ∧
    Rebuilds (richTextBlock (compileDocument 1 oddTokens)) := by
  have hceiling : (1 : Int) ≤ 1 := by decide
  obtain ⟨hassemble, -, hrebuilds⟩ := conforms_compileDocument hceiling oddTokens
  exact ⟨hceiling, by decide +kernel, hassemble, hrebuilds⟩

end RichText

end AlertBridge
