import AlertBridge.Proofs.RichText.Ceiling
import AlertBridge.Proofs.RichText.RunText

/-!
# Runs without text

Where there is no text there is mostly no run: not of an empty text or escape, not where inline
content is cut or a list is flattened. Three kinds of tokens have a run whatever their text is, a
heading, a block of code and a code span. So the runs of text without any text are those of a
heading that says nothing, of an empty block of code and of an empty code span. In a converted
document each of these has one: nothing is cut there that could hide a code span.

## Main definitions

* `TextRun.IsVoid`: a run of text without text
* `SaysNothing`: what makes such a run

## Main results

* `exists_isVoid_iff_of_ofNodes?`: which converted documents have one, and where it stands
* `compileDocument_bareHeading`: a heading without text
-/

namespace AlertBridge

/-- The run is one of text, and its text is empty. -/
def TextRun.IsVoid : TextRun → Prop
  | .text shown _ => shown = ""
  | .link .. => False

namespace RichText

/-- What makes a run without text in a token at the top of a document: a heading that says nothing,
a block of code that is empty, or a code span in it that shows nothing. -/
inductive SaysNothing (root : Token) : Prop where
  | heading (hkind : root.kind = .heading) (htext : root.headingText = "")
  | code (hkind : root.kind = .code) (htext : root.text = "")
  | span {t u : Token} {depth : Int} (ht : InlineEntry root t) (hu : InlineVisit t 0 depth u)
      (hkind : u.kind = .codespan) (htext : unescapeHtml u.text = "")

variable {limit ceiling depth depth' indent indent' : Int} {root t u l item : Token}
  {ts tokens : List Token} {run : TextRun} {styles : StyleSet}

theorem not_isVoid_of_mem_textRuns {text : String} (h : run ∈ textRuns text styles) :
    ¬ run.IsVoid := by
  rw [textRuns] at h
  split at h
  · cases h
  · next hne =>
    obtain rfl := List.mem_singleton.1 h
    exact hne

/-! ## Inline content -/

theorem mem_compileAll :
    run ∈ compileAll ceiling styles depth ts ↔
      ∃ t ∈ ts, run ∈ compileInline ceiling styles depth t := by
  rw [compileAll_eq_flatMap, List.mem_flatMap]

/-- A run without text comes from a code span that shows nothing, and so it has the style of code. -/
theorem exists_span_of_isVoid (hvoid : run.IsVoid) (t : Token) :
    ∀ (styles : StyleSet) (depth : Int), run ∈ compileInline ceiling styles depth t →
      (∃ styles', run = .text "" styles' ∧ styles'.code) ∧
        ∃ depth' u, InlineVisit t depth depth' u ∧ u.kind = .codespan ∧
          unescapeHtml u.text = "" := by
  induction t using Token.induction_on_children with
  | step t ih =>
    intro styles depth hrun
    rw [compileInline_eq] at hrun
    dsimp only at hrun
    split at hrun
    · exact absurd hvoid (not_isVoid_of_mem_textRuns hrun)
    split at hrun
    case h_1 | h_2 => exact absurd hvoid (not_isVoid_of_mem_textRuns hrun)
    case h_3 hkind =>
      obtain rfl := List.mem_singleton.1 hrun
      have htext : unescapeHtml t.text = "" := hvoid
      rw [htext, hkind]
      exact ⟨⟨_, rfl, rfl⟩, depth, t, .start, hkind, htext⟩
    case h_4 =>
      obtain rfl := List.mem_singleton.1 hrun
      cases hvoid
    case h_5 =>
      split at hrun
      · next hopen =>
        obtain ⟨u, hu, hrun⟩ := mem_compileAll.1 hrun
        obtain ⟨hstyles, depth', v, hv, hspan⟩ := ih u hu _ _ hrun
        have hopen : openKinds.contains t.kind := by
          revert hopen
          cases t.kind <;> decide
        exact ⟨hstyles, depth', v, hv.of_child hopen hu, hspan⟩
      · cases hrun

/-- Where nothing is cut, the runs of a token contain those of each token that is come to. -/
theorem exists_subset_compileInline
    (huncut : ∀ depth' u, InlineVisit t depth depth' u → depth' ≤ ceiling)
    (hu : InlineVisit t depth depth' u) (styles : StyleSet) :
    ∃ styles', compileInline ceiling styles' depth' u ⊆ compileInline ceiling styles depth t := by
  induction hu with
  | start => exact ⟨styles, List.Subset.refl _⟩
  | @child depth' u v hu hopen hv ih =>
    obtain ⟨styles', hsubset⟩ := ih
    have hdepth : ¬ depth' > ceiling := Int.not_lt.2 (huncut depth' u hu)
    have hruns := compileInline_of_open hdepth hopen styles' []
    rw [StyleSet.along_nil] at hruns
    rw [hruns] at hsubset
    exact ⟨_, fun run hrun => hsubset (mem_compileAll.2 ⟨v, hv, hrun⟩)⟩

theorem exists_isVoid_of_span
    (huncut : ∀ depth' u, InlineVisit t depth depth' u → depth' ≤ ceiling)
    (hu : InlineVisit t depth depth' u) (hkind : u.kind = .codespan)
    (htext : unescapeHtml u.text = "") (styles : StyleSet) :
    ∃ run ∈ compileInline ceiling styles depth t, run.IsVoid := by
  obtain ⟨styles', hsubset⟩ := exists_subset_compileInline huncut hu styles
  have hdepth : ¬ depth' > ceiling := Int.not_lt.2 (huncut depth' u hu)
  refine ⟨.text (unescapeHtml u.text) (styles'.add (styleOf u.kind)), hsubset ?_, htext⟩
  rw [compileInline_eq]
  simp only [if_neg hdepth, hkind, List.mem_singleton]

/-! ## Lists -/

theorem mem_runsOf :
    run ∈ runsOf ceiling ts ↔ ∃ t ∈ ts, run ∈ compileInline ceiling .empty 0 t :=
  mem_compileAll

/-- What an item shows comes from its inline content or from a list in it. -/
theorem mem_itemRuns :
    run ∈ itemRuns ceiling indent item ↔
      (∃ t ∈ item.children, isList t = false ∧ run ∈ compileInline ceiling .empty 0 t) ∨
        ∃ t ∈ item.children, isList t ∧
          run ∈ (compileList ceiling (indent + 1) t).flatMap RichElement.runs := by
  rw [itemRuns, List.mem_append, mem_runsOf, compileNested_eq_flatMap, List.flatMap_assoc,
    List.mem_flatMap]
  simp only [List.mem_filter, Bool.not_eq_true', and_assoc]

/-- A flattened list has text in all of its runs. -/
theorem not_isVoid_of_mem_flattenedList {ordered : Bool} {items : List Token}
    (h : run ∈ (flattenedList ordered indent items).flatMap RichElement.runs) : ¬ run.IsVoid := by
  rw [flattenedList_eq_flush, flatMap_runs_flush] at h
  obtain ⟨runs, hruns, hrun⟩ := List.mem_flatten.1 h
  obtain ⟨text, htext, rfl⟩ := List.mem_map.1 hruns
  obtain rfl := List.mem_singleton.1 hrun
  have hne : text ≠ "" := by simpa using (List.mem_filter.1 htext).2
  exact hne

/-- A run without text comes from the inline content of an item of a list that is come to. -/
theorem exists_item_of_isVoid (hvoid : run.IsVoid) (t : Token) :
    ∀ indent, run ∈ (compileList ceiling indent t).flatMap RichElement.runs →
      ∃ indent' l item u, ListVisit t indent indent' l ∧ item ∈ l.children ∧ u ∈ item.children ∧
        isList u = false ∧ run ∈ compileInline ceiling .empty 0 u := by
  induction t using Token.induction_on_items with
  | step t ih =>
    intro indent hrun
    by_cases hbelow : indent < ceiling
    · rw [flatMap_runs_compileList hbelow] at hrun
      obtain ⟨item, hitem, hrun⟩ := List.mem_flatMap.1 hrun
      rcases mem_itemRuns.1 hrun with ⟨u, hu, hother, hrun⟩ | ⟨u, hu, hlist, hrun⟩
      · exact ⟨indent, t, item, u, .start, hitem, hu, hother, hrun⟩
      · obtain ⟨indent', l, item', v, hl, hfound⟩ := ih item hitem u hu (indent + 1) hrun
        exact ⟨indent', l, item', v, hl.of_nested hitem hu hlist, hfound⟩
    · rw [compileList_eq, if_pos (Int.not_lt.1 hbelow)] at hrun
      exact absurd hvoid (not_isVoid_of_mem_flattenedList hrun)

/-- Where no list with items is flattened, a list has the runs of each item that is come to. -/
theorem itemRuns_subset
    (hflat : ∀ indent' l, ListVisit t indent indent' l → ceiling ≤ indent' → l.children = [])
    (hl : ListVisit t indent indent' l) (hitem : item ∈ l.children) :
    itemRuns ceiling indent' item ⊆
      (compileList ceiling indent t).flatMap RichElement.runs := by
  have hbelow {indent' : Int} {l item : Token} (hl : ListVisit t indent indent' l)
      (hitem : item ∈ l.children) : indent' < ceiling := by
    by_contra hnot
    rw [hflat indent' l hl (Int.not_lt.1 hnot)] at hitem
    cases hitem
  induction hl generalizing item with
  | start =>
    rw [flatMap_runs_compileList (hbelow .start hitem)]
    exact fun run hrun => List.mem_flatMap_of_mem hitem hrun
  | @nested indent' l outer u hl houter hu hlist ih =>
    intro run hrun
    refine ih houter (mem_itemRuns.2 (.inr ⟨u, hu, hlist, ?_⟩))
    rw [flatMap_runs_compileList (hbelow (.nested hl houter hu hlist) hitem)]
    exact List.mem_flatMap_of_mem hitem hrun

/-! ## Documents -/

/-- A run without text stands by itself in a heading or in a block of code, and any other is one of
code. -/
theorem isVoid_cases {element : RichElement} (helement : element ∈ dispatch ceiling root)
    (hrun : run ∈ element.runs) (hvoid : run.IsVoid) :
    SaysNothing root ∧ (element = .paragraph [.text "" (StyleSet.empty.insert .bold)] ∨
      element = .preformatted [.text "" .empty] ∨
      ∃ styles, run = .text "" styles ∧ styles.code) := by
  rw [dispatch] at helement
  split at helement
  case h_1 hroot =>
    obtain rfl := List.mem_singleton.1 helement
    obtain rfl := List.mem_singleton.1 hrun
    have htext : root.headingText = "" := hvoid
    exact ⟨.heading hroot htext, .inl (by rw [htext])⟩
  case h_2 hroot =>
    obtain rfl := List.mem_singleton.1 helement
    obtain ⟨t, ht, hrun⟩ := mem_runsOf.1 hrun
    obtain ⟨hstyles, depth, u, hu, hkind, htext⟩ := exists_span_of_isVoid hvoid t _ _ hrun
    exact ⟨.span (.paragraph hroot ht) hu hkind htext, .inr (.inr hstyles)⟩
  case h_3 hroot =>
    obtain rfl := List.mem_singleton.1 helement
    obtain rfl := List.mem_singleton.1 hrun
    have htext : root.text = "" := hvoid
    exact ⟨.code hroot htext, .inr (.inl (by rw [htext]))⟩
  case h_4 hroot =>
    obtain rfl := List.mem_singleton.1 helement
    obtain ⟨p, hp, hrun⟩ := List.mem_flatMap.1 hrun
    obtain ⟨hp, hkind⟩ := List.mem_filter.1 hp
    obtain ⟨t, ht, hrun⟩ := mem_runsOf.1 hrun
    obtain ⟨hstyles, depth, u, hu, hspan, htext⟩ := exists_span_of_isVoid hvoid t _ _ hrun
    exact ⟨.span (.quote hroot hp (by simpa using hkind) ht) hu hspan htext, .inr (.inr hstyles)⟩
  case h_5 hroot =>
    obtain ⟨indent, l, item, t, hl, hitem, ht, hother, hrun⟩ :=
      exists_item_of_isVoid hvoid root 0 (List.mem_flatMap_of_mem helement hrun)
    obtain ⟨hstyles, depth, u, hu, hkind, htext⟩ := exists_span_of_isVoid hvoid t _ _ hrun
    exact ⟨.span (.item hroot hl hitem ht hother) hu hkind htext, .inr (.inr hstyles)⟩
  case h_6 => cases helement

/-- Where nothing is cut or flattened, each of them makes a run without text. -/
theorem SaysNothing.exists_isVoid (h : SaysNothing root)
    (huncut : ∀ t, InlineEntry root t → ∀ depth u, InlineVisit t 0 depth u → depth ≤ ceiling)
    (hflat : ∀ indent l, ListVisit root 0 indent l → ceiling ≤ indent → l.children = []) :
    ∃ run ∈ (dispatch ceiling root).flatMap RichElement.runs, run.IsVoid := by
  cases h with
  | heading hkind htext =>
    rw [dispatch, hkind, htext]
    exact ⟨_, List.mem_singleton_self _, rfl⟩
  | code hkind htext =>
    rw [dispatch, hkind, htext]
    exact ⟨_, List.mem_singleton_self _, rfl⟩
  | @span t u depth ht hu hkind htext =>
    obtain ⟨run, hrun, hvoid⟩ := exists_isVoid_of_span (huncut t ht) hu hkind htext .empty
    refine ⟨run, ?_, hvoid⟩
    cases ht with
    | paragraph hroot ht =>
      rw [dispatch, hroot, List.flatMap_singleton]
      exact mem_runsOf.2 ⟨t, ht, hrun⟩
    | @quote p _ hroot hp hpkind ht =>
      rw [dispatch, hroot, List.flatMap_singleton]
      refine List.mem_flatMap.2 ⟨p, List.mem_filter.2 ⟨hp, by simpa using hpkind⟩, ?_⟩
      exact mem_runsOf.2 ⟨t, ht, hrun⟩
    | item hroot hl hitem ht hother =>
      rw [dispatch, hroot]
      exact itemRuns_subset hflat hl hitem (mem_itemRuns.2 (.inl ⟨t, ht, hother, hrun⟩))

/-- **Which converted documents have runs without text.** A document has a run of text without text
exactly if it has a heading that says nothing, an empty block of code, or an empty code span in a
paragraph, a quote or a list. The run is then the only one of the heading's section or of the
preformatted text, or it is one of code. -/
theorem exists_isVoid_iff_of_ofNodes? {nodes : List Json} (hlimit : 1 ≤ limit)
    (h : Token.ofNodes? nodes 0 limit = .ok tokens) :
    ((∃ element ∈ compileDocument limit tokens, ∃ run ∈ element.runs, run.IsVoid) ↔
        ∃ root ∈ tokens, SaysNothing root) ∧
      ∀ element ∈ compileDocument limit tokens, ∀ run ∈ element.runs, run.IsVoid →
        element = .paragraph [.text "" (StyleSet.empty.insert .bold)] ∨
          element = .preformatted [.text "" .empty] ∨
          ∃ styles, run = .text "" styles ∧ styles.code := by
  have hcases : ∀ element ∈ compileDocument limit tokens, ∀ run ∈ element.runs, run.IsVoid →
      ∃ root ∈ tokens, SaysNothing root ∧
        (element = .paragraph [.text "" (StyleSet.empty.insert .bold)] ∨
          element = .preformatted [.text "" .empty] ∨
          ∃ styles, run = .text "" styles ∧ styles.code) := by
    intro element helement run hrun hvoid
    obtain ⟨root, hroot, helement⟩ := List.mem_flatMap.1 helement
    exact ⟨root, hroot, isVoid_cases helement hrun hvoid⟩
  refine ⟨⟨?_, ?_⟩, fun element helement run hrun hvoid => ?_⟩
  · rintro ⟨element, helement, run, hrun, hvoid⟩
    obtain ⟨root, hroot, hnothing, -⟩ := hcases element helement run hrun hvoid
    exact ⟨root, hroot, hnothing⟩
  · rintro ⟨root, hroot, hnothing⟩
    obtain ⟨run, hrun, hvoid⟩ := hnothing.exists_isVoid
      (fun t ht depth u hu => depth_le_of_inlineVisit h hroot ht hu)
      fun indent l hl hindent => children_eq_nil_of_listVisit h hlimit hroot hl hindent
    obtain ⟨element, helement, hrun⟩ := List.mem_flatMap.1 hrun
    exact ⟨element, List.mem_flatMap_of_mem hroot helement, run, hrun, hvoid⟩
  · obtain ⟨root, -, -, hplace⟩ := hcases element helement run hrun hvoid
    exact hplace

/-- A list with an empty code span in strong text. -/
def emptySpanList : Markdown.Node :=
  .list false [.listItem [.blockText [.text "a", .strong [.codespan ""]]]]

/-- The empty code span of the list has a run. -/
theorem exists_isVoid_emptySpanList : (1 : Int) ≤ 16 ∧ ∃ tokens,
    Token.ofNodes? [emptySpanList.toJson] 0 16 = .ok tokens ∧
      compileDocument 16 tokens =
        [.list false 0 [[.text "a" .empty, .text "" { bold := true, code := true }]]] ∧
      ∃ root ∈ tokens, SaysNothing root := by
  have hevaluated : (Token.ofNodes? [emptySpanList.toJson] 0 16).toOption.map
      (compileDocument 16) =
        some [.list false 0 [[.text "a" .empty, .text "" { bold := true, code := true }]]] := by
    decide +kernel
  obtain ⟨tokens, htokens, hdocument⟩ := Token.exists_eq_ok_of_map hevaluated
  have hlimit : (1 : Int) ≤ 16 := by decide
  refine ⟨hlimit, tokens, htokens, hdocument, ?_⟩
  refine (exists_isVoid_iff_of_ofNodes? hlimit htokens).1.1 ?_
  rw [hdocument]
  exact ⟨_, List.mem_singleton_self _, .text "" { bold := true, code := true }, by decide, rfl⟩

/-- The Markdown of a heading without text is compiled to a section with a run without text. -/
theorem compileDocument_bareHeading : (1 : Int) ≤ 16 ∧ ∃ tokens,
    Token.ofNodes? (Markdown.Node.toJsons (Markdown.document "#")) 0 16 = .ok tokens ∧
      compileDocument 16 tokens = [.paragraph [.text "" (StyleSet.empty.insert .bold)]] := by
  have hevaluated : (Token.ofNodes? (Markdown.Node.toJsons (Markdown.document "#")) 0 16).toOption.map
      (compileDocument 16) = some [.paragraph [.text "" (StyleSet.empty.insert .bold)]] := by
    decide +kernel
  exact ⟨by decide, Token.exists_eq_ok_of_map hevaluated⟩

end RichText

end AlertBridge
