import AlertBridge.Proofs.RichText.InlineStyles
import AlertBridge.Proofs.RichText.ListLayout
import AlertBridge.Proofs.Token.Shape

/-!
# The ceiling of the compilation

The conversion of nodes has a limit of nesting and the compilation of their tokens has a ceiling.
If the ceiling is not below the limit it has no effect: no inline content is cut, and no list is
flattened that has items.

The two count differently. The conversion counts every level of the tree. The compilation of inline
content starts again at zero in each paragraph and in each item, so it is behind by one level or
more, and a token lies at most one level below the limit. The indentation of a list grows by one
while the tree goes down by two levels, to the item and to the list in it, so it is behind by half,
and only a list without items can lie below the limit.

## Main definitions

* `InlineVisit`, `InlineEntry`: the inline tokens that the compilation comes to, and where it starts
* `ListVisit`: the lists that it comes to

## Main results

* `compileInline_congr`, `compileList_congr`: a ceiling that is not reached makes no difference
* `compileDocument_of_ofNodes?`: that of a converted document is not reached
-/

namespace AlertBridge.RichText

/-! ## What the compilation comes to -/

/-- From an inline token at a depth the compilation comes to a token at another depth, if nothing
is cut. -/
inductive InlineVisit (t : Token) (depth : Int) : Int → Token → Prop where
  | start : InlineVisit t depth depth t
  | child {depth' : Int} {u v : Token} (h : InlineVisit t depth depth' u)
      (hopen : openKinds.contains u.kind) (hv : v ∈ u.children) :
      InlineVisit t depth (depth' + 1) v

/-- From a list at an indentation the compilation comes to a list at another indentation, if none
is flattened. -/
inductive ListVisit (t : Token) (indent : Int) : Int → Token → Prop where
  | start : ListVisit t indent indent t
  | nested {indent' : Int} {l item u : Token} (h : ListVisit t indent indent' l)
      (hitem : item ∈ l.children) (hu : u ∈ item.children) (hlist : isList u) :
      ListVisit t indent (indent' + 1) u

/-- A token at which the compilation of inline content starts, in a token at the top of a
document. -/
inductive InlineEntry (root : Token) : Token → Prop where
  | paragraph {t : Token} (hroot : root.kind = .paragraph) (ht : t ∈ root.children) :
      InlineEntry root t
  | quote {p t : Token} (hroot : root.kind = .blockquote) (hp : p ∈ root.children)
      (hkind : p.kind = .paragraph) (ht : t ∈ p.children) : InlineEntry root t
  | item {indent : Int} {l item t : Token} (hroot : root.kind = .list)
      (hl : ListVisit root 0 indent l) (hitem : item ∈ l.children) (ht : t ∈ item.children)
      (hlist : isList t = false) : InlineEntry root t

variable {limit ceiling depth depth' indent indent' : Int} {root t u v l item : Token}
  {ts tokens : List Token}

theorem InlineVisit.of_child (hopen : openKinds.contains t.kind) (hu : u ∈ t.children)
    (h : InlineVisit u (depth + 1) depth' v) : InlineVisit t depth depth' v := by
  induction h with
  | start => exact .child .start hopen hu
  | child _ hopen' hv ih => exact .child ih hopen' hv

theorem ListVisit.of_nested (hitem : item ∈ t.children) (hu : u ∈ item.children)
    (hlist : isList u) (h : ListVisit u (indent + 1) indent' l) : ListVisit t indent indent' l := by
  induction h with
  | start => exact .nested .start hitem hu hlist
  | nested _ hitem' hu' hlist' ih => exact .nested ih hitem' hu' hlist'

/-! ## Ceilings that are not reached -/

theorem compileAll_congr {styles : StyleSet}
    (h : ∀ t ∈ ts, compileInline ceiling styles depth t = compileInline limit styles depth t) :
    compileAll ceiling styles depth ts = compileAll limit styles depth ts := by
  rw [compileAll_eq_flatMap, compileAll_eq_flatMap]
  exact List.flatMap_congr h

/-- A higher ceiling makes no difference where all inline content lies above the lower one. -/
theorem compileInline_congr (hceiling : limit ≤ ceiling) (t : Token) :
    ∀ (styles : StyleSet) (depth : Int),
      (∀ depth' u, InlineVisit t depth depth' u → depth' ≤ limit) →
      compileInline ceiling styles depth t = compileInline limit styles depth t := by
  induction t using Token.induction_on_children with
  | step t ih =>
    intro styles depth hvisit
    have hdepth : depth ≤ limit := hvisit depth t .start
    have hdepth' : ¬ depth > limit := Int.not_lt.2 hdepth
    have hdepth'' : ¬ depth > ceiling := Int.not_lt.2 (Int.le_trans hdepth hceiling)
    rw [← StyleSet.along_nil styles]
    by_cases hopen : openKinds.contains t.kind
    · rw [compileInline_of_open hdepth' hopen, compileInline_of_open hdepth'' hopen]
      refine compileAll_congr fun u hu => ih u hu _ _ fun depth' v hv => ?_
      exact hvisit depth' v (hv.of_child hopen hu)
    · rw [compileInline_of_closed hdepth' hopen, compileInline_of_closed hdepth'' hopen]

theorem runsOf_congr (hceiling : limit ≤ ceiling)
    (h : ∀ t ∈ ts, ∀ depth u, InlineVisit t 0 depth u → depth ≤ limit) :
    runsOf ceiling ts = runsOf limit ts :=
  compileAll_congr fun t ht => compileInline_congr hceiling t .empty 0 (h t ht)

theorem compileNested_congr
    (h : ∀ t ∈ ts, isList t → compileList ceiling indent t = compileList limit indent t) :
    compileNested ceiling indent ts = compileNested limit indent ts := by
  induction ts with
  | nil => rw [compileNested, compileNested]
  | cons t ts ih =>
    obtain ⟨ht, hts⟩ := List.forall_mem_cons.1 h
    rw [compileNested, compileNested, ih hts]
    split
    · next hlist => rw [ht hlist]
    · rfl

theorem compileItems_congr (hceiling : limit ≤ ceiling) (hbelow : indent < limit) {ordered : Bool}
    (hinline : ∀ item ∈ ts, ∀ t ∈ item.children, isList t = false →
      ∀ depth u, InlineVisit t 0 depth u → depth ≤ limit)
    (hnested : ∀ item ∈ ts, ∀ t ∈ item.children, isList t →
      compileList ceiling (indent + 1) t = compileList limit (indent + 1) t)
    (collected : List (List TextRun)) :
    compileItems ceiling indent ordered collected ts =
      compileItems limit indent ordered collected ts := by
  have hbelow' : indent < ceiling := Int.lt_of_lt_of_le hbelow hceiling
  induction ts generalizing collected with
  | nil => rw [compileItems, compileItems]
  | cons item rest ih =>
    obtain ⟨hitem, hrest⟩ := List.forall_mem_cons.1 hinline
    obtain ⟨hlists, hrest'⟩ := List.forall_mem_cons.1 hnested
    have hruns : runsOf ceiling (item.children.filter (!isList ·)) =
        runsOf limit (item.children.filter (!isList ·)) := by
      refine runsOf_congr hceiling fun t ht => ?_
      obtain ⟨hmem, hother⟩ := List.mem_filter.1 ht
      exact hitem t hmem (by simpa using hother)
    have hown : itemRuns? ceiling indent item = itemRuns? limit indent item := by
      rw [itemRuns?, itemRuns?, if_neg (Int.not_le.2 hbelow), if_neg (Int.not_le.2 hbelow')]
      simp only [hruns]
    rw [compileItems_cons hbelow, compileItems_cons hbelow', hown, compileNested_congr hlists,
      ih hrest hrest', ih hrest hrest']

/-- A higher ceiling makes no difference where no list with items is flattened and no inline content
is cut. -/
theorem compileList_congr (hceiling : limit ≤ ceiling) (t : Token) : ∀ indent : Int,
    (∀ indent' l, ListVisit t indent indent' l → limit ≤ indent' → l.children = []) →
    (∀ indent' l, ListVisit t indent indent' l → ∀ item ∈ l.children, ∀ u ∈ item.children,
      isList u = false → ∀ depth v, InlineVisit u 0 depth v → depth ≤ limit) →
    compileList ceiling indent t = compileList limit indent t := by
  induction t using Token.induction_on_items with
  | step t ih =>
    intro indent hlists hinline
    by_cases hflat : limit ≤ indent
    · have hnil := hlists indent t .start hflat
      rw [compileList_of_children_eq_nil hnil, compileList_of_children_eq_nil hnil]
    · have hbelow : indent < limit := Int.not_le.1 hflat
      have hbelow' : indent < ceiling := Int.lt_of_lt_of_le hbelow hceiling
      rw [compileList_eq, compileList_eq, if_neg (Int.not_le.2 hbelow),
        if_neg (Int.not_le.2 hbelow')]
      refine compileItems_congr hceiling hbelow (hinline indent t .start) ?_ []
      intro item hitem u hu hlist
      refine ih item hitem u hu (indent + 1) (fun indent' l hl => ?_) fun indent' l hl => ?_
      · exact hlists indent' l (hl.of_nested hitem hu hlist)
      · exact hinline indent' l (hl.of_nested hitem hu hlist)

/-- A higher ceiling makes no difference to a document where the lower one has no effect. -/
theorem dispatch_congr (hceiling : limit ≤ ceiling)
    (hinline : ∀ t, InlineEntry root t → ∀ depth u, InlineVisit t 0 depth u → depth ≤ limit)
    (hlists : ∀ indent l, ListVisit root 0 indent l → limit ≤ indent → l.children = []) :
    dispatch ceiling root = dispatch limit root := by
  unfold dispatch
  split
  · rfl
  · next hroot =>
    rw [runsOf_congr hceiling fun t ht => hinline t (.paragraph hroot ht)]
  · rfl
  · next hroot =>
    have hquote : quoteRuns ceiling root.children = quoteRuns limit root.children := by
      refine List.flatMap_congr fun p hp => runsOf_congr hceiling fun t ht => ?_
      obtain ⟨hmem, hkind⟩ := List.mem_filter.1 hp
      exact hinline t (.quote hroot hmem (by simpa using hkind) ht)
    rw [hquote]
  · next hroot =>
    refine compileList_congr hceiling root 0 hlists fun indent l hl item hitem u hu hother => ?_
    exact hinline u (.item hroot hl hitem hu hother)
  · rfl

/-! ## Converted documents -/

/-- Inline content starts at least one level down, and so its depth is always behind its level. -/
theorem exists_occurs_of_inlineVisit {level : Nat} (ht : Token.Occurs tokens (level + 1) t)
    (h : InlineVisit t 0 depth u) :
    ∃ level' : Nat, Token.Occurs tokens (level' + 1) u ∧ depth ≤ level' := by
  induction h with
  | start => exact ⟨level, ht, Int.natCast_nonneg level⟩
  | child _ _ hv ih =>
    obtain ⟨level', hu, hdepth⟩ := ih
    exact ⟨level' + 1, hu.child hv, by omega⟩

/-- The level of a list is twice its indentation. -/
theorem exists_occurs_of_listVisit (hroot : root ∈ tokens) (h : ListVisit root 0 indent l) :
    ∃ level : Nat, Token.Occurs tokens (2 * level) l ∧ indent = level := by
  induction h with
  | start => exact ⟨0, .root hroot, rfl⟩
  | nested _ hitem hu _ ih =>
    obtain ⟨level, hl, rfl⟩ := ih
    exact ⟨level + 1, (hl.child hitem).child hu, rfl⟩

/-- Inline content starts at a child of some token. -/
theorem exists_occurs_of_inlineEntry (hroot : root ∈ tokens) (h : InlineEntry root t) :
    ∃ level : Nat, Token.Occurs tokens (level + 1) t := by
  cases h with
  | paragraph _ ht => exact ⟨0, (Token.Occurs.root hroot).child ht⟩
  | quote _ hp _ ht => exact ⟨1, ((Token.Occurs.root hroot).child hp).child ht⟩
  | item _ hl hitem ht _ =>
    obtain ⟨level, hl, -⟩ := exists_occurs_of_listVisit hroot hl
    exact ⟨2 * level + 1, (hl.child hitem).child ht⟩

section Converted

variable {nodes : List Json} (h : Token.ofNodes? nodes 0 limit = .ok tokens)

include h

theorem level_le {level : Nat} (ht : Token.Occurs tokens level t) (hne : t.children ≠ []) :
    (level : Int) ≤ limit := by
  obtain ⟨below, hbelow, htokens⟩ := Token.ofNodes?_eq_ok_iff.1 h
  have hproper := (hbelow.throughout_normalize htokens).2 level t ht
  simpa using hproper.depth_le hne

theorem depth_le_of_inlineVisit (hroot : root ∈ tokens) (ht : InlineEntry root t)
    (hu : InlineVisit t 0 depth u) : depth ≤ limit := by
  obtain ⟨level, ht⟩ := exists_occurs_of_inlineEntry hroot ht
  obtain ⟨level', hu, hdepth⟩ := exists_occurs_of_inlineVisit ht hu
  obtain ⟨parent, hparent, hu⟩ := hu.exists_parent
  exact Int.le_trans hdepth (level_le h hparent (List.ne_nil_of_mem hu))

/-- Below the limit no list has items, since its level is twice the indentation. -/
theorem children_eq_nil_of_listVisit (hlimit : 1 ≤ limit) (hroot : root ∈ tokens)
    (hl : ListVisit root 0 indent l) (hindent : limit ≤ indent) : l.children = [] := by
  obtain ⟨level, hoccurs, rfl⟩ := exists_occurs_of_listVisit hroot hl
  by_contra hne
  have hlevel := level_le h hoccurs hne
  omega

end Converted

/-- **The ceiling has no effect on a converted document.** If nodes are converted with a limit of at
least one, their tokens are compiled to the same document with this ceiling and with every higher
one. No inline content that the compilation comes to lies deeper than the limit, and no list that
it comes to has anything to show where it would be flattened. -/
theorem compileDocument_of_ofNodes? {nodes : List Json} (hlimit : 1 ≤ limit)
    (h : Token.ofNodes? nodes 0 limit = .ok tokens) :
    (∀ ceiling, limit ≤ ceiling → compileDocument ceiling tokens = compileDocument limit tokens) ∧
      (∀ root ∈ tokens, ∀ t, InlineEntry root t → ∀ depth u, InlineVisit t 0 depth u →
        depth ≤ limit) ∧
      (∀ root ∈ tokens, ∀ indent l, ListVisit root 0 indent l → limit ≤ indent →
        flattenedList l.ordered indent l.children = []) := by
  refine ⟨fun ceiling hceiling => ?_, fun root hroot t ht depth u hu => ?_,
    fun root hroot indent l hl hindent => ?_⟩
  · refine List.flatMap_congr fun root hroot => dispatch_congr hceiling (fun t ht depth u hu => ?_)
      fun indent l hl hindent => ?_
    · exact depth_le_of_inlineVisit h hroot ht hu
    · exact children_eq_nil_of_listVisit h hlimit hroot hl hindent
  · exact depth_le_of_inlineVisit h hroot ht hu
  · rw [children_eq_nil_of_listVisit h hlimit hroot hl hindent]
    rfl

/-- A list with a list in its item. -/
def innerList : Markdown.Node :=
  .list false [.listItem [.blockText [.text "a", .strong [.text "b"]],
    .list true [.listItem [.blockText [.text "c"]]]]]

/-- Where the items of the inner list are too deep, higher ceilings show no more of it. -/
theorem compileDocument_innerList : (1 : Int) ≤ 2 ∧ ∃ tokens,
    Token.ofNodes? [innerList.toJson] 0 2 = .ok tokens ∧
      ∀ ceiling, 2 ≤ ceiling →
        compileDocument ceiling tokens = [.list false 0 [[.text "ab" .empty]]] := by
  have hevaluated : (Token.ofNodes? [innerList.toJson] 0 2).toOption.map (compileDocument 2) =
      some [.list false 0 [[.text "ab" .empty]]] := by
    decide +kernel
  obtain ⟨tokens, htokens, hdocument⟩ := Token.exists_eq_ok_of_map hevaluated
  have hlimit : (1 : Int) ≤ 2 := by decide
  refine ⟨hlimit, tokens, htokens, fun ceiling hceiling => ?_⟩
  rw [(compileDocument_of_ofNodes? hlimit htokens).1 ceiling hceiling, hdocument]

end AlertBridge.RichText
