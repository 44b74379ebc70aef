import AlertBridge.Proofs.RichText.InlineText
import AlertBridge.Proofs.RichText.ListLayout

/-!
# The text of lists

The texts of all runs of a document, one after the other, are what a reader sees of it. Inline
content loses none of its text, so of the items of a list everything is seen that is inline, and it
stands before the lists in the same item.

## Main definitions

* `elementsText`: the text of elements
* `itemText`: what is seen of an item of a list

## Main results

* `elementsText_compileList`: a list above the ceiling shows what is seen of its items
-/

namespace AlertBridge

/-- The runs of an element. -/
def RichElement.runs : RichElement → List TextRun
  | .paragraph runs => runs
  | .preformatted runs => runs
  | .quote runs => runs
  | .list _ _ items => items.flatten

namespace RichText

/-- The texts of all runs of elements, one after the other. -/
def elementsText (elements : List RichElement) : String :=
  runsText (elements.flatMap RichElement.runs)

@[simp] theorem elementsText_nil : elementsText [] = "" := rfl

variable {ceiling indent : Int} {t item : Token} {ts items : List Token}

theorem runsText_runsOf (h : ∀ t ∈ ts, IsInline t) :
    runsText (runsOf ceiling ts) = concat (ts.map Token.plainText) := by
  rw [runsOf, compileAll_eq_flatMap, runsText_flatMap]
  exact congrArg concat (List.map_congr_left fun t ht => runsText_compileInline (h t ht) _ _)

/-- What is seen of an item: what it holds besides lists, and then its lists. -/
def itemText (ceiling indent : Int) (item : Token) : String :=
  runsText (runsOf ceiling (item.children.filter (!isList ·)))
    ++ elementsText (compileNested ceiling (indent + 1) item.children)

theorem elementsText_flatMap {α : Type} (f : α → List RichElement) (xs : List α) :
    elementsText (xs.flatMap f) = concat (xs.map fun x => elementsText (f x)) := by
  rw [elementsText, List.flatMap_assoc, runsText_flatMap]
  rfl

theorem elementsText_compileNested (ceiling indent : Int) (ts : List Token) :
    elementsText (compileNested ceiling indent ts) =
      concat ((ts.filter isList).map fun t => elementsText (compileList ceiling indent t)) := by
  rw [compileNested_eq_flatMap, elementsText_flatMap]

/-- What is seen of an item of which all is inline besides lists. -/
theorem itemText_eq (ceiling indent : Int)
    (h : ∀ t ∈ item.children, isList t = false → IsInline t) :
    itemText ceiling indent item =
      concat ((item.children.filter (!isList ·)).map Token.plainText) ++
        concat ((item.children.filter isList).map fun t =>
          elementsText (compileList ceiling (indent + 1) t)) := by
  rw [itemText, elementsText_compileNested, runsText_runsOf fun t ht => ?_]
  obtain ⟨hmem, hother⟩ := List.mem_filter.1 ht
  exact h t hmem (by simpa using hother)

/-- What is seen of an item that holds a block of inline content and then lists. -/
theorem itemText_of_block {p : Token} (hchildren : item.children = p :: ts)
    (hother : isList p = false) (hinline : IsInline p) (hlists : ∀ t ∈ ts, isList t)
    (ceiling indent : Int) :
    itemText ceiling indent item = p.plainText ++
      concat (ts.map fun t => elementsText (compileList ceiling (indent + 1) t)) := by
  have hblocks : (p :: ts).filter (!isList ·) = [p] := by
    rw [List.filter_cons_of_pos (by simp [hother]), List.filter_eq_nil_iff.2]
    exact fun t ht => by simp [hlists t ht]
  have hfiltered : (p :: ts).filter isList = ts := by
    rw [List.filter_cons_of_neg (by simp [hother]), List.filter_eq_self.2 hlists]
  have hinlines : ∀ t ∈ item.children, isList t = false → IsInline t := by
    intro t ht hnot
    rw [hchildren] at ht
    rcases List.mem_cons.1 ht with rfl | ht
    · exact hinline
    · rw [hlists t ht] at hnot
      cases hnot
  rw [itemText_eq ceiling indent hinlines, hchildren, hblocks, hfiltered, List.map_singleton,
    concat_cons, concat_nil, String.append_empty]

theorem flatMap_runs_flush (ordered : Bool) (indent : Int) (items : List (List TextRun)) :
    (flush ordered indent items).flatMap RichElement.runs = items.flatten := by
  rw [flush]
  split
  · next hempty => rw [List.isEmpty_iff.1 hempty]; rfl
  · rw [List.flatMap_singleton, RichElement.runs]

/-- The runs of an item: of what it holds besides lists, and then of its lists. -/
def itemRuns (ceiling indent : Int) (item : Token) : List TextRun :=
  runsOf ceiling (item.children.filter (!isList ·))
    ++ (compileNested ceiling (indent + 1) item.children).flatMap RichElement.runs

theorem flatten_itemRuns? (hbelow : indent < ceiling) (item : Token) :
    (itemRuns? ceiling indent item).toList.flatten =
      runsOf ceiling (item.children.filter (!isList ·)) := by
  rw [itemRuns?, if_neg (Int.not_le.2 hbelow)]
  by_cases hnone : (item.children.filter (!isList ·)).isEmpty
  · simp only [hnone, if_true]
    rw [List.isEmpty_iff.1 hnone, runsOf, compileAll]
    rfl
  · simp only [hnone, Bool.false_eq_true, if_false, Option.toList_some, List.flatten_singleton]

/-- The runs of the items stand one after the other, behind what is collected. -/
theorem flatMap_runs_compileItems (hbelow : indent < ceiling) (ordered : Bool)
    (collected : List (List TextRun)) (items : List Token) :
    (compileItems ceiling indent ordered collected items).flatMap RichElement.runs =
      collected.flatten ++ items.flatMap (itemRuns ceiling indent) := by
  induction items generalizing collected with
  | nil => rw [compileItems, flatMap_runs_flush, List.flatMap_nil, List.append_nil]
  | cons item rest ih =>
    have hcollected : (collected ++ (itemRuns? ceiling indent item).toList).flatten =
        collected.flatten ++ runsOf ceiling (item.children.filter (!isList ·)) := by
      rw [List.flatten_append, flatten_itemRuns? hbelow]
    rw [compileItems_cons hbelow, List.flatMap_cons, itemRuns]
    cases hholds : holdsList item with
    | true =>
      rw [if_pos rfl, List.flatMap_append, List.flatMap_append, flatMap_runs_flush, hcollected, ih,
        List.flatten_nil, List.nil_append]
      simp only [List.append_assoc]
    | false =>
      have hnone : item.children.filter isList = [] := by
        rw [List.filter_eq_nil_iff]
        intro u hu
        exact Bool.not_eq_true _ ▸ List.any_eq_false.1 hholds u hu
      rw [if_neg Bool.false_ne_true, ih, hcollected, compileNested_eq_flatMap, hnone,
        List.flatMap_nil, List.flatMap_nil, List.append_nil, List.append_assoc]

theorem flatMap_runs_compileList (hbelow : indent < ceiling) (t : Token) :
    (compileList ceiling indent t).flatMap RichElement.runs =
      t.children.flatMap (itemRuns ceiling indent) := by
  rw [compileList_eq, if_neg (Int.not_le.2 hbelow), flatMap_runs_compileItems hbelow,
    List.flatten_nil, List.nil_append]

theorem runsText_itemRuns (ceiling indent : Int) (item : Token) :
    runsText (itemRuns ceiling indent item) = itemText ceiling indent item := by
  rw [itemRuns, runsText_append, itemText, elementsText]

theorem elementsText_compileList (hbelow : indent < ceiling) (t : Token) :
    elementsText (compileList ceiling indent t) =
      concat (t.children.map (itemText ceiling indent)) := by
  rw [elementsText, flatMap_runs_compileList hbelow, runsText_flatMap]
  exact congrArg concat (List.map_congr_left fun item _ => runsText_itemRuns ceiling indent item)

end RichText

end AlertBridge
