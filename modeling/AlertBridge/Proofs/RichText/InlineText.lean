import AlertBridge.Proofs.RichText.InlineStyles
import AlertBridge.Proofs.Text.Concat
import Mathlib.Data.List.Forall2

/-!
# Inline content keeps its text

The texts of runs, one after the other, are what a reader sees of them. The compilation of an inline
tree stops at its leaves and links, and at any token that lies too deep. What is shown there is what
is seen of the token: the text of a leaf, with the escapes of a code span undone, the text of a
link, which is that of its children, and all the text below a token that is cut. The tokens on the
way have no text of their own. So the ceiling divides the text into runs in one way or another, and
nothing is lost or said twice.

## Main definitions

* `runsText`: the text of runs
* `IsInline`: trees whose text is in their leaves and links
* `Stop.shown`: the text that is shown where the compilation stops

## Main results

* `runsText_compileInline`: inline trees keep their text
* `exists_texts_compileInline`: the same for runs as data, and for each of the stops
-/

namespace AlertBridge

/-- The text of a run. -/
def TextRun.content : TextRun → String
  | .text shown _ => shown
  | .link _ shown _ => shown

namespace RichText

/-! ## The text of runs -/

/-- The texts of runs, one after the other. -/
def runsText (runs : List TextRun) : String := concat (runs.map TextRun.content)

@[simp] theorem runsText_nil : runsText [] = "" := rfl

@[simp] theorem runsText_append (runs runs' : List TextRun) :
    runsText (runs ++ runs') = runsText runs ++ runsText runs' := by
  rw [runsText, List.map_append, concat_append, runsText, runsText]

theorem runsText_flatMap {α : Type} (f : α → List TextRun) (xs : List α) :
    runsText (xs.flatMap f) = concat (xs.map fun x => runsText (f x)) :=
  concat_map_flatMap f xs

/-- Where no run is made, nothing is shown. -/
theorem runsText_filterMap {α : Type} (f : α → Option TextRun) (xs : List α) :
    runsText (xs.filterMap f) = concat (xs.map fun x => ((f x).map TextRun.content).getD "") := by
  induction xs with
  | nil => rfl
  | cons x xs ih =>
    rw [List.map_cons, concat_cons, ← ih]
    cases hx : f x with
    | none =>
      rw [List.filterMap_cons_none hx]
      exact String.empty_append.symm
    | some run =>
      rw [List.filterMap_cons_some hx]
      rfl

variable {ceiling depth : Int} {t u : Token} {stop : Stop} {path : List TokenKind}

/-! ## Inline trees -/

/-- An inline tree whose text is in its leaves, and in links that show the text of their
children. -/
inductive IsInline : Token → Prop where
  | leaf {t : Token} (hkind : t.kind = .text ∨ t.kind = .escape ∨ t.kind = .codespan)
      (hchildren : t.children = []) : IsInline t
  | link {t : Token} (hkind : t.kind = .link) (htext : t.text = t.plainText) : IsInline t
  | holder {t : Token} (hkind : openKinds.contains t.kind) (htext : t.text = "")
      (hchildren : ∀ u ∈ t.children, IsInline u) : IsInline t

theorem isInline_ofText (s : String) : IsInline (.ofText s) := .leaf (.inl rfl) rfl

/-- A token that the compilation goes through has no text of its own, and inline children. -/
theorem IsInline.of_open (h : IsInline t) (hopen : openKinds.contains t.kind) :
    t.text = "" ∧ ∀ u ∈ t.children, IsInline u := by
  cases h with
  | leaf hkind =>
    rcases hkind with hkind | hkind | hkind
    all_goals
      rw [hkind] at hopen
      cases hopen
  | link hkind =>
    rw [hkind] at hopen
    cases hopen
  | holder _ htext hchildren => exact ⟨htext, hchildren⟩

/-! ## What is shown where the compilation stops -/

/-- The compilation stops at the token itself, which is then cut or does not hold inline content,
or it goes on to the children. -/
theorem stops_cases (ceiling : Int) (path : List TokenKind) (depth : Int) (t : Token) :
    (∃ cut, stops ceiling path depth t = [⟨path ++ [t.kind], t, cut⟩] ∧
        (cut = true ∨ ¬ openKinds.contains t.kind)) ∨
      openKinds.contains t.kind ∧ stops ceiling path depth t =
        t.children.flatMap (stops ceiling (path ++ [t.kind]) (depth + 1)) := by
  rw [stops_eq]
  split
  · exact .inl ⟨true, rfl, .inl rfl⟩
  split
  · next hopen => exact .inr ⟨hopen, stopsAll_eq_flatMap _ _ _ _⟩
  · next hclosed => exact .inl ⟨false, rfl, .inr hclosed⟩

/-- An inline tree has its stops at inline trees, cut or without inline content. -/
theorem IsInline.of_mem_stops (h : IsInline t) (hstop : stop ∈ stops ceiling path depth t) :
    IsInline stop.token ∧ (stop.cut ∨ ¬ openKinds.contains stop.token.kind) := by
  induction t using Token.induction_on_children generalizing path depth with
  | step t ih =>
    rcases stops_cases ceiling path depth t with ⟨cut, hstops, hclosed⟩ | ⟨hopen, hstops⟩
    · rw [hstops] at hstop
      obtain rfl := List.mem_singleton.1 hstop
      exact ⟨h, hclosed⟩
    · rw [hstops] at hstop
      obtain ⟨u, hu, hstop⟩ := List.mem_flatMap.1 hstop
      exact ih u hu ((h.of_open hopen).2 u hu) hstop

/-- What is seen of an inline tree is what is seen at its stops. -/
theorem concat_plainText_stops (h : IsInline t) :
    concat ((stops ceiling path depth t).map fun stop => stop.token.plainText) = t.plainText := by
  induction t using Token.induction_on_children generalizing path depth with
  | step t ih =>
    rcases stops_cases ceiling path depth t with ⟨cut, hstops, -⟩ | ⟨hopen, hstops⟩
    · rw [hstops, List.map_singleton, concat_cons, concat_nil, String.append_empty]
    · obtain ⟨htext, hchildren⟩ := h.of_open hopen
      rw [hstops, concat_map_flatMap, Token.plainText_of_text_eq_empty htext]
      exact congrArg concat (List.map_congr_left fun u hu => ih u hu (hchildren u hu))

/-- The text that is shown at a stop, if any. -/
def Stop.shown (styles : StyleSet) (stop : Stop) : String :=
  ((stop.run? styles).map TextRun.content).getD ""

theorem content_textRun? (text : String) (styles : StyleSet) :
    ((textRun? text styles).map TextRun.content).getD "" = text := by
  rw [textRun?]
  split
  · next hempty => exact hempty.symm
  · rfl

/-- At a stop that is cut or holds no inline content, the text of the token is shown. -/
theorem Stop.shown_eq (h : IsInline stop.token)
    (hstop : stop.cut ∨ ¬ openKinds.contains stop.token.kind) (styles : StyleSet) :
    stop.shown styles = stop.token.plainText := by
  rw [Stop.shown, Stop.run?]
  by_cases hcut : stop.cut
  · rw [if_pos hcut, content_textRun?]
  rw [if_neg hcut]
  cases h with
  | leaf hkind hchildren =>
    rw [Token.plainText_of_children_eq_nil hchildren]
    rcases hkind with hkind | hkind | hkind
    · simp [hkind, content_textRun?, Token.isReference]
    · simp [hkind, content_textRun?, Token.isReference]
    · simp [hkind, Token.isReference, TextRun.content]
  | link hkind htext =>
    rw [hkind]
    exact htext
  | holder hkind => exact absurd hkind (hstop.resolve_left hcut)

theorem shown_of_mem_stops (h : IsInline t) (styles : StyleSet) :
    ∀ stop ∈ stops ceiling path depth t, stop.shown styles = stop.token.plainText := by
  intro stop hstop
  obtain ⟨htoken, hclosed⟩ := h.of_mem_stops hstop
  exact Stop.shown_eq htoken hclosed styles

/-- **Inline trees keep their text**, whether and wherever they are cut. -/
theorem runsText_compileInline (h : IsInline t) (styles : StyleSet) (depth : Int) :
    runsText (compileInline ceiling styles depth t) = t.plainText := by
  have hstops := compileInline_along t ceiling styles [] depth
  rw [StyleSet.along_nil] at hstops
  calc runsText (compileInline ceiling styles depth t)
      = concat ((stops ceiling [] depth t).map (Stop.shown styles)) := by
        rw [hstops, runsText_filterMap]
        rfl
    _ = concat ((stops ceiling [] depth t).map fun stop => stop.token.plainText) :=
        congrArg concat (List.map_congr_left (shown_of_mem_stops h styles))
    _ = t.plainText := concat_plainText_stops h

/-! ## Runs as data -/

theorem get_text_toJson (run : TextRun) : run.toJson.get "text" = .ok (.str run.content) := by
  cases run <;> rfl

/-- **Inline content keeps its text.** Every run of an inline tree has a text, and the texts of all
runs are what is seen of the tree, whatever the ceiling and the depth at which the tree lies. At
each place where the compilation stops, cut or not, the text is what is seen of the token there. -/
theorem exists_texts_compileInline (h : IsInline t) (ceiling : Int) (styles : StyleSet)
    (depth : Int) :
    (∃ texts : List String,
        List.Forall₂ (fun run text => run.toJson.get "text" = .ok (.str text))
          (compileInline ceiling styles depth t) texts ∧
        concat texts = t.plainText) ∧
      ∀ stop ∈ stops ceiling [] depth t, stop.shown styles = stop.token.plainText := by
  refine ⟨⟨(compileInline ceiling styles depth t).map TextRun.content, ?_, ?_⟩, ?_⟩
  · rw [List.forall₂_map_right_iff, List.forall₂_same]
    exact fun run _ => get_text_toJson run
  · exact runsText_compileInline h styles depth
  · exact shown_of_mem_stops h styles

/-- Emphasis with a code span in it. -/
def spanInEmphasis : Token :=
  { kind := .em, children := [.ofText "b", { kind := .codespan, text := "&lt;" }] }

/-- A paragraph with emphasis in strong text, a link, and deleted text of which nothing is left. -/
def mixedParagraph : Token :=
  { kind := .paragraph, children := [
    .ofText "a", { kind := .strong, children := [spanInEmphasis] },
    { kind := .link, text := "c", href := some "u", children := [.ofText "c"] },
    { kind := .del }] }

theorem isInline_mixedParagraph : IsInline mixedParagraph := by
  have hemphasis : IsInline spanInEmphasis := by
    refine .holder rfl rfl (List.forall_mem_cons.2 ⟨isInline_ofText "b", ?_⟩)
    exact List.forall_mem_singleton.2 (.leaf (.inr (.inr rfl)) rfl)
  refine .holder rfl rfl (List.forall_mem_cons.2 ⟨isInline_ofText "a", ?_⟩)
  refine List.forall_mem_cons.2 ⟨.holder rfl rfl (List.forall_mem_singleton.2 hemphasis), ?_⟩
  refine List.forall_mem_cons.2 ⟨.link rfl (by decide +kernel), List.forall_mem_singleton.2 ?_⟩
  exact .holder rfl rfl fun u hu => by cases hu

/-- The emphasis is cut and nothing else is. -/
theorem exists_texts_compileInline_mixedParagraph : IsInline mixedParagraph ∧
    compileInline 1 .empty 0 mixedParagraph =
      [.text "a" .empty, .text "b<" { bold := true, italic := true }, .link "u" "c" .empty] ∧
    ∃ texts : List String,
      List.Forall₂ (fun run text => run.toJson.get "text" = .ok (.str text))
        (compileInline 1 .empty 0 mixedParagraph) texts ∧
      concat texts = "ab<c" := by
  obtain ⟨⟨texts, htexts, hconcat⟩, -⟩ :=
    exists_texts_compileInline isInline_mixedParagraph 1 .empty 0
  have hseen : mixedParagraph.plainText = "ab<c" := by decide +kernel
  exact ⟨isInline_mixedParagraph, by decide +kernel, texts, htexts, hconcat.trans hseen⟩

end RichText

end AlertBridge
