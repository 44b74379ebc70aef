import AlertBridge.Proofs.RichText.InlineStop
import AlertBridge.Proofs.Token.PlainText
import Mathlib.Data.List.Basic

/-!
# Inline styles are those along the way

The runs of an inline token are the runs of the stops of its compilation. The induction is on the
tree, with the styles at a token written as those inherited by the root along the way to it; the
step adds one kind to the way (`along_append`).

Two chains of styled tokens around a forest that have the same kinds give the same styles, so they
can only be told apart by their length, which decides what is too deep.

Main statement: `compileInline_stops`.
-/

namespace AlertBridge

/-! ## Styles along a way -/

namespace StyleSet

theorem along_nil (styles : StyleSet) : styles.along [] = styles := by
  simp [along]

theorem along_append (styles : StyleSet) (path more : List TokenKind) :
    styles.along (path ++ more) = (styles.along path).along more := by
  simp [along, Bool.or_assoc]

/-- One more kind on the way adds its style, if it has one. -/
theorem along_singleton (styles : StyleSet) (kind : TokenKind) :
    styles.along [kind] = styles.add (RichText.styleOf kind) := by
  cases kind <;> simp [along, add, insert, RichText.styleOf]

/-- Neither the order nor the number of the kinds on the way matters. -/
theorem along_congr (styles : StyleSet) {path path' : List TokenKind}
    (h : ∀ k, k ∈ path ↔ k ∈ path') : styles.along path = styles.along path' := by
  simp [along, h]

theorem toFields_eq (styles : StyleSet) : styles.toFields = RichText.styleJson styles := by
  rcases styles with ⟨_ | _, _ | _, _ | _, _ | _⟩ <;> rfl

end StyleSet

namespace RichText

theorem toJson_eq (run : TextRun) : run.toJson = runJson run := by
  cases run <;> simp [TextRun.toJson, runJson, StyleSet.toFields_eq]

/-! ## Runs at stops -/

theorem compileAll_eq_flatMap (ceiling : Int) (styles : StyleSet) (depth : Int)
    (ts : List Token) :
    compileAll ceiling styles depth ts = ts.flatMap (compileInline ceiling styles depth) := by
  induction ts with
  | nil => rw [compileAll, List.flatMap_nil]
  | cons t ts ih => rw [compileAll, ih, List.flatMap_cons]

theorem stopsAll_eq_flatMap (ceiling : Int) (path : List TokenKind) (depth : Int)
    (ts : List Token) : stopsAll ceiling path depth ts = ts.flatMap (stops ceiling path depth) := by
  induction ts with
  | nil => rw [stopsAll, List.flatMap_nil]
  | cons t ts ih => rw [stopsAll, ih, List.flatMap_cons]

theorem stops_eq (ceiling : Int) (path : List TokenKind) (depth : Int) (t : Token) :
    stops ceiling path depth t =
      if depth > ceiling then [⟨path ++ [t.kind], t, true⟩]
      else if openKinds.contains t.kind then
        stopsAll ceiling (path ++ [t.kind]) (depth + 1) t.children
      else [⟨path ++ [t.kind], t, false⟩] := by
  cases t
  rw [stops]

theorem textRuns_eq (text : String) (styles : StyleSet) :
    textRuns text styles = (textRun? text styles).toList := by
  rw [textRuns, textRun?]
  split <;> rfl

theorem toList_run? (styles : StyleSet) (stop : Stop) :
    (stop.run? styles).toList = [stop].filterMap (Stop.run? styles) := by
  rw [List.filterMap_cons]
  cases stop.run? styles <;> rfl

theorem compileInline_eq (ceiling : Int) (styles : StyleSet) (depth : Int) (t : Token) :
    compileInline ceiling styles depth t =
      let inner := styles.add (styleOf t.kind)
      if depth > ceiling then textRuns t.plainText inner
      else match t.kind with
        | .text => textRuns t.text styles
        | .escape => textRuns t.text styles
        | .codespan => [.text (unescapeHtml t.text) inner]
        | .link => [.link (t.href.getD "") t.text styles]
        | kind => if isTransparent kind then compileAll ceiling inner (depth + 1) t.children
          else [] := by
  cases t
  rfl

/-- A token that is too deep becomes one run. -/
theorem compileInline_of_gt {ceiling depth : Int} (hdeep : depth > ceiling) (styles : StyleSet)
    (path : List TokenKind) (t : Token) :
    compileInline ceiling (styles.along path) depth t =
      (Stop.run? styles ⟨path ++ [t.kind], t, true⟩).toList := by
  rw [compileInline_eq, ← StyleSet.along_singleton, ← StyleSet.along_append]
  simp only [if_pos hdeep, textRuns_eq, Stop.run?, if_true]

/-- The compilation goes on to the children of an open token. -/
theorem compileInline_of_open {ceiling depth : Int} (hdepth : ¬ depth > ceiling) {t : Token}
    (hopen : openKinds.contains t.kind) (styles : StyleSet) (path : List TokenKind) :
    compileInline ceiling (styles.along path) depth t =
      compileAll ceiling (styles.along (path ++ [t.kind])) (depth + 1) t.children := by
  rw [compileInline_eq, ← StyleSet.along_singleton, ← StyleSet.along_append]
  simp only [if_neg hdepth]
  cases hkind : t.kind <;> first | rfl | (rw [hkind] at hopen; cases hopen)

/-- At any other token it makes at most one run. -/
theorem compileInline_of_closed {ceiling depth : Int} (hdepth : ¬ depth > ceiling) {t : Token}
    (hclosed : ¬ openKinds.contains t.kind) (styles : StyleSet) (path : List TokenKind) :
    compileInline ceiling (styles.along path) depth t =
      (Stop.run? styles ⟨path ++ [t.kind], t, false⟩).toList := by
  have hstyles := StyleSet.along_append styles path [t.kind]
  rw [StyleSet.along_singleton] at hstyles
  rw [compileInline_eq, Stop.run?]
  simp only [if_neg hdepth, Bool.false_eq_true, if_false, hstyles, textRuns_eq]
  cases hkind : t.kind
  case strong | em | del | paragraph | listitem | heading | blockquote =>
    exact absurd (hkind ▸ rfl) hclosed
  all_goals rfl

/-- The runs of tokens are those of their stops if this holds of each of them. -/
theorem compileAll_along {ceiling : Int} {styles : StyleSet} {path : List TokenKind} {depth : Int}
    {ts : List Token} (h : ∀ t ∈ ts, compileInline ceiling (styles.along path) depth t =
      (stops ceiling path depth t).filterMap (Stop.run? styles)) :
    compileAll ceiling (styles.along path) depth ts =
      (stopsAll ceiling path depth ts).filterMap (Stop.run? styles) := by
  rw [compileAll_eq_flatMap, stopsAll_eq_flatMap, List.filterMap_flatMap]
  exact List.flatMap_congr h

theorem compileInline_along (t : Token) : ∀ (ceiling : Int) (styles : StyleSet)
    (path : List TokenKind) (depth : Int), compileInline ceiling (styles.along path) depth t =
      (stops ceiling path depth t).filterMap (Stop.run? styles) := by
  induction t using Token.induction_on_children with
  | step t ih =>
    intro ceiling styles path depth
    rw [stops_eq]
    split
    · next hdeep =>
      rw [compileInline_of_gt hdeep, toList_run?]
    split
    · next hdepth hopen =>
      rw [compileInline_of_open hdepth hopen]
      exact compileAll_along fun u hu => ih u hu ceiling styles _ _
    · next hdepth hclosed =>
      rw [compileInline_of_closed hdepth hclosed, toList_run?]

theorem compileAll_eq_filterMap (ceiling : Int) (styles : StyleSet) (depth : Int)
    (ts : List Token) : compileAll ceiling styles depth ts =
      (stopsAll ceiling [] depth ts).filterMap (Stop.run? styles) := by
  have hruns := compileAll_along fun t (_ : t ∈ ts) => compileInline_along t ceiling styles [] depth
  rwa [StyleSet.along_nil] at hruns

/-! ## Chains of styles -/

variable {ceiling depth : Int} {w : Token} {chain : List Token}

theorem openKinds_contains_of_chain (hchain : IsChain (w :: chain)) :
    openKinds.contains w.kind := by
  rcases hchain w List.mem_cons_self with h | h | h <;> rw [h] <;> rfl

theorem IsChain.tail (hchain : IsChain (w :: chain)) : IsChain chain :=
  fun u hu => hchain u (List.mem_cons_of_mem _ hu)

/-- The outermost token of a chain that is not too deep adds its style. -/
theorem compileAll_wrap_cons (hdepth : ¬ depth > ceiling) (hchain : IsChain (w :: chain))
    (styles : StyleSet) (ts : List Token) :
    compileAll ceiling styles depth (wrap (w :: chain) ts) =
      compileAll ceiling (styles.along [w.kind]) (depth + 1) (wrap chain ts) := by
  have hkind : openKinds.contains w.kind := openKinds_contains_of_chain hchain
  have hopen : openKinds.contains ({ w with children := wrap chain ts } : Token).kind := hkind
  have hrun := compileInline_of_open hdepth hopen styles []
  rw [StyleSet.along_nil] at hrun
  rw [wrap, compileAll, compileAll, List.append_nil, hrun, List.nil_append]

theorem length_cons_eq (depth : Int) (w : Token) (chain : List Token) :
    depth + (w :: chain).length = depth + 1 + chain.length := by
  rw [List.length_cons]
  omega

/-- A chain of which no token is too deep adds all of its styles. -/
theorem compileAll_wrap (hchain : IsChain chain)
    (hfits : chain ≠ [] → depth + chain.length ≤ ceiling + 1) (styles : StyleSet)
    (ts : List Token) :
    compileAll ceiling styles depth (wrap chain ts) =
      compileAll ceiling (styles.along (chain.map Token.kind)) (depth + chain.length) ts := by
  induction chain generalizing depth styles with
  | nil => simp [wrap, StyleSet.along_nil]
  | cons w chain ih =>
    have hlength : depth + 1 + chain.length ≤ ceiling + 1 := by
      rw [← length_cons_eq depth w chain]
      exact hfits (List.cons_ne_nil _ _)
    have hdepth : ¬ depth > ceiling := by omega
    have hrest := ih hchain.tail (fun _ => hlength) (styles.along [w.kind])
    rw [compileAll_wrap_cons hdepth hchain, hrest, ← StyleSet.along_append, length_cons_eq]
    rfl

/-! ### Forests in which nothing is too deep -/

theorem map_cut_stopsAll {path path' : List TokenKind} {ts : List Token}
    (h : ∀ t ∈ ts, (stops ceiling path depth t).map Stop.cut =
      (stops ceiling path' depth t).map Stop.cut) :
    (stopsAll ceiling path depth ts).map Stop.cut =
      (stopsAll ceiling path' depth ts).map Stop.cut := by
  rw [stopsAll_eq_flatMap, stopsAll_eq_flatMap, List.map_flatMap, List.map_flatMap]
  exact List.flatMap_congr h

theorem map_cut_stops (t : Token) : ∀ (path path' : List TokenKind) (depth : Int),
    (stops ceiling path depth t).map Stop.cut = (stops ceiling path' depth t).map Stop.cut := by
  induction t using Token.induction_on_children with
  | step t ih =>
    intro path path' depth
    rw [stops_eq, stops_eq]
    split
    · rfl
    split
    · exact map_cut_stopsAll fun u hu => ih u hu _ _ _
    · rfl

/-- What is too deep does not depend on the kinds above. -/
theorem uncut_iff (path : List TokenKind) (ts : List Token) :
    Uncut ceiling depth ts ↔ ∀ stop ∈ stopsAll ceiling path depth ts, stop.cut = false := by
  have hcut : (stopsAll ceiling [] depth ts).map Stop.cut =
      (stopsAll ceiling path depth ts).map Stop.cut :=
    map_cut_stopsAll fun t _ => map_cut_stops t _ _ _
  have hmap (stops : List Stop) :
      (∀ stop ∈ stops, stop.cut = false) ↔ ∀ b ∈ stops.map Stop.cut, b = false := by simp
  rw [Uncut, hmap, hcut, ← hmap]

/-- Tokens stop at the same places at two depths, without a cut at either, if each of them does. -/
theorem stopsAll_depth_congr {path : List TokenKind} {depth' : Int} {ts : List Token}
    (hstops : ∀ t ∈ ts, (∀ stop ∈ stops ceiling path depth t, stop.cut = false) →
      (∀ stop ∈ stops ceiling path depth' t, stop.cut = false) →
        stops ceiling path depth t = stops ceiling path depth' t)
    (h : ∀ stop ∈ stopsAll ceiling path depth ts, stop.cut = false)
    (h' : ∀ stop ∈ stopsAll ceiling path depth' ts, stop.cut = false) :
    stopsAll ceiling path depth ts = stopsAll ceiling path depth' ts := by
  rw [stopsAll_eq_flatMap] at h h'
  rw [stopsAll_eq_flatMap, stopsAll_eq_flatMap]
  refine List.flatMap_congr fun t ht => hstops t ht ?_ ?_
  · exact fun stop hstop => h stop (List.mem_flatMap_of_mem ht hstop)
  · exact fun stop hstop => h' stop (List.mem_flatMap_of_mem ht hstop)

theorem stops_depth_congr (t : Token) : ∀ (path : List TokenKind) (depth depth' : Int),
    (∀ stop ∈ stops ceiling path depth t, stop.cut = false) →
    (∀ stop ∈ stops ceiling path depth' t, stop.cut = false) →
      stops ceiling path depth t = stops ceiling path depth' t := by
  induction t using Token.induction_on_children with
  | step t ih =>
    intro path depth depth' h h'
    rw [stops_eq] at h h'
    have hdepth : ¬ depth > ceiling := fun hdeep => by simp [hdeep] at h
    have hdepth' : ¬ depth' > ceiling := fun hdeep => by simp [hdeep] at h'
    rw [if_neg hdepth] at h
    rw [if_neg hdepth'] at h'
    rw [stops_eq, stops_eq, if_neg hdepth, if_neg hdepth']
    split
    · next hopen =>
      rw [if_pos hopen] at h h'
      exact stopsAll_depth_congr (fun u hu => ih u hu _ _ _) h h'
    · rfl

/-- Where nothing is too deep, the depth does not matter. -/
theorem compileAll_depth_congr {depth' : Int} {ts : List Token} (h : Uncut ceiling depth ts)
    (h' : Uncut ceiling depth' ts) (styles : StyleSet) :
    compileAll ceiling styles depth ts = compileAll ceiling styles depth' ts := by
  have hstops := stopsAll_depth_congr (fun t _ => stops_depth_congr t [] depth depth') h h'
  rw [compileAll_eq_filterMap, compileAll_eq_filterMap, hstops]

theorem uncut_wrap_cons (hchain : IsChain (w :: chain)) {ts : List Token}
    (h : Uncut ceiling depth (wrap (w :: chain) ts)) :
    ¬ depth > ceiling ∧ Uncut ceiling (depth + 1) (wrap chain ts) := by
  have hkind : openKinds.contains w.kind := openKinds_contains_of_chain hchain
  rw [Uncut, wrap, stopsAll, stopsAll, List.append_nil, stops_eq] at h
  have hdepth : ¬ depth > ceiling := fun hdeep => by simp [hdeep] at h
  rw [if_neg hdepth, if_pos hkind] at h
  exact ⟨hdepth, (uncut_iff _ _).2 h⟩

/-- If nothing is too deep in a forest with its chain, then no token of the chain is, and nothing
in the forest where the chain ends. -/
theorem uncut_wrap (hchain : IsChain chain) {ts : List Token}
    (h : Uncut ceiling depth (wrap chain ts)) :
    (chain ≠ [] → depth + chain.length ≤ ceiling + 1) ∧
      Uncut ceiling (depth + chain.length) ts := by
  induction chain generalizing depth with
  | nil => simpa [wrap] using h
  | cons w chain ih =>
    obtain ⟨hdepth, hrest⟩ := uncut_wrap_cons hchain h
    obtain ⟨hfits, huncut⟩ := ih hchain.tail hrest
    rw [length_cons_eq]
    refine ⟨fun _ => ?_, huncut⟩
    rcases eq_or_ne chain [] with rfl | hne
    · simp only [List.length_nil]
      omega
    · exact hfits hne

/-! ### Chains that are too deep -/

theorem wrap_ne_nil {ts : List Token} (hne : ts ≠ []) : wrap chain ts ≠ [] := by
  cases chain with
  | nil => exact hne
  | cons w chain => exact List.cons_ne_nil _ _

/-- A chain does not change what is seen of a forest. -/
theorem concat_plainText_wrap {ts : List Token} (hne : ts ≠ []) :
    concat ((wrap chain ts).map Token.plainText) = concat (ts.map Token.plainText) := by
  induction chain with
  | nil => rfl
  | cons w chain ih =>
    have hchildren : ({ w with children := wrap chain ts } : Token).children ≠ [] :=
      wrap_ne_nil hne
    rw [wrap, List.map_cons, List.map_nil, concat_cons, concat_nil,
      Token.plainText_of_children_ne_nil hchildren, ← ih, String.append_empty]

/-- A chain that is too deep shows what is seen of the forest, with the styles of the tokens that
are reached. -/
theorem compileAll_wrap_of_cut (hchain : IsChain chain) (hne : chain ≠ [])
    (hcut : ceiling + 1 < depth + chain.length) {ts : List Token} (hts : ts ≠ [])
    (styles : StyleSet) :
    compileAll ceiling styles depth (wrap chain ts) =
      (textRun? (concat (ts.map Token.plainText))
        (styles.along ((reached ceiling depth chain).map Token.kind))).toList := by
  induction chain generalizing depth styles with
  | nil => exact absurd rfl hne
  | cons w chain ih =>
    rw [List.length_cons] at hcut
    by_cases hdeep : depth > ceiling
    · have hrun := compileInline_of_gt hdeep styles [] { w with children := wrap chain ts }
      have htext : Token.plainText { w with children := wrap chain ts } =
          concat (ts.map Token.plainText) := by
        rw [Token.plainText_of_children_ne_nil (wrap_ne_nil hts), concat_plainText_wrap hts]
      rw [StyleSet.along_nil] at hrun
      rw [wrap, compileAll, compileAll, List.append_nil, hrun, Stop.run?, if_pos rfl, htext,
        reached, if_pos hdeep]
      rfl
    · have hne' : chain ≠ [] := by
        rintro rfl
        rw [List.length_nil] at hcut
        omega
      have hcut' : ceiling + 1 < depth + 1 + chain.length := by omega
      rw [compileAll_wrap_cons hdeep hchain, ih hchain.tail hne' hcut', reached, if_neg hdeep,
        ← StyleSet.along_append]
      rfl

/-! ## The runs of inline content -/

/-- **Inline styles are exactly those along the way.** The runs of a token are those of the stops
of its compilation, and a run is written with its styles in the order of the vocabulary. So two
chains of the same kinds around a forest give the same runs if nothing is too deep, or if the
chains are equally long and end before the ceiling; and so do two chains that go past the ceiling
if what is reached of them has the same kinds. -/
theorem compileInline_stops (ceiling : Int) (styles : StyleSet) (depth : Int) :
    (∀ t, compileInline ceiling styles depth t =
        (stops ceiling [] depth t).filterMap (Stop.run? styles)) ∧
      (∀ run : TextRun, run.toJson = runJson run) ∧
      ∀ ts chain chain', IsChain chain → IsChain chain' →
        ((∀ k, k ∈ chain.map Token.kind ↔ k ∈ chain'.map Token.kind) →
          (Uncut ceiling depth (wrap chain ts) ∧ Uncut ceiling depth (wrap chain' ts)) ∨
            (chain.length = chain'.length ∧ depth + chain.length ≤ ceiling + 1) →
          compileAll ceiling styles depth (wrap chain ts) =
            compileAll ceiling styles depth (wrap chain' ts)) ∧
        ((∀ k, k ∈ (reached ceiling depth chain).map Token.kind ↔
            k ∈ (reached ceiling depth chain').map Token.kind) →
          ts ≠ [] → chain ≠ [] → chain' ≠ [] →
          ceiling + 1 < depth + chain.length → ceiling + 1 < depth + chain'.length →
          compileAll ceiling styles depth (wrap chain ts) =
            compileAll ceiling styles depth (wrap chain' ts)) := by
  refine ⟨fun t => ?_, toJson_eq, fun ts chain chain' hchain hchain' => ⟨?_, ?_⟩⟩
  · rw [← compileInline_along, StyleSet.along_nil]
  · rintro hkinds (⟨h, h'⟩ | ⟨hlength, hfits⟩)
    · obtain ⟨hfits, huncut⟩ := uncut_wrap hchain h
      obtain ⟨hfits', huncut'⟩ := uncut_wrap hchain' h'
      -- The chains may end at different depths, but after neither is anything too deep.
      rw [compileAll_wrap hchain hfits, compileAll_wrap hchain' hfits',
        StyleSet.along_congr styles hkinds]
      exact compileAll_depth_congr huncut huncut' _
    · have hfits' : depth + chain'.length ≤ ceiling + 1 := hlength ▸ hfits
      rw [compileAll_wrap hchain (fun _ => hfits), compileAll_wrap hchain' (fun _ => hfits'),
        StyleSet.along_congr styles hkinds, hlength]
  · intro hkinds hts hne hne' hcut hcut'
    rw [compileAll_wrap_of_cut hchain hne hcut hts, compileAll_wrap_of_cut hchain' hne' hcut' hts,
      StyleSet.along_congr styles hkinds]

end RichText

end AlertBridge
