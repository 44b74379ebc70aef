import AlertBridge.Proofs.Token.Shape
import Mathlib.Data.List.Induction

/-!
# The one normal form of texts

Merging leaves a list in which no text is empty and no two texts stand in a row, and what the list
says stays the same: the other tokens are where they were, and so is the text in front of, between
and behind them. Only one list in normal form says that, since it can be woven out of what it says
(`weave_content`). From this come the laws of merging: it does nothing the second time, parts of a
list may be merged first, and so may the tokens of parts of the nodes.

The last of these needs that no text holds anything but text. That this is so before merging follows
from what is left, since a value that is not a text stays in every sum that it goes into
(`textsOnly_of_normalize`).

## Main definitions

* `content`: what a list of tokens says
* `IsTextForm`: a list in normal form that says the same as another one
* `appendMerged`: one more token behind merged ones, of which only the last is looked at

## Main results

* `eq_mergeText_iff`: merging gives the one normal form
* `mergeText_eq_foldl`: tokens may be merged as they come
* `mergeText_laws`: the normal form and its laws
-/

namespace AlertBridge.Token

/-! ## What a list of tokens says -/

/-- The texts have nothing besides their text. -/
def TextsOnly (ts : List Token) : Prop := ∀ t ∈ ts, t.kind = .text → t = ofText t.text

/-- The tokens that are not texts. -/
def others (ts : List Token) : List Token := ts.filter (·.kind ≠ .text)

/-- The texts in front of, between and behind the other tokens, each added up. -/
def gapTexts (ts : List Token) : List String :=
  (ts.splitOnP (·.kind ≠ .text)).map fun run => concat (run.map Token.text)

/-- The tokens that are not texts, and the text in the gaps in front of, between and behind
them. -/
def content (ts : List Token) : List Token × List String := (others ts, gapTexts ts)

/-- The tokens `us` are in normal form and say what `ts` say. -/
structure IsTextForm (ts us : List Token) : Prop where
  textsOnly : TextsOnly us
  normal : IsNormal us
  content_eq : content us = content ts

variable {t u : Token} {ts us : List Token}

theorem textsOnly_cons_iff :
    TextsOnly (t :: ts) ↔ (t.kind = .text → t = ofText t.text) ∧ TextsOnly ts :=
  List.forall_mem_cons

theorem TextsOnly.append (hts : TextsOnly ts) (hus : TextsOnly us) : TextsOnly (ts ++ us) :=
  fun t ht => (List.mem_append.1 ht).elim (hts t) (hus t)

/-- A text adds to the first gap, and another token opens a gap in front. -/
theorem content_cons (t : Token) (ts : List Token) :
    content (t :: ts) = if t.kind = .text then
        ((content ts).1, (content ts).2.modifyHead (t.text ++ ·))
      else (t :: (content ts).1, "" :: (content ts).2) := by
  obtain ⟨run, runs, hruns⟩ := List.exists_cons_of_ne_nil
    (List.splitOnP_ne_nil (fun t : Token => decide (t.kind ≠ .text)) ts)
  simp only [content, others, gapTexts, List.splitOnP_cons_eq_if_modifyHead, hruns]
  by_cases h : t.kind = .text
  · simp [h, concat_cons]
  · simp [h, concat]

theorem content_cons_of_text (h : t.kind = .text) (ts : List Token) :
    content (t :: ts) = ((content ts).1, (content ts).2.modifyHead (t.text ++ ·)) := by
  rw [content_cons, if_pos h]

theorem content_cons_of_ne_text (h : t.kind ≠ .text) (ts : List Token) :
    content (t :: ts) = (t :: (content ts).1, "" :: (content ts).2) := by
  rw [content_cons, if_neg h]

/-- The token in front makes the same difference to what says the same. -/
theorem content_cons_congr (t : Token) (h : content ts = content us) :
    content (t :: ts) = content (t :: us) := by
  rw [content_cons, content_cons, h]

/-! ## Merging does not change what is said -/

theorem content_consMerged_append (t : Token) (ts us : List Token) :
    content (consMerged t ts ++ us) = content (t :: (ts ++ us)) := by
  cases htext : t.isText with
  | false => rw [consMerged_of_ne_text htext, List.cons_append]
  | true =>
    have hkind := (isText_iff.1 htext).1
    by_cases hempty : t.text = ""
    · rw [consMerged_of_empty htext hempty, content_cons_of_text hkind, hempty]
      have hid : (("" : String) ++ ·) = id := funext fun s => String.empty_append
      rw [hid, List.modifyHead_id, id]
    rcases consMerged_of_text htext hempty ts with ⟨u, rest, rfl, hu, heq⟩ | ⟨-, heq⟩
    · have hjoin : ((ofText (t.text ++ u.text)).text ++ ·) = (t.text ++ ·) ∘ (u.text ++ ·) :=
        funext fun s => String.append_assoc
      rw [heq, List.cons_append, List.cons_append, content_cons_of_text rfl,
        content_cons_of_text hkind, content_cons_of_text (isText_iff.1 hu).1,
        List.modifyHead_modifyHead, hjoin]
    · rw [heq, List.cons_append]

theorem content_mergeText_append (ts us : List Token) :
    content (mergeText ts ++ us) = content (ts ++ us) := by
  induction ts with
  | nil => rfl
  | cons t ts ih =>
    rw [mergeText, content_consMerged_append, List.cons_append]
    exact content_cons_congr t ih

theorem content_mergeText (ts : List Token) : content (mergeText ts) = content ts := by
  simpa using content_mergeText_append ts []

theorem content_append_mergeText (ts us : List Token) :
    content (ts ++ mergeText us) = content (ts ++ us) := by
  induction ts with
  | nil => exact content_mergeText us
  | cons t ts ih => exact content_cons_congr t ih

/-! ## Only one list in normal form says it -/

/-- The text of a gap, none if it is empty. -/
def gapToken (s : String) : List Token := if s = "" then [] else [ofText s]

/-- Tokens with the texts of the gaps woven in. -/
def weave : List Token → List String → List Token
  | ts, [] => ts
  | [], s :: _ => gapToken s
  | t :: ts, s :: gaps => gapToken s ++ t :: weave ts gaps

theorem weave_cons (ts : List Token) (s : String) (gaps : List String) :
    weave ts (s :: gaps) = gapToken s ++ weave ts ("" :: gaps) := by
  cases ts <;> simp [weave, gapToken]

/-- Nothing is said in the first gap of a list that does not start with a text. -/
theorem exists_gaps_of_head (h : ∀ t ∈ ts.head?, t.kind ≠ .text) :
    ∃ gaps, (content ts).2 = "" :: gaps := by
  cases ts with
  | nil => exact ⟨[], rfl⟩
  | cons t ts => exact ⟨_, by rw [content_cons_of_ne_text (h t rfl)]⟩

/-- A list in normal form can be woven out of what it says. -/
theorem weave_content (htexts : TextsOnly ts) (h : IsNormal ts) :
    weave (content ts).1 (content ts).2 = ts := by
  induction ts with
  | nil => rfl
  | cons t ts ih =>
    obtain ⟨ht, hts⟩ := textsOnly_cons_iff.1 htexts
    have ih := ih hts h.tail
    by_cases hkind : t.kind = .text
    · obtain ⟨gaps, hgaps⟩ := exists_gaps_of_head fun u hu =>
        (List.isChain_cons.1 h.apart).1 u hu hkind
      have hne : t.text ≠ "" := by
        have hvalue := h.head hkind
        rw [ht hkind, value_of_isText (isText_ofText _)] at hvalue
        simpa [ofText] using hvalue
      rw [hgaps] at ih
      rw [content_cons_of_text hkind, hgaps, List.modifyHead_cons, weave_cons, ih,
        String.append_empty, gapToken, if_neg hne, ← ht hkind, List.singleton_append]
    · rw [content_cons_of_ne_text hkind, weave, ih, gapToken, if_pos rfl, List.nil_append]

theorem TextsOnly.isText (h : TextsOnly ts) : ∀ t ∈ ts, t.kind = .text → t.isText = true := by
  intro t ht hkind
  rw [h t ht hkind]
  rfl

theorem TextsOnly.mergeText (h : TextsOnly ts) : TextsOnly (mergeText ts) :=
  forall_mem_mergeText (fun _ _ => rfl) h

/-- The merged tokens are in normal form and say what was said. -/
theorem isTextForm_mergeText (h : TextsOnly ts) : IsTextForm ts (mergeText ts) where
  textsOnly := h.mergeText
  normal := isNormal_mergeText h.isText
  content_eq := content_mergeText ts

/-- **Merging gives the one normal form.** -/
theorem eq_mergeText_iff (h : TextsOnly ts) : us = mergeText ts ↔ IsTextForm ts us := by
  constructor
  · rintro rfl
    exact isTextForm_mergeText h
  · intro hus
    have hmerged := isTextForm_mergeText h
    rw [← weave_content hus.textsOnly hus.normal, hus.content_eq, ← hmerged.content_eq,
      weave_content hmerged.textsOnly hmerged.normal]

/-- What says the same has the same normal form. -/
theorem mergeText_congr (hts : TextsOnly ts) (hus : TextsOnly us) (h : content ts = content us) :
    mergeText ts = mergeText us := by
  have hform := isTextForm_mergeText hts
  exact (eq_mergeText_iff hus).2 ⟨hform.textsOnly, hform.normal, hform.content_eq.trans h⟩

theorem mergeText_mergeText (h : TextsOnly ts) : mergeText (mergeText ts) = mergeText ts :=
  mergeText_eq_self (isNormal_mergeText h.isText)

/-- The parts of a list may be merged first. -/
theorem mergeText_append (hts : TextsOnly ts) (hus : TextsOnly us) :
    mergeText (ts ++ us) = mergeText (mergeText ts ++ mergeText us) := by
  refine mergeText_congr (hts.append hus) (hts.mergeText.append hus.mergeText) ?_
  rw [content_append_mergeText, content_mergeText_append]

/-! ## Merging tokens as they come -/

/-- One more token behind merged ones. A text joins the last token if that is one. -/
def appendMerged (merged : List Token) (t : Token) : List Token :=
  if t.isText && t.text = "" then merged
  else match merged.getLast? with
    | some u =>
      if t.isText && u.isText then merged.dropLast ++ [ofText (u.text ++ t.text)]
      else merged ++ [t]
    | none => [t]

/-- Only the last token is looked at. -/
theorem appendMerged_cons (u : Token) (h : ts ≠ []) (t : Token) :
    appendMerged (u :: ts) t = u :: appendMerged ts t := by
  obtain ⟨v, hv⟩ := Option.ne_none_iff_exists'.1 (mt List.getLast?_eq_none_iff.1 h)
  have hlast : (u :: ts).getLast? = some v := by
    rw [List.getLast?_cons, hv]
    rfl
  simp only [appendMerged, hv, hlast, List.dropLast_cons_of_ne_nil h]
  split
  · rfl
  · split <;> rfl

theorem appendMerged_of_empty (h : (u.isText && u.text = "") = true) (ts : List Token) :
    appendMerged ts u = ts := by
  rw [appendMerged, if_pos h]

section

variable (h : ¬ (u.isText && u.text = "") = true)

include h

theorem appendMerged_nil : appendMerged [] u = [u] := by
  rw [appendMerged, if_neg h]
  rfl

theorem appendMerged_singleton (t : Token) : appendMerged [t] u =
    if u.isText && t.isText then [ofText (t.text ++ u.text)] else [t, u] := by
  rw [appendMerged, if_neg h]
  rfl

end

theorem consMerged_cons_of_text (h : t.isText = true) (hne : t.text ≠ "") (u : Token)
    (ts : List Token) : consMerged t (u :: ts) =
      if u.isText then ofText (t.text ++ u.text) :: ts else t :: u :: ts := by
  simp [consMerged, h, hne]

/-- It does not matter at which end a token joins first: one in front joins at most the first token,
and one behind the last. Three texts become one, whichever two are joined first. -/
theorem consMerged_appendMerged (t : Token) (ts : List Token) (u : Token) :
    consMerged t (appendMerged ts u) = appendMerged (consMerged t ts) u := by
  by_cases hu : (u.isText && u.text = "") = true
  · rw [appendMerged_of_empty hu, appendMerged_of_empty hu]
  cases htext : t.isText with
  | false =>
    rw [consMerged_of_ne_text htext, consMerged_of_ne_text htext]
    cases ts with
    | nil => simp [appendMerged_nil hu, appendMerged_singleton hu, htext]
    | cons v ts => rw [appendMerged_cons t (List.cons_ne_nil v ts)]
  | true =>
    by_cases hempty : t.text = ""
    · rw [consMerged_of_empty htext hempty, consMerged_of_empty htext hempty]
    have hcons := consMerged_cons_of_text htext hempty
    match ts with
    | [] =>
      have halone : consMerged t [] = [t] := by simp [consMerged, htext, hempty]
      rw [halone, appendMerged_nil hu, appendMerged_singleton hu, hcons, htext, Bool.and_true]
    | [v] =>
      have hjoined (s : String) : (ofText s).isText = true ∧ (ofText s).text = s := ⟨rfl, rfl⟩
      rw [hcons, appendMerged_singleton hu]
      cases hv : v.isText <;> cases hu' : u.isText <;>
        simp [hcons, appendMerged_singleton hu, appendMerged_cons, hv, hu', hjoined,
          String.append_assoc]
    | v :: w :: ts =>
      rw [appendMerged_cons v (List.cons_ne_nil w ts), hcons, hcons]
      split
      · rw [appendMerged_cons _ (List.cons_ne_nil w ts)]
      · rw [appendMerged_cons _ (List.cons_ne_nil v _), appendMerged_cons _ (List.cons_ne_nil w ts)]

theorem mergeText_concat (ts : List Token) (t : Token) :
    mergeText (ts ++ [t]) = appendMerged (mergeText ts) t := by
  induction ts with
  | nil =>
    by_cases h : t.isText && t.text = "" <;> simp_all [mergeText, consMerged, appendMerged]
  | cons u ts ih => rw [List.cons_append, mergeText, ih, consMerged_appendMerged, mergeText]

/-- **Tokens may be merged as they come.** -/
theorem mergeText_eq_foldl (ts : List Token) : mergeText ts = ts.foldl appendMerged [] := by
  induction ts using List.reverseRecOn with
  | nil => rfl
  | append_singleton ts t ih => rw [mergeText_concat, ih, List.foldl_append]; rfl

/-! ## The tokens of nodes -/

theorem isForeignText_ofValue_iff {v : Json} :
    (ofValue v).isForeignText = true ↔ ∀ s, v ≠ .str s := by
  cases v <;> simp [ofValue, ofText, isForeignText]

/-- A value that is not a text leaves one that is not a text where values are added up. -/
theorem exists_isForeignText_of_addForeign (hts : ∀ t ∈ ts, t.HoldsValue)
    (h : addForeign ts = .ok us) (hforeign : ∃ t ∈ ts, t.isForeignText = true) :
    ∃ u ∈ us, u.isForeignText = true := by
  fun_induction addForeign ts generalizing us with
  | case1 t u rest hkinds ih =>
    obtain ⟨sum, hsum, h⟩ := bind_eq_ok_iff.1 h
    obtain ⟨ht, hu⟩ : t.kind = .text ∧ u.kind = .text := by simpa using hkinds
    obtain ⟨hholds, hholds', hrest⟩ := by simpa using hts
    have hvalue : (ofValue sum).HoldsValue := fun _ => by rw [value_ofValue]
    refine ih sum (List.forall_mem_cons.2 ⟨hvalue, hrest⟩) h ?_
    have hstays (v : Token) (hv : v.HoldsValue) (hkind : v.kind = .text)
        (hpart : ∀ s, sum = .str s → ∃ r, v.value = .str r) (hforeign : v.isForeignText = true) :
        (ofValue sum).isForeignText = true := by
      rw [hv hkind, isForeignText_ofValue_iff] at hforeign
      refine isForeignText_ofValue_iff.2 fun s hs => ?_
      obtain ⟨r, hr⟩ := hpart s hs
      exact hforeign r hr
    have hparts (s : String) (hs : sum = .str s) :
        (∃ r, t.value = .str r) ∧ ∃ r, u.value = .str r := by
      obtain ⟨r, r', hr, hr', -⟩ := eq_str_of_plus (hs ▸ hsum)
      exact ⟨⟨r, hr⟩, r', hr'⟩
    simp only [List.exists_mem_cons_iff] at hforeign ⊢
    rcases hforeign with hforeign | hforeign | hforeign
    · exact .inl (hstays t hholds ht (fun s hs => (hparts s hs).1) hforeign)
    · exact .inl (hstays u hholds' hu (fun s hs => (hparts s hs).2) hforeign)
    · exact .inr hforeign
  | case2 t u rest hkinds ih =>
    obtain ⟨more, hmore, h⟩ := bind_eq_ok_iff.1 h
    obtain rfl := Except.ok.inj h
    obtain ⟨-, hrest⟩ := List.forall_mem_cons.1 hts
    rw [List.exists_mem_cons_iff] at hforeign ⊢
    exact hforeign.imp_right (ih hrest hmore)
  | case3 ts => exact Except.ok.inj h ▸ hforeign

theorem mem_consMerged_of_mem (h : u.isText = false) (hmem : u ∈ ts) : u ∈ consMerged t ts := by
  cases htext : t.isText with
  | false => exact consMerged_of_ne_text htext ts ▸ List.mem_cons_of_mem t hmem
  | true =>
    by_cases hempty : t.text = ""
    · rwa [consMerged_of_empty htext hempty]
    rcases consMerged_of_text htext hempty ts with ⟨v, rest, rfl, hv, heq⟩ | ⟨-, heq⟩
    · rw [heq]
      rcases List.mem_cons.1 hmem with rfl | hmem
      · simp [h] at hv
      · exact List.mem_cons_of_mem _ hmem
    · exact heq ▸ List.mem_cons_of_mem t hmem

/-- Merging keeps all tokens but texts of text. -/
theorem mem_mergeText_of_mem (h : u.isText = false) (hmem : u ∈ ts) : u ∈ mergeText ts := by
  induction ts with
  | nil => cases hmem
  | cons t ts ih =>
    rcases List.mem_cons.1 hmem with rfl | hmem
    · rw [mergeText, consMerged_of_ne_text h]
      exact List.mem_cons_self
    · exact mem_consMerged_of_mem h (ih hmem)

theorem isText_of_isForeignText (h : t.isForeignText = true) : t.isText = false := by
  simp only [isForeignText, Bool.and_eq_true, Bool.not_eq_true'] at h
  rw [isText, h.2, Bool.and_false]

theorem TextsOnly.isForeignText_eq_false (h : TextsOnly ts) : ∀ t ∈ ts, t.isForeignText = false := by
  intro t ht
  by_cases hkind : t.kind = .text
  · rw [h t ht hkind]
    rfl
  · simp [Token.isForeignText, hkind]

/-- If the normal form has only texts of text, so have the tokens. The text of something else is not
dropped, stays in the sums, and is kept by merging. -/
theorem textsOnly_of_normalize (hts : ∀ t ∈ ts, t.HoldsValue) (h : normalize ts = .ok us)
    (hus : TextsOnly us) : TextsOnly ts := by
  have hnone : ∀ t ∈ ts, t.isForeignText = false := by
    by_contra hsome
    simp only [not_forall, Bool.not_eq_false] at hsome
    obtain ⟨t, ht, hforeign⟩ := hsome
    rw [normalize, if_pos (List.any_eq_true.2 ⟨t, ht, hforeign⟩)] at h
    obtain ⟨added, hadded, rfl⟩ := map_eq_ok_iff.1 h
    obtain ⟨u, hu, hforeign'⟩ := exists_isForeignText_of_addForeign
      (fun t ht => hts t (List.mem_filter.1 ht).1) hadded
      ⟨t, List.mem_filter.2 ⟨ht, by simp [isText_of_isForeignText hforeign]⟩, hforeign⟩
    have hmem := mem_mergeText_of_mem (isText_of_isForeignText hforeign') hu
    simp [hus.isForeignText_eq_false u hmem] at hforeign'
  exact fun t ht hkind =>
    (hts t ht).eq_ofText (HoldsValue.isText_of_not_isForeignText (hnone t ht) hkind)

theorem normalize_of_textsOnly (h : TextsOnly ts) : normalize ts = .ok (mergeText ts) := by
  rw [normalize, if_neg]
  simpa using h.isForeignText_eq_false

/-- The tokens of parts of the nodes may be made first. -/
theorem ofNodes?_append {limit depth : Int} {nodes nodes' : List Json} {tokens tokens' : List Token}
    (h : ofNodes? nodes depth limit = .ok tokens) (h' : ofNodes? nodes' depth limit = .ok tokens')
    (htokens : TextsOnly tokens) (htokens' : TextsOnly tokens') :
    ofNodes? (nodes ++ nodes') depth limit = .ok (mergeText (tokens ++ tokens')) := by
  obtain ⟨below, hbelow, hnormal⟩ := ofNodes?_eq_ok_iff.1 h
  obtain ⟨below', hbelow', hnormal'⟩ := ofNodes?_eq_ok_iff.1 h'
  have htexts := textsOnly_of_normalize hbelow.throughout.1 hnormal htokens
  have htexts' := textsOnly_of_normalize hbelow'.throughout.1 hnormal' htokens'
  rw [normalize_of_textsOnly htexts] at hnormal
  rw [normalize_of_textsOnly htexts'] at hnormal'
  obtain rfl := Except.ok.inj hnormal
  obtain rfl := Except.ok.inj hnormal'
  refine ofNodes?_eq_ok_iff.2 ⟨below ++ below', hbelow.append hbelow', ?_⟩
  rw [normalize_of_textsOnly (htexts.append htexts'), mergeText_append htexts htexts']

/-! ## The laws of merging -/

/-- **Merging and its laws.** Tokens may be merged as they come, and what comes of it is the only
list in normal form that says what was said. So merging does nothing the second time, and parts of a
list may be merged first. The tokens of parts of the nodes may be made first, where none of their
texts holds anything but text. -/
theorem mergeText_laws (hts : TextsOnly ts) (hus : TextsOnly us) :
    mergeText ts = ts.foldl appendMerged [] ∧
      (∀ vs, vs = mergeText ts ↔ IsTextForm ts vs) ∧
      mergeText (mergeText ts) = mergeText ts ∧
      mergeText (ts ++ us) = mergeText (mergeText ts ++ mergeText us) ∧
      ∀ (limit depth : Int) (nodes nodes' : List Json) (tokens tokens' : List Token),
        ofNodes? nodes depth limit = .ok tokens → ofNodes? nodes' depth limit = .ok tokens' →
          TextsOnly tokens → TextsOnly tokens' →
            ofNodes? (nodes ++ nodes') depth limit = .ok (mergeText (tokens ++ tokens')) :=
  ⟨mergeText_eq_foldl ts, fun _ => eq_mergeText_iff hts, mergeText_mergeText hts,
    mergeText_append hts hus, fun _ _ _ _ _ _ => ofNodes?_append⟩

theorem textsOnly_ofText (s : String) : TextsOnly [ofText s] := by
  simp [TextsOnly, ofText]

/-- Texts in front of and behind a line break, one of them empty. -/
def brokenTexts : List Token := [ofText "a", ofText "", ofText "b", { kind := .br }, ofText "c"]

theorem textsOnly_brokenTexts : TextsOnly brokenTexts := by
  simp [TextsOnly, brokenTexts, ofText]

/-- At the seam of two lists the texts become one, and so they do at the seam of two nodes. -/
theorem mergeText_laws_brokenTexts : TextsOnly brokenTexts ∧ TextsOnly [ofText "d"] ∧
    (∀ ts, IsTextForm brokenTexts ts → ts = [ofText "ab", { kind := .br }, ofText "c"]) ∧
    mergeText (brokenTexts ++ [ofText "d"]) = [ofText "ab", { kind := .br }, ofText "cd"] ∧
    ofNodes? ([(Markdown.Node.text "a").toJson] ++ [Markdown.Node.softbreak.toJson]) 0 1 =
      .ok [ofText "a\n"] := by
  obtain ⟨-, hunique, -, hseam, hnodes⟩ :=
    mergeText_laws textsOnly_brokenTexts (textsOnly_ofText "d")
  have htext : readingOf 1 0 (Markdown.Node.text "a").toJson = .ok (.token (some (ofText "a"))) := rfl
  have hbreak : readingOf 1 0 Markdown.Node.softbreak.toJson = .ok (.token (some (ofText "\n"))) :=
    rfl
  refine ⟨textsOnly_brokenTexts, textsOnly_ofText "d", fun ts hts => ?_, ?_, ?_⟩
  · exact ((hunique ts).2 hts).trans rfl
  · exact hseam.trans rfl
  · exact hnodes 1 0 _ _ _ _ (ofNodes?_eq_ok_iff.2 ⟨_, .token htext (.nil 0), rfl⟩)
      (ofNodes?_eq_ok_iff.2 ⟨_, .token hbreak (.nil 0), rfl⟩) (textsOnly_ofText "a")
      (textsOnly_ofText "\n")

end AlertBridge.Token
