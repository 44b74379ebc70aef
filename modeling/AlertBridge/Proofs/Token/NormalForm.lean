import AlertBridge.Proofs.Token.Conversion
import Mathlib.Data.List.Chain

/-!
# Tokens in normal form

No text in a list in normal form is empty, and no two texts stand in a row. `normalize` brings
tokens to normal form, where a text may hold any value as long as it has nothing besides: texts
that follow each other become one, and nothing else changes, so that every token of the result was
there before or is a text.

Main statement: `isNormal_of_normalize`.
-/

namespace AlertBridge.Token

/-- No text is empty, and no two texts stand in a row. -/
structure IsNormal (ts : List Token) : Prop where
  nonempty : ∀ t ∈ ts, t.kind = .text → t.value ≠ .str ""
  apart : ts.IsChain fun t u => t.kind = .text → u.kind ≠ .text

/-- A text has nothing but the value that it holds. -/
def HoldsValue (t : Token) : Prop := t.kind = .text → t = ofValue t.value

variable {t u : Token} {ts us : List Token}

theorem isNormal_nil : IsNormal [] := ⟨by simp, .nil⟩

theorem IsNormal.cons (h : IsNormal ts) (ht : t.kind = .text → t.value ≠ .str "")
    (hhead : ∀ u ∈ ts.head?, t.kind = .text → u.kind ≠ .text) : IsNormal (t :: ts) :=
  ⟨List.forall_mem_cons.2 ⟨ht, h.nonempty⟩, List.isChain_cons.2 ⟨hhead, h.apart⟩⟩

theorem IsNormal.head (h : IsNormal (t :: ts)) : t.kind = .text → t.value ≠ .str "" :=
  h.nonempty t List.mem_cons_self

theorem IsNormal.tail (h : IsNormal (t :: ts)) : IsNormal ts :=
  ⟨fun u hu => h.nonempty u (List.mem_cons_of_mem _ hu), (List.isChain_cons.1 h.apart).2⟩

theorem isNormal_of_forall_ne_text (h : ∀ t ∈ ts, t.kind ≠ .text) : IsNormal ts := by
  induction ts with
  | nil => exact isNormal_nil
  | cons t ts ih =>
    obtain ⟨ht, hts⟩ := List.forall_mem_cons.1 h
    exact (ih hts).cons (fun hkind => absurd hkind ht) fun u _ hkind => absurd hkind ht

/-! ## Texts that hold text -/

theorem isText_iff : t.isText = true ↔ t.kind = .text ∧ t.foreign = [] := by
  simp [isText]

theorem isText_ofText (s : String) : (ofText s).isText = true := rfl

theorem value_eq_of_foreign (h : t.foreign = []) : t.value = .str t.text := by
  simp [value, h]

theorem value_of_isText (h : t.isText = true) : t.value = .str t.text :=
  value_eq_of_foreign (isText_iff.1 h).2

theorem HoldsValue.eq_ofText (h : t.HoldsValue) (htext : t.isText = true) :
    t = ofText t.text := by
  have hvalue := h (isText_iff.1 htext).1
  rwa [value_of_isText htext] at hvalue

/-- A text that holds a value is one of text or one of something else. -/
theorem HoldsValue.isText_of_not_isForeignText (h : t.isForeignText = false)
    (hkind : t.kind = .text) : t.isText = true := by
  simpa [isForeignText, isText, hkind] using h

/-! ## Merging texts -/

theorem consMerged_of_ne_text (h : t.isText = false) (ts : List Token) :
    consMerged t ts = t :: ts := by
  simp [consMerged.eq_def, h]

theorem consMerged_of_empty (h : t.isText = true) (hempty : t.text = "") (ts : List Token) :
    consMerged t ts = ts := by
  rw [consMerged.eq_def, if_pos h, if_pos hempty]

/-- A text that is not empty joins a text at the head, and is on its own before another token. -/
theorem consMerged_of_text (h : t.isText = true) (hne : t.text ≠ "") (ts : List Token) :
    (∃ u rest, ts = u :: rest ∧ u.isText = true ∧
        consMerged t ts = ofText (t.text ++ u.text) :: rest) ∨
      ((∀ u ∈ ts.head?, u.isText = false) ∧ consMerged t ts = t :: ts) := by
  rw [consMerged.eq_def, if_pos h, if_neg hne]
  cases ts with
  | nil => exact .inr ⟨by simp, rfl⟩
  | cons u rest =>
    cases hu : u.isText with
    | true => exact .inl ⟨u, rest, rfl, hu, by simp [hu]⟩
    | false => exact .inr ⟨by simp [hu], by simp [hu]⟩

theorem mem_or_text_of_mem_consMerged (h : u ∈ consMerged t ts) :
    u = t ∨ u ∈ ts ∨ ∃ s, u = ofText s := by
  cases htext : t.isText with
  | false =>
    rw [consMerged_of_ne_text htext] at h
    exact (List.mem_cons.1 h).imp_right .inl
  | true =>
    by_cases hempty : t.text = ""
    · rw [consMerged_of_empty htext hempty] at h
      exact .inr (.inl h)
    rcases consMerged_of_text htext hempty ts with ⟨v, rest, rfl, -, heq⟩ | ⟨-, heq⟩
    · rw [heq] at h
      rcases List.mem_cons.1 h with rfl | hmem
      · exact .inr (.inr ⟨_, rfl⟩)
      · exact .inr (.inl (List.mem_cons_of_mem _ hmem))
    · rw [heq] at h
      exact (List.mem_cons.1 h).imp_right .inl

/-- Every token of the normal form was there before, or is a text. -/
theorem mem_or_text_of_mem_mergeText (h : u ∈ mergeText ts) : u ∈ ts ∨ ∃ s, u = ofText s := by
  induction ts with
  | nil => cases h
  | cons t ts ih =>
    rcases mem_or_text_of_mem_consMerged h with rfl | h | h
    · exact .inl List.mem_cons_self
    · exact (ih h).imp_left (List.mem_cons_of_mem _)
    · exact .inr h

/-- What is true of all texts, and of tokens, stays true in normal form. -/
theorem forall_mem_mergeText {P : Token → Prop} (htext : ∀ s, P (ofText s))
    (h : ∀ t ∈ ts, P t) : ∀ t ∈ mergeText ts, P t := by
  intro t ht
  rcases mem_or_text_of_mem_mergeText ht with ht | ⟨s, rfl⟩
  · exact h t ht
  · exact htext s

/-- One more token in front of a list in normal form, where all texts hold text. -/
theorem isNormal_consMerged (h : IsNormal ts) (hts : ∀ u ∈ ts, u.kind = .text → u.isText = true)
    (ht : t.kind = .text → t.isText = true) : IsNormal (consMerged t ts) := by
  cases htext : t.isText with
  | false =>
    have hkind : t.kind ≠ .text := fun hkind => by simp [ht hkind] at htext
    rw [consMerged_of_ne_text htext]
    exact h.cons (fun hkind' => absurd hkind' hkind) fun u _ hkind' => absurd hkind' hkind
  | true =>
    by_cases hempty : t.text = ""
    · rwa [consMerged_of_empty htext hempty]
    rcases consMerged_of_text htext hempty ts with ⟨v, rest, rfl, hv, heq⟩ | ⟨hhead, heq⟩
    · have hkind := (isText_iff.1 hv).1
      rw [heq]
      refine h.tail.cons (fun _ => ?_) fun u hu _ => (List.isChain_cons.1 h.apart).1 u hu hkind
      simp [value, ofText, hempty]
    · rw [heq]
      refine h.cons (fun _ => ?_) fun u hu _ hkind => ?_
      · rw [value_of_isText htext]
        simpa using hempty
      · have := hts u (List.mem_of_mem_head? hu) hkind
        simp [hhead u hu] at this

theorem isNormal_mergeText (hts : ∀ t ∈ ts, t.kind = .text → t.isText = true) :
    IsNormal (mergeText ts) := by
  induction ts with
  | nil => exact isNormal_nil
  | cons t ts ih =>
    obtain ⟨ht, hts⟩ := List.forall_mem_cons.1 hts
    refine isNormal_consMerged (ih hts) (fun u hu hkind => ?_) ht
    rcases mem_or_text_of_mem_mergeText hu with hu | ⟨s, rfl⟩
    · exact hts u hu hkind
    · exact isText_ofText s

/-- Tokens in normal form stay as they are. -/
theorem mergeText_eq_self (h : IsNormal ts) : mergeText ts = ts := by
  induction ts with
  | nil => rfl
  | cons t ts ih =>
    rw [mergeText, ih h.tail]
    cases htext : t.isText with
    | false => exact consMerged_of_ne_text htext ts
    | true =>
      have hkind := (isText_iff.1 htext).1
      have hne : t.text ≠ "" := by simpa [value_of_isText htext] using h.head hkind
      rcases consMerged_of_text htext hne ts with ⟨v, rest, rfl, hv, -⟩ | ⟨-, heq⟩
      · exact absurd (isText_iff.1 hv).1 ((List.isChain_cons.1 h.apart).1 v rfl hkind)
      · exact heq

/-! ## Adding up other values -/

/-- A sum is a text only if its parts are, and then it is one after the other. -/
theorem eq_str_of_plus {v w : Json} {s : String} (h : v.plus w = .ok (.str s)) :
    ∃ r r', v = .str r ∧ w = .str r' ∧ r ++ r' = s := by
  unfold Json.plus at h
  split at h
  · exact ⟨_, _, rfl, rfl, Json.str.inj (Except.ok.inj h)⟩
  · simp at h
  · split at h <;> simp at h

/-- A sum is an empty text only if its parts are. -/
theorem ne_empty_of_plus {v w sum : Json} (h : v.plus w = .ok sum) (hv : v ≠ .str "") :
    sum ≠ .str "" := by
  rintro rfl
  obtain ⟨r, r', rfl, -, hempty⟩ := eq_str_of_plus h
  exact hv (congrArg Json.str (String.append_eq_empty_iff.1 hempty).1)

/-- Adding up keeps what the first token is, a text or not. -/
theorem isNormal_addForeign (hts : ∀ t ∈ ts, t.kind = .text → t.value ≠ .str "")
    (h : addForeign ts = .ok us) :
    IsNormal us ∧ (us.head?.map Token.kind = ts.head?.map Token.kind) ∧
      ∀ u ∈ us, u ∈ ts ∨ ∃ v, u = ofValue v := by
  fun_induction addForeign ts generalizing us with
  | case1 t u rest hkinds ih =>
    obtain ⟨sum, hsum, h⟩ := bind_eq_ok_iff.1 h
    obtain ⟨ht, hkind⟩ : t.kind = .text ∧ u.kind = .text := by simpa using hkinds
    obtain ⟨hhead, hrest⟩ := List.forall_mem_cons.1 hts
    have hsum' : (ofValue sum).value ≠ .str "" := by
      rw [value_ofValue]
      exact ne_empty_of_plus hsum (hhead ht)
    obtain ⟨hnormal, hfirst, hmem⟩ := ih sum
      (List.forall_mem_cons.2 ⟨fun _ => hsum', fun v hv => hrest v (List.mem_cons_of_mem _ hv)⟩) h
    refine ⟨hnormal, by simpa [kind_ofValue, ht] using hfirst, fun v hv => ?_⟩
    rcases hmem v hv with hv | hv
    · rcases List.mem_cons.1 hv with rfl | hv
      · exact .inr ⟨sum, rfl⟩
      · exact .inl (List.mem_cons_of_mem _ (List.mem_cons_of_mem _ hv))
    · exact .inr hv
  | case2 t u rest hkinds ih =>
    obtain ⟨more, hmore, h⟩ := bind_eq_ok_iff.1 h
    obtain rfl := Except.ok.inj h
    obtain ⟨hhead, hrest⟩ := List.forall_mem_cons.1 hts
    obtain ⟨hnormal, hfirst, hmem⟩ := ih hrest hmore
    refine ⟨hnormal.cons hhead fun v hv ht => ?_, rfl, ?_⟩
    · have hkind : v.kind = u.kind := by simpa [Option.mem_def.1 hv] using hfirst
      rw [hkind]
      simpa [ht] using hkinds
    · refine List.forall_mem_cons.2 ⟨.inl List.mem_cons_self, fun v hv => ?_⟩
      exact (hmem v hv).imp_left (List.mem_cons_of_mem _)
  | case3 ts hshort =>
    obtain rfl := Except.ok.inj h
    refine ⟨?_, rfl, fun u hu => .inl hu⟩
    match ts with
    | [] => exact isNormal_nil
    | [t] => exact isNormal_nil.cons (hts t List.mem_cons_self) (by simp)
    | t :: u :: rest => exact absurd rfl (hshort t u rest)

/-! ## The normal form -/

/-- **The tokens that are left are in normal form**, and each of them was there before or is a
text. -/
theorem isNormal_of_normalize (hts : ∀ t ∈ ts, t.HoldsValue) (h : normalize ts = .ok us) :
    IsNormal us ∧ ∀ u ∈ us, u ∈ ts ∨ ∃ v, u = ofValue v := by
  unfold normalize at h
  split at h
  · obtain ⟨added, hadded, rfl⟩ := map_eq_ok_iff.1 h
    have hne : ∀ t ∈ ts.filter (fun t => !(t.isText && t.text = "")),
        t.kind = .text → t.value ≠ .str "" := by
      intro t ht hkind hvalue
      obtain ⟨hmem, hkept⟩ := List.mem_filter.1 ht
      have heq := hts t hmem hkind
      rw [hvalue] at heq
      simp [heq, ofValue, ofText, isText] at hkept
    obtain ⟨hnormal, -, hmem⟩ := isNormal_addForeign hne hadded
    rw [mergeText_eq_self hnormal]
    exact ⟨hnormal, fun u hu => (hmem u hu).imp_left fun hu => (List.mem_filter.1 hu).1⟩
  · next hforeign =>
    obtain rfl := Except.ok.inj h
    refine ⟨isNormal_mergeText fun t ht hkind => ?_, fun u hu => ?_⟩
    · refine HoldsValue.isText_of_not_isForeignText ?_ hkind
      simpa using fun hf => hforeign (List.any_eq_true.2 ⟨t, ht, hf⟩)
    · exact (mem_or_text_of_mem_mergeText hu).imp_right fun ⟨s, hs⟩ => ⟨.str s, hs⟩

end AlertBridge.Token
