import AlertBridge.Proofs.Token.Escape

/-!
# Texts with escapes

`decodeEscapes` reads a text once from left to right. Where one of the five escapes stands it puts
the character in its place and goes on behind it, and any other character it copies. Unescaping,
which goes over the text five times, does the same (`unescapeHtml_eq_decodeEscapes`); so what it
puts back is not read again, and `&amp;lt;` becomes `&lt;`.

Unescaping may lose what was written: a character that is special already stays as it is, and so
does an ampersand that begins no escape. Where there is neither, the text is the escape of another
one, and it is written again as it was (`escapeHtml_unescapeHtml_iff`).

## Main definitions

* `decodeEscapes`: one pass over a text
* `IsEscaped`: the texts that escaping makes

## Main results

* `unescapeHtml_eq_decodeEscapes`: nothing is decoded twice
* `escapeHtml_unescapeHtml_iff`: escapes are undone exactly, and which texts escaping restores
-/

namespace AlertBridge

variable {e : String × String} {c : Char} {cs rest text : List Char}

/-! ## One pass -/

/-- The escapes decoded in one pass from left to right. -/
def decodeEscapes : List Char → List Char
  | '&' :: 'a' :: 'm' :: 'p' :: ';' :: rest => '&' :: decodeEscapes rest
  | '&' :: 'l' :: 't' :: ';' :: rest => '<' :: decodeEscapes rest
  | '&' :: 'g' :: 't' :: ';' :: rest => '>' :: decodeEscapes rest
  | '&' :: 'q' :: 'u' :: 'o' :: 't' :: ';' :: rest => '"' :: decodeEscapes rest
  | '&' :: '#' :: '3' :: '9' :: ';' :: rest => '\'' :: decodeEscapes rest
  | c :: rest => c :: decodeEscapes rest
  | [] => []

/-- A text is taken apart at its escapes. -/
theorem induction_on_escapes {motive : List Char → Prop} (nil : motive [])
    (escape : ∀ e ∈ htmlEscapes, ∀ rest, motive rest → motive (e.2.toList ++ rest))
    (char : ∀ c cs, (∀ e ∈ htmlEscapes, ¬ e.2.toList <+: c :: cs) → motive cs → motive (c :: cs))
    (text : List Char) : motive text := by
  have hne : ∀ word ∈ htmlEscapes.map (·.2.toList), word ≠ [] := by decide
  refine induction_on_words hne nil ?_ ?_ text
  · intro word hword rest ih
    obtain ⟨e, he, rfl⟩ := List.mem_map.1 hword
    exact escape e he rest ih
  · intro c cs hmiss ih
    exact char c cs (fun e he => hmiss _ (List.mem_map_of_mem he)) ih

theorem decodeEscapes_escape (he : e ∈ htmlEscapes) (rest : List Char) :
    decodeEscapes (e.2.toList ++ rest) = e.1.toList ++ decodeEscapes rest := by
  simp only [htmlEscapes, List.mem_cons, List.not_mem_nil, or_false] at he
  rcases he with rfl | rfl | rfl | rfl | rfl <;> rfl

theorem decodeEscapes_char (h : ∀ e ∈ htmlEscapes, ¬ e.2.toList <+: c :: cs) :
    decodeEscapes (c :: cs) = c :: decodeEscapes cs := by
  rw [decodeEscapes]
  · rintro rest rfl rfl
    exact h ("&", "&amp;") (by decide) ⟨rest, rfl⟩
  · rintro rest rfl rfl
    exact h ("<", "&lt;") (by decide) ⟨rest, rfl⟩
  · rintro rest rfl rfl
    exact h (">", "&gt;") (by decide) ⟨rest, rfl⟩
  · rintro rest rfl rfl
    exact h ("\"", "&quot;") (by decide) ⟨rest, rfl⟩
  · rintro rest rfl rfl
    exact h ("'", "&#39;") (by decide) ⟨rest, rfl⟩

theorem takeOut_eq_decodeEscapes (text : List Char) :
    takeOut htmlEscapes text = decodeEscapes text := by
  induction text using induction_on_escapes with
  | nil => rw [takeOut_nil, decodeEscapes]
  | escape e he rest ih =>
    rw [takeOut_escape isEscapeTable_htmlEscapes he, decodeEscapes_escape he, ih]
  | char c cs hmiss ih =>
    rw [takeOut_char isEscapeTable_htmlEscapes hmiss, decodeEscapes_char hmiss, ih]

/-- **Nothing is decoded twice.** Undoing the escapes one after the other is a single pass over the
text. -/
theorem unescapeHtml_eq_decodeEscapes (s : String) :
    unescapeHtml s = String.ofList (decodeEscapes s.toList) := by
  rw [unescapeHtml_eq, takeOut_eq_decodeEscapes]

example : unescapeHtml "&amp;lt;" = "&lt;" := by decide +kernel

/-! ## Texts that escaping makes -/

/-- A text without special characters, in which every ampersand begins an escape. -/
structure IsEscaped (text : List Char) : Prop where
  special : ∀ c ∈ text, c ∉ ['<', '>', '"', '\'']
  ampersand : ∀ rest, '&' :: rest <:+ text →
    ∃ escape ∈ ["&amp;", "&lt;", "&gt;", "&quot;", "&#39;"], escape.toList <+: '&' :: rest

theorem isEscaped_nil : IsEscaped [] where
  special c hc := by cases hc
  ampersand rest hrest := by cases List.suffix_nil.1 hrest

theorem IsEscaped.of_suffix (hrest : rest <:+ text) (h : IsEscaped text) : IsEscaped rest where
  special c hc := h.special c (hrest.subset hc)
  ampersand rest' hrest' := h.ampersand rest' (hrest'.trans hrest)

/-- An ampersand behind text without one. -/
theorem suffix_of_suffix_append {gap : List Char} (hgap : c ∉ gap)
    (h : c :: cs <:+ gap ++ rest) : c :: cs <:+ rest := by
  induction gap with
  | nil => exact h
  | cons d gap ih =>
    obtain ⟨hd, hgap⟩ := not_or.1 (List.mem_cons.not.1 hgap)
    rcases List.suffix_cons_iff.1 h with heq | h
    · exact absurd (List.cons.inj heq).1 hd
    · exact ih hgap h

theorem IsEscaped.escape_append (h : IsEscaped rest) (he : e ∈ htmlEscapes) :
    IsEscaped (e.2.toList ++ rest) where
  special c hc := by
    have hescape : ∀ e ∈ htmlEscapes, ∀ c ∈ e.2.toList, c ∉ ['<', '>', '"', '\''] := by
      simp [htmlEscapes]
    exact (List.mem_append.1 hc).elim (hescape e he c) (h.special c)
  ampersand rest' hrest' := by
    obtain ⟨name, hescape, hname⟩ := (isEscapeTable_htmlEscapes.isEscape e he).escape
    have hmem : ∀ e ∈ htmlEscapes, e.2 ∈ ["&amp;", "&lt;", "&gt;", "&quot;", "&#39;"] := by decide
    rw [hescape, List.cons_append] at hrest'
    rcases List.suffix_cons_iff.1 hrest' with heq | hrest'
    · rw [heq, ← List.cons_append, ← hescape]
      exact ⟨e.2, hmem e he, List.prefix_append _ _⟩
    · exact h.ampersand rest' (suffix_of_suffix_append hname hrest')

theorem IsEscaped.cons (h : IsEscaped cs) (hc : ¬ IsSpecial c) : IsEscaped (c :: cs) := by
  rw [isSpecial_iff, List.mem_cons, not_or] at hc
  refine ⟨List.forall_mem_cons.2 ⟨hc.2, h.special⟩, fun rest hrest => ?_⟩
  rcases List.suffix_cons_iff.1 hrest with heq | hrest
  · exact absurd (List.cons.inj heq).1.symm hc.1
  · exact h.ampersand rest hrest

theorem isEscaped_putIn (text : List Char) : IsEscaped (putIn htmlEscapes text) := by
  induction text with
  | nil =>
    rw [putIn_nil]
    exact isEscaped_nil
  | cons c cs ih =>
    rcases putIn_htmlEscapes_cons c cs with ⟨e, he, -, hput⟩ | ⟨hc, hput⟩
    · exact hput ▸ ih.escape_append he
    · exact hput ▸ ih.cons hc

/-- A character at which no escape begins is not special. -/
theorem IsEscaped.not_isSpecial (h : IsEscaped (c :: cs))
    (hmiss : ∀ e ∈ htmlEscapes, ¬ e.2.toList <+: c :: cs) : ¬ IsSpecial c := by
  rw [isSpecial_iff, List.mem_cons, not_or]
  refine ⟨?_, h.special c List.mem_cons_self⟩
  rintro rfl
  obtain ⟨escape, hescape, hstart⟩ := h.ampersand cs List.suffix_rfl
  have hentry : ∀ escape ∈ ["&amp;", "&lt;", "&gt;", "&quot;", "&#39;"],
      ∃ e ∈ htmlEscapes, e.2 = escape := by decide
  obtain ⟨e, he, rfl⟩ := hentry escape hescape
  exact hmiss e he hstart

/-- Escaping restores what unescaping took out of such a text. -/
theorem putIn_takeOut (h : IsEscaped text) :
    putIn htmlEscapes (takeOut htmlEscapes text) = text := by
  induction text using induction_on_escapes with
  | nil => rw [takeOut_nil, putIn_nil]
  | escape e he rest ih =>
    rw [takeOut_escape isEscapeTable_htmlEscapes he,
      putIn_append isEscapeTable_htmlEscapes.isEscape, putIn_singleton e he,
      ih (h.of_suffix (List.suffix_append _ _))]
  | char c cs hmiss ih =>
    have hc : ¬ IsSpecial c := h.not_isSpecial hmiss
    rw [takeOut_of_not_isSpecial hc]
    rcases putIn_htmlEscapes_cons c (takeOut htmlEscapes cs) with ⟨e, he, hchar, -⟩ | ⟨-, hput⟩
    · exact absurd ⟨e, he, hchar⟩ hc
    · rw [hput, ih (h.of_suffix (List.suffix_cons c cs))]

/-- **Escapes are undone exactly**, and escaping restores exactly the texts without special
characters in which every ampersand begins an escape. -/
theorem escapeHtml_unescapeHtml_iff :
    (∀ s, unescapeHtml (escapeHtml s) = s) ∧
      ∀ t, escapeHtml (unescapeHtml t) = t ↔ IsEscaped t.toList := by
  refine ⟨unescapeHtml_escapeHtml, fun t => ?_⟩
  rw [unescapeHtml_eq, escapeHtml_eq, String.toList_ofList]
  constructor
  · intro h
    have hput := congrArg String.toList h
    rw [String.toList_ofList] at hput
    exact hput ▸ isEscaped_putIn _
  · intro h
    rw [putIn_takeOut h, String.ofList_toList]

end AlertBridge
