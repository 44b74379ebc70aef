import AlertBridge.Token.Escape
import AlertBridge.Proofs.Text.Replacement

/-!
# Escapes are undone exactly

Escaping and unescaping go over a text once for each entry of a table, but each of them acts like a
single pass. Escaping treats every character alone (`putIn_append`), and as the ampersand comes
first, no escape is escaped again: a character becomes its escape and nothing more
(`putIn_singleton`).

For unescaping it rests on the form of the escapes. Each is an ampersand and a name without special
characters. So no escape begins in the middle of another one, and a character that is put back
cannot be a part of one, unless it is the ampersand, which comes last. Hence an escape at the start
of a text becomes its character (`takeOut_escape`), and a character at which no escape begins is
kept (`takeOut_char`).

## Main definitions

* `IsEscapeTable`: the conditions on the table
* `putIn`, `takeOut`: characters escaped and escapes undone, entry by entry

## Main results

* `takeOut_escape`, `takeOut_char`: the steps of unescaping from left to right
* `unescapeHtml_escapeHtml`: escapes are undone exactly
-/

namespace AlertBridge

/-! ## Replacement of a character -/

section Character

variable {c : Char} {new : List Char}

theorem replaceChars_singleton_self (new cs : List Char) :
    replaceChars [c] new (c :: cs) = new ++ replaceChars [c] new cs :=
  replaceChars_append_self (List.cons_ne_nil c []) cs

theorem replaceChars_singleton_of_ne {d : Char} (h : d ≠ c) (new cs : List Char) :
    replaceChars [c] new (d :: cs) = d :: replaceChars [c] new cs :=
  replaceChars_cons_of_miss fun hstart => h (List.cons_prefix_cons.1 hstart).1.symm

theorem replaceChars_singleton_append (cs ds : List Char) :
    replaceChars [c] new (cs ++ ds) = replaceChars [c] new cs ++ replaceChars [c] new ds := by
  induction cs with
  | nil => rw [replaceChars_nil_text, List.nil_append, List.nil_append]
  | cons d cs ih =>
    rw [List.cons_append]
    by_cases hd : d = c
    · subst hd
      rw [replaceChars_singleton_self, replaceChars_singleton_self, ih, List.append_assoc]
    · rw [replaceChars_singleton_of_ne hd, replaceChars_singleton_of_ne hd, ih, List.cons_append]

theorem replaceChars_singleton_of_not_mem {cs : List Char} (h : c ∉ cs) :
    replaceChars [c] new cs = cs :=
  replaceChars_eq_self fun hinfix => h ((List.singleton_infix_iff c cs).1 hinfix)

end Character

/-! ## Tables of escapes -/

/-- A character with its escape: an ampersand and a name without one. -/
structure IsEscape (e : String × String) : Prop where
  char : ∃ c, e.1.toList = [c]
  escape : ∃ name, e.2.toList = '&' :: name ∧ '&' ∉ name

/-- The escape of neither of two characters is the beginning of the other's. -/
def EscapesApart (e e' : String × String) : Prop :=
  ¬ e'.2.toList <+: e.2.toList ∧ ¬ e.2.toList <+: e'.2.toList

/-- Escapes that can be told from each other and from the characters that they stand for. -/
structure IsEscapeTable (es : List (String × String)) : Prop where
  isEscape : ∀ e ∈ es, IsEscape e
  /-- The name of an escape has none of the characters. -/
  clear : ∀ e ∈ es, ∀ e' ∈ es, ∀ c ∈ e'.1.toList, c ∉ e.2.toList.tail
  apart : es.Pairwise EscapesApart
  /-- Only the first entry can be that of the ampersand. -/
  ampersand : es.Pairwise fun _ e => e.1.toList ≠ ['&']

/-- The characters escaped, from the first entry to the last. -/
def putIn (es : List (String × String)) (text : List Char) : List Char :=
  es.foldl (fun text e => replaceChars e.1.toList e.2.toList text) text

/-- The escapes undone, from the last entry to the first. -/
def takeOut (es : List (String × String)) (text : List Char) : List Char :=
  es.foldr (fun e text => replaceChars e.2.toList e.1.toList text) text

variable {e : String × String} {es : List (String × String)} {c : Char}
  {cs gap word rest text : List Char}

theorem putIn_cons (e : String × String) (es : List (String × String)) (text : List Char) :
    putIn (e :: es) text = putIn es (replaceChars e.1.toList e.2.toList text) := rfl

theorem takeOut_cons (e : String × String) (es : List (String × String)) (text : List Char) :
    takeOut (e :: es) text = replaceChars e.2.toList e.1.toList (takeOut es text) := rfl

theorem putIn_nil (es : List (String × String)) : putIn es [] = [] := by
  induction es with
  | nil => rfl
  | cons e es ih => rw [putIn_cons, replaceChars_nil_text, ih]

theorem takeOut_nil (es : List (String × String)) : takeOut es [] = [] := by
  induction es with
  | nil => rfl
  | cons e es ih => rw [takeOut_cons, ih, replaceChars_nil_text]

/-- Escapes begin with an ampersand. -/
theorem IsEscape.not_prefix_of_ne (he : IsEscape e) (hc : c ≠ '&') (cs : List Char) :
    ¬ e.2.toList <+: c :: cs := by
  obtain ⟨name, hescape, -⟩ := he.escape
  rw [hescape]
  exact fun hstart => hc (List.cons_prefix_cons.1 hstart).1.symm

theorem IsEscapeTable.tail (hes : IsEscapeTable (e :: es)) : IsEscapeTable es where
  isEscape e he := hes.isEscape e (List.mem_cons_of_mem _ he)
  clear e he e' he' := hes.clear e (List.mem_cons_of_mem _ he) e' (List.mem_cons_of_mem _ he')
  apart := (List.pairwise_cons.1 hes.apart).2
  ampersand := (List.pairwise_cons.1 hes.ampersand).2

/-! ### Putting escapes in -/

theorem putIn_append (hes : ∀ e ∈ es, IsEscape e) (cs ds : List Char) :
    putIn es (cs ++ ds) = putIn es cs ++ putIn es ds := by
  induction es generalizing cs ds with
  | nil => rfl
  | cons e es ih =>
    obtain ⟨he, hes⟩ := List.forall_mem_cons.1 hes
    obtain ⟨c, hchar⟩ := he.char
    rw [putIn_cons, putIn_cons, putIn_cons, hchar, replaceChars_singleton_append, ih hes]

/-- A text without the characters stays. -/
theorem putIn_eq_self (hes : ∀ e ∈ es, IsEscape e) (h : ∀ e ∈ es, ∀ c ∈ e.1.toList, c ∉ text) :
    putIn es text = text := by
  induction es with
  | nil => rfl
  | cons e es ih =>
    obtain ⟨he, hes⟩ := List.forall_mem_cons.1 hes
    obtain ⟨htext, h⟩ := List.forall_mem_cons.1 h
    obtain ⟨c, hchar⟩ := he.char
    have hc : c ∉ text := htext c (hchar ▸ List.mem_singleton_self c)
    rw [putIn_cons, hchar, replaceChars_singleton_of_not_mem hc, ih hes h]

/-! ### Taking escapes out -/

/-- A word at the start of the result stood at the start of the text, if it has none of the
characters that are put back. -/
theorem prefix_of_prefix_takeOut (hes : ∀ e ∈ es, IsEscape e)
    (hword : ∀ e ∈ es, ∀ c ∈ e.1.toList, c ∉ word) (h : word <+: takeOut es text) :
    word <+: text := by
  induction es with
  | nil => exact h
  | cons e es ih =>
    obtain ⟨he, hes⟩ := List.forall_mem_cons.1 hes
    obtain ⟨hfirst, hword⟩ := List.forall_mem_cons.1 hword
    obtain ⟨c, hchar⟩ := he.char
    obtain ⟨name, hescape, -⟩ := he.escape
    have hc : c ∉ word := hfirst c (hchar ▸ List.mem_singleton_self c)
    rw [takeOut_cons, hchar, hescape] at h
    exact ih hes hword (prefix_of_prefix_replaceChars_cons (List.cons_ne_nil _ _) hc h)

/-- A character at which no escape begins is kept. -/
theorem takeOut_char (hes : IsEscapeTable es) (h : ∀ e ∈ es, ¬ e.2.toList <+: c :: cs) :
    takeOut es (c :: cs) = c :: takeOut es cs := by
  induction es with
  | nil => rfl
  | cons e es ih =>
    obtain ⟨hfirst, h⟩ := List.forall_mem_cons.1 h
    have hrest := ih hes.tail h
    obtain ⟨name, hescape, -⟩ := (hes.isEscape e List.mem_cons_self).escape
    -- The escape does not begin here after the others have been undone, as its name stood there.
    have hmiss : ¬ e.2.toList <+: c :: takeOut es cs := by
      intro hstart
      have hclear := hes.clear e List.mem_cons_self
      rw [hescape] at hstart hfirst hclear
      obtain ⟨rfl, hname⟩ := List.cons_prefix_cons.1 hstart
      refine hfirst ((List.prefix_cons_inj _).2
        (prefix_of_prefix_takeOut hes.tail.isEscape ?_ hname))
      exact fun e' he' => hclear e' (List.mem_cons_of_mem _ he')
    rw [takeOut_cons, hrest, replaceChars_cons_of_miss hmiss, takeOut_cons]

/-- Text without an ampersand is kept. -/
theorem takeOut_append_of_not_mem (hes : IsEscapeTable es) (hgap : '&' ∉ gap) (rest : List Char) :
    takeOut es (gap ++ rest) = gap ++ takeOut es rest := by
  induction gap with
  | nil => rfl
  | cons d gap ih =>
    obtain ⟨hd, hgap⟩ := not_or.1 (List.mem_cons.not.1 hgap)
    have hmiss : ∀ e ∈ es, ¬ e.2.toList <+: d :: (gap ++ rest) := fun e he =>
      (hes.isEscape e he).not_prefix_of_ne (Ne.symm hd) _
    rw [List.cons_append, takeOut_char hes hmiss, ih hgap, List.cons_append]

/-- An escape that is not in the table is kept. -/
theorem takeOut_append_of_apart (hes : IsEscapeTable es) (he : IsEscape e)
    (hapart : ∀ e' ∈ es, EscapesApart e e') (rest : List Char) :
    takeOut es (e.2.toList ++ rest) = e.2.toList ++ takeOut es rest := by
  obtain ⟨name, hescape, hname⟩ := he.escape
  rw [hescape, List.cons_append, takeOut_char hes, takeOut_append_of_not_mem hes hname,
    List.cons_append]
  intro e' he' hstart
  have hstart' : '&' :: name <+: '&' :: (name ++ rest) := List.prefix_append ('&' :: name) rest
  rw [← hescape] at hstart'
  exact (List.prefix_or_prefix_of_prefix hstart hstart').elim (hapart e' he').1 (hapart e' he').2

/-- An escape becomes its character: the others leave it alone until its turn comes, and no escape
begins at the character that is put back. -/
theorem takeOut_escape (hes : IsEscapeTable es) (he : e ∈ es) (rest : List Char) :
    takeOut es (e.2.toList ++ rest) = e.1.toList ++ takeOut es rest := by
  induction es with
  | nil => cases he
  | cons first es ih =>
    obtain ⟨hapart, -⟩ := List.pairwise_cons.1 hes.apart
    obtain ⟨hampersand, -⟩ := List.pairwise_cons.1 hes.ampersand
    have hfirst := hes.isEscape first List.mem_cons_self
    obtain ⟨name, hescape, -⟩ := hfirst.escape
    rw [takeOut_cons, takeOut_cons]
    rcases List.mem_cons.1 he with rfl | he
    · rw [takeOut_append_of_apart hes.tail hfirst hapart]
      exact replaceChars_append_self (hescape ▸ List.cons_ne_nil _ _) _
    · obtain ⟨c, hchar⟩ := (hes.tail.isEscape e he).char
      have hne : c ≠ '&' := fun heq => hampersand e he (heq ▸ hchar)
      rw [ih hes.tail he, hchar, List.singleton_append,
        replaceChars_cons_of_miss (hfirst.not_prefix_of_ne hne _), List.singleton_append]

/-! ## The special characters of HTML -/

theorem isEscapeTable_htmlEscapes : IsEscapeTable htmlEscapes where
  isEscape := by
    intro e he
    simp only [htmlEscapes, List.mem_cons, List.not_mem_nil, or_false] at he
    rcases he with rfl | rfl | rfl | rfl | rfl <;> exact ⟨⟨_, rfl⟩, ⟨_, rfl, by decide⟩⟩
  clear := by simp [htmlEscapes]
  apart := by simp [htmlEscapes, EscapesApart]
  ampersand := by simp [htmlEscapes]

/-- The character is one of those that are escaped. -/
def IsSpecial (c : Char) : Prop := ∃ e ∈ htmlEscapes, e.1.toList = [c]

theorem isSpecial_iff : IsSpecial c ↔ c ∈ ['&', '<', '>', '"', '\''] := by
  simp [IsSpecial, htmlEscapes, eq_comm]

theorem putIn_singleton : ∀ e ∈ htmlEscapes, putIn htmlEscapes e.1.toList = e.2.toList := by
  decide +kernel

/-- The escape of a text is that of its first character and of the rest. -/
theorem putIn_htmlEscapes_cons (c : Char) (cs : List Char) :
    (∃ e ∈ htmlEscapes, e.1.toList = [c] ∧
        putIn htmlEscapes (c :: cs) = e.2.toList ++ putIn htmlEscapes cs) ∨
      ¬ IsSpecial c ∧ putIn htmlEscapes (c :: cs) = c :: putIn htmlEscapes cs := by
  have hes : ∀ e ∈ htmlEscapes, IsEscape e := isEscapeTable_htmlEscapes.isEscape
  have hsplit : putIn htmlEscapes (c :: cs) = putIn htmlEscapes [c] ++ putIn htmlEscapes cs :=
    putIn_append hes [c] cs
  rw [hsplit]
  by_cases hspecial : IsSpecial c
  · obtain ⟨e, he, hchar⟩ := hspecial
    rw [← hchar, putIn_singleton e he]
    exact .inl ⟨e, he, rfl, rfl⟩
  · have hplain : ∀ e ∈ htmlEscapes, ∀ d ∈ e.1.toList, d ∉ [c] := by
      intro e he d hd hdc
      obtain ⟨d', hchar⟩ := (hes e he).char
      rw [hchar] at hd
      obtain rfl := List.mem_singleton.1 hd
      obtain rfl := List.mem_singleton.1 hdc
      exact hspecial ⟨e, he, hchar⟩
    rw [putIn_eq_self hes hplain]
    exact .inr ⟨hspecial, rfl⟩

theorem takeOut_of_not_isSpecial (hc : ¬ IsSpecial c) (cs : List Char) :
    takeOut htmlEscapes (c :: cs) = c :: takeOut htmlEscapes cs := by
  have hne : c ≠ '&' := by
    rintro rfl
    exact hc (isSpecial_iff.2 (by decide))
  exact takeOut_char isEscapeTable_htmlEscapes fun e he =>
    (isEscapeTable_htmlEscapes.isEscape e he).not_prefix_of_ne hne cs

theorem takeOut_putIn (text : List Char) :
    takeOut htmlEscapes (putIn htmlEscapes text) = text := by
  induction text with
  | nil => rw [putIn_nil, takeOut_nil]
  | cons c cs ih =>
    rcases putIn_htmlEscapes_cons c cs with ⟨e, he, hchar, hput⟩ | ⟨hc, hput⟩
    · rw [hput, takeOut_escape isEscapeTable_htmlEscapes he, ih, hchar, List.singleton_append]
    · rw [hput, takeOut_of_not_isSpecial hc, ih]

theorem foldl_replaceAll (es : List (String × String)) (s : String) :
    es.foldl (fun s e => replaceAll e.1 e.2 s) s = String.ofList (putIn es s.toList) := by
  induction es generalizing s with
  | nil => exact String.ofList_toList.symm
  | cons e es ih => rw [List.foldl_cons, ih, replaceAll, String.toList_ofList, putIn_cons]

theorem foldr_replaceAll (es : List (String × String)) (s : String) :
    es.foldr (fun e s => replaceAll e.2 e.1 s) s = String.ofList (takeOut es s.toList) := by
  induction es with
  | nil => exact String.ofList_toList.symm
  | cons e es ih => rw [List.foldr_cons, ih, replaceAll, String.toList_ofList, takeOut_cons]

theorem escapeHtml_eq (s : String) :
    escapeHtml s = String.ofList (putIn htmlEscapes s.toList) :=
  foldl_replaceAll htmlEscapes s

theorem unescapeHtml_eq (s : String) :
    unescapeHtml s = String.ofList (takeOut htmlEscapes s.toList) := by
  rw [unescapeHtml, List.foldl_reverse, foldr_replaceAll]

/-- **Escapes are undone exactly.** -/
theorem unescapeHtml_escapeHtml (s : String) : unescapeHtml (escapeHtml s) = s := by
  rw [unescapeHtml_eq, escapeHtml_eq, String.toList_ofList, takeOut_putIn, String.ofList_toList]

end AlertBridge
