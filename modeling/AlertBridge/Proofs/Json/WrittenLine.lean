import AlertBridge.Proofs.Json.Numeral

/-!
# The line of a value

A document is written on one line: control characters are escaped in texts, and nothing else writes
any. The line of a value starts with no blank and no closing bracket, so a reader that skips blanks
stands at the value.

## Main definitions

* `lineOf`, `itemsLine`, `fieldsLine`: the characters that are written for a value, items and fields

## Main results

* `head_lineOf`: the first character of a line
* `le_toNat_of_mem_lineOf`: a line has no control characters
-/

namespace AlertBridge.Json

/-! ## Quoted texts -/

/-- A character in quotes: behind a backslash a letter that stands for it, its number, or itself. -/
theorem escapeChar_cases (c : Char) :
    (∃ letter, escapeChar false c = ['\\', letter] ∧ simpleEscape? letter = some c ∧
        letter ≠ 'u' ∧ 32 ≤ letter.toNat) ∨
      (escapeChar false c = unitEscape c.toNat ∧ c.toNat < 32) ∨
      (escapeChar false c = [c] ∧ c ≠ '"' ∧ c ≠ '\\' ∧ 32 ≤ c.toNat) := by
  unfold escapeChar
  split
  · next h => exact .inl ⟨'"', rfl, by rw [h]; rfl, by decide, by decide⟩
  split
  · next h => exact .inl ⟨'\\', rfl, by rw [h]; rfl, by decide, by decide⟩
  split
  · next h => exact .inl ⟨'n', rfl, by rw [h]; rfl, by decide, by decide⟩
  split
  · next h => exact .inl ⟨'r', rfl, by rw [h]; rfl, by decide, by decide⟩
  split
  · next h => exact .inl ⟨'t', rfl, by rw [h]; rfl, by decide, by decide⟩
  split
  · next h =>
    obtain rfl : c = '\x08' := Char.toNat_inj.1 h
    exact .inl ⟨'b', rfl, rfl, by decide, by decide⟩
  split
  · next h =>
    obtain rfl : c = '\x0c' := Char.toNat_inj.1 h
    exact .inl ⟨'f', rfl, rfl, by decide, by decide⟩
  split
  · next h =>
    have hlt : c.toNat < 32 := by simpa using h
    rw [codePointEscape, if_pos (by omega)]
    exact .inr (.inl ⟨rfl, hlt⟩)
  · next hquote hslash _ _ _ _ _ h =>
    exact .inr (.inr ⟨rfl, hquote, hslash, by simpa using h⟩)

/-! ## Lines -/

/-- The line of a value. -/
def lineOf (v : Json) : List Char := (written spaced v).toList

/-- The lines of items, with separators. -/
def itemsLine (items : List Json) : List Char :=
  (joinWith spaced.separator (writtenItems spaced items)).toList

/-- The lines of fields, with separators. -/
def fieldsLine (fields : List (String × Json)) : List Char :=
  (joinWith spaced.separator (writtenFields spaced fields)).toList

/-- The rest of the line of a text, behind the first quote. -/
def quotedLine (s : String) (rest : List Char) : List Char :=
  s.toList.flatMap (escapeChar false) ++ '"' :: rest

theorem lineOf_str_append (s : String) (rest : List Char) :
    lineOf (.str s) ++ rest = '"' :: quotedLine s rest := by
  simp [lineOf, written, quote, quotedLine, spaced]

theorem lineOf_arr_append (items : List Json) (rest : List Char) :
    lineOf (.arr items) ++ rest = '[' :: (itemsLine items ++ ']' :: rest) := by
  simp [lineOf, written, itemsLine]

theorem lineOf_obj_append (fields : List (String × Json)) (rest : List Char) :
    lineOf (.obj fields) ++ rest = '\x7b' :: (fieldsLine fields ++ '\x7d' :: rest) := by
  simp [lineOf, written, fieldsLine]

theorem itemsLine_singleton_append (v : Json) (rest : List Char) :
    itemsLine [v] ++ rest = lineOf v ++ rest := by
  simp [itemsLine, writtenItems, joinWith, lineOf]

theorem itemsLine_cons_cons_append (v w : Json) (items : List Json) (rest : List Char) :
    itemsLine (v :: w :: items) ++ rest =
      lineOf v ++ ',' :: ' ' :: (itemsLine (w :: items) ++ rest) := by
  simp [itemsLine, writtenItems, joinWith, lineOf, spaced]

theorem fieldsLine_singleton_append (name : String) (v : Json) (rest : List Char) :
    fieldsLine [(name, v)] ++ rest = '"' :: quotedLine name (':' :: ' ' :: (lineOf v ++ rest)) := by
  simp [fieldsLine, writtenFields, joinWith, lineOf, quote, quotedLine, spaced]

theorem fieldsLine_cons_cons_append (name name' : String) (v w : Json)
    (fields : List (String × Json)) (rest : List Char) :
    fieldsLine ((name, v) :: (name', w) :: fields) ++ rest =
      '"' :: quotedLine name (':' :: ' ' :: (lineOf v ++
        ',' :: ' ' :: (fieldsLine ((name', w) :: fields) ++ rest))) := by
  simp [fieldsLine, writtenFields, joinWith, lineOf, quote, quotedLine, spaced]

/-! ## The first character -/

theorem isSpace_of_isNumberChar {c : Char} (hc : isNumberChar c) :
    isSpace c = false ∧ c ≠ ']' := by
  refine ⟨?_, ?_⟩
  · by_contra hspace
    rw [Bool.not_eq_false] at hspace
    have hcases : c = ' ' ∨ c = '\t' ∨ c = '\n' ∨ c = '\r' := by
      simpa [isSpace, or_assoc] using hspace
    rcases hcases with rfl | rfl | rfl | rfl <;> cases hc
  · rintro rfl
    cases hc

theorem skipSpace_cons {c : Char} (hc : isSpace c = false) (cs : List Char) :
    skipSpace (c :: cs) = c :: cs :=
  List.dropWhile_cons_of_neg (by simp [hc])

theorem skipSpace_of_isNumberChar {c : Char} (hc : isNumberChar c) (cs : List Char) :
    skipSpace (c :: cs) = c :: cs :=
  skipSpace_cons (isSpace_of_isNumberChar hc).1 cs

theorem head_word {w : String} {v : Json} (h : (w, v) ∈ words) :
    ∃ c cs, w.toList = c :: cs ∧ isSpace c = false ∧ c ≠ ']' := by
  simp only [words, List.mem_cons, Prod.mk.injEq, List.not_mem_nil, or_false] at h
  rcases h with ⟨rfl, -⟩ | ⟨rfl, -⟩ | ⟨rfl, -⟩ | ⟨rfl, -⟩ | ⟨rfl, -⟩ | ⟨rfl, -⟩ <;>
    exact ⟨_, _, rfl, by decide, by decide⟩

/-- The line of a value starts with no blank and no closing bracket. -/
theorem head_lineOf (v : Json) :
    ∃ c cs, lineOf v = c :: cs ∧ isSpace c = false ∧ c ≠ ']' := by
  cases v with
  | null => exact ⟨'n', _, rfl, by decide, by decide⟩
  | bool b => cases b <;> exact ⟨_, _, rfl, by decide, by decide⟩
  | int n =>
    obtain ⟨c, cs, hcons⟩ := List.exists_cons_of_ne_nil (numeral_ne_nil n)
    have hc := isNumberChar_of_mem_numeral n c (hcons ▸ List.mem_cons_self)
    exact ⟨c, cs, hcons, isSpace_of_isNumberChar hc⟩
  | real x =>
    rcases textWith_cases x with ⟨hchars, hne⟩ | hword
    · obtain ⟨c, cs, hcons⟩ := List.exists_cons_of_ne_nil hne
      exact ⟨c, cs, hcons, isSpace_of_isNumberChar (hchars c (hcons ▸ List.mem_cons_self))⟩
    · exact head_word hword
  | str s =>
    have h := lineOf_str_append s []
    rw [List.append_nil] at h
    exact ⟨_, _, h, by decide, by decide⟩
  | arr items =>
    have h := lineOf_arr_append items []
    rw [List.append_nil] at h
    exact ⟨_, _, h, by decide, by decide⟩
  | obj fields =>
    have h := lineOf_obj_append fields []
    rw [List.append_nil] at h
    exact ⟨_, _, h, by decide, by decide⟩

theorem skipSpace_lineOf (v : Json) (rest : List Char) :
    skipSpace (lineOf v ++ rest) = lineOf v ++ rest := by
  obtain ⟨c, cs, hcons, hc, -⟩ := head_lineOf v
  rw [hcons]
  exact skipSpace_cons hc _

theorem head_itemsLine (v : Json) (items : List Json) (rest : List Char) :
    ∃ c cs, itemsLine (v :: items) ++ rest = c :: cs ∧ isSpace c = false ∧ c ≠ ']' := by
  obtain ⟨c, cs, hcons, hc⟩ := head_lineOf v
  cases items with
  | nil =>
    rw [itemsLine_singleton_append, hcons]
    exact ⟨c, _, rfl, hc⟩
  | cons w items =>
    rw [itemsLine_cons_cons_append, hcons]
    exact ⟨c, _, rfl, hc⟩

theorem skipSpace_itemsLine (v : Json) (items : List Json) (rest : List Char) :
    skipSpace (itemsLine (v :: items) ++ rest) = itemsLine (v :: items) ++ rest := by
  obtain ⟨c, cs, hcons, hc, -⟩ := head_itemsLine v items rest
  rw [hcons]
  exact skipSpace_cons hc cs

theorem head_fieldsLine (f : String × Json) (fields : List (String × Json)) (rest : List Char) :
    ∃ cs, fieldsLine (f :: fields) ++ rest = '"' :: cs := by
  cases fields with
  | nil => exact ⟨_, fieldsLine_singleton_append ..⟩
  | cons g fields => exact ⟨_, fieldsLine_cons_cons_append ..⟩

theorem skipSpace_fieldsLine (f : String × Json) (fields : List (String × Json))
    (rest : List Char) :
    skipSpace (fieldsLine (f :: fields) ++ rest) = fieldsLine (f :: fields) ++ rest := by
  obtain ⟨cs, hcons⟩ := head_fieldsLine f fields rest
  rw [hcons]
  exact skipSpace_cons (by decide) cs

theorem length_skipSpace_le (cs : List Char) : (skipSpace cs).length ≤ cs.length :=
  (List.dropWhile_sublist _).length_le

/-! ## No control characters -/

theorem le_toNat_of_isNumberChar {c : Char} (hc : isNumberChar c) : 32 ≤ c.toNat := by
  by_contra hlt
  have hnone : ∀ n < 32, isNumberChar (Char.ofNat n) = false := by decide
  rw [← Char.ofNat_toNat c, hnone c.toNat (by omega)] at hc
  cases hc

theorem le_toNat_of_mem_hexPadded {n : Nat} (h : n < 32) : ∀ c ∈ hexPadded 4 n, 32 ≤ c.toNat := by
  have hall : ∀ n < 32, (hexPadded 4 n).all (32 ≤ ·.toNat) := by decide +kernel
  simpa using hall n h

/-- Control characters are escaped. -/
theorem le_toNat_of_mem_escapeChar {c d : Char} (h : d ∈ escapeChar false c) : 32 ≤ d.toNat := by
  rcases escapeChar_cases c with ⟨letter, heq, -, -, hle⟩ | ⟨heq, hlt⟩ | ⟨heq, -, -, hle⟩
  · rw [heq, List.mem_cons, List.mem_singleton] at h
    rcases h with rfl | rfl
    · decide
    · exact hle
  · rw [heq, unitEscape, List.mem_cons, List.mem_cons] at h
    rcases h with rfl | rfl | h
    · decide
    · decide
    · exact le_toNat_of_mem_hexPadded hlt d h
  · rw [heq, List.mem_singleton] at h
    exact h ▸ hle

theorem le_toNat_of_mem_quotedLine {s : String} {rest : List Char}
    (hrest : ∀ c ∈ rest, 32 ≤ c.toNat) : ∀ c ∈ quotedLine s rest, 32 ≤ c.toNat := by
  rw [quotedLine, List.forall_mem_append, List.forall_mem_cons]
  refine ⟨fun c hc => ?_, by decide, hrest⟩
  obtain ⟨d, -, hd⟩ := List.mem_flatMap.1 hc
  exact le_toNat_of_mem_escapeChar hd

theorem le_toNat_of_mem_word {w : String} {v : Json} (h : (w, v) ∈ words) :
    ∀ c ∈ w.toList, 32 ≤ c.toNat := by
  have hall : ∀ p ∈ words, p.1.toList.all (32 ≤ ·.toNat) := by decide
  simpa using hall _ h

mutual

/-- The line of a value has no control characters, and so is one line. -/
theorem le_toNat_of_mem_lineOf : (v : Json) → ∀ c ∈ lineOf v, 32 ≤ c.toNat
  | .null => le_toNat_of_mem_word (w := "null") (v := .null) (by simp [words])
  | .bool false => le_toNat_of_mem_word (w := "false") (v := .bool false) (by simp [words])
  | .bool true => le_toNat_of_mem_word (w := "true") (v := .bool true) (by simp [words])
  | .int n => fun c hc => le_toNat_of_isNumberChar (isNumberChar_of_mem_numeral n c hc)
  | .real x => by
    rcases textWith_cases x with ⟨hchars, -⟩ | hword
    · exact fun c hc => le_toNat_of_isNumberChar (hchars c hc)
    · exact le_toNat_of_mem_word hword
  | .str s => by
    rw [← List.append_nil (lineOf _), lineOf_str_append, List.forall_mem_cons]
    exact ⟨by decide, le_toNat_of_mem_quotedLine (by simp)⟩
  | .arr items => by
    rw [← List.append_nil (lineOf _), lineOf_arr_append, List.forall_mem_cons,
      List.forall_mem_append]
    exact ⟨by decide, le_toNat_of_mem_itemsLine items, by simp⟩
  | .obj fields => by
    rw [← List.append_nil (lineOf _), lineOf_obj_append, List.forall_mem_cons,
      List.forall_mem_append]
    exact ⟨by decide, le_toNat_of_mem_fieldsLine fields, by simp⟩

theorem le_toNat_of_mem_itemsLine : (items : List Json) → ∀ c ∈ itemsLine items, 32 ≤ c.toNat
  | [] => by simp [itemsLine, writtenItems, joinWith]
  | [v] => by
    rw [← List.append_nil (itemsLine _), itemsLine_singleton_append, List.append_nil]
    exact le_toNat_of_mem_lineOf v
  | v :: w :: items => by
    rw [← List.append_nil (itemsLine _), itemsLine_cons_cons_append, List.append_nil,
      List.forall_mem_append, List.forall_mem_cons, List.forall_mem_cons]
    exact ⟨le_toNat_of_mem_lineOf v, by decide, by decide, le_toNat_of_mem_itemsLine (w :: items)⟩

theorem le_toNat_of_mem_fieldsLine : (fields : List (String × Json)) →
    ∀ c ∈ fieldsLine fields, 32 ≤ c.toNat
  | [] => by simp [fieldsLine, writtenFields, joinWith]
  | [(name, v)] => by
    rw [← List.append_nil (fieldsLine _), fieldsLine_singleton_append, List.append_nil,
      List.forall_mem_cons]
    refine ⟨by decide, le_toNat_of_mem_quotedLine ?_⟩
    rw [List.forall_mem_cons, List.forall_mem_cons]
    exact ⟨by decide, by decide, le_toNat_of_mem_lineOf v⟩
  | (name, v) :: (name', w) :: fields => by
    rw [← List.append_nil (fieldsLine _), fieldsLine_cons_cons_append, List.append_nil,
      List.forall_mem_cons]
    refine ⟨by decide, le_toNat_of_mem_quotedLine ?_⟩
    rw [List.forall_mem_cons, List.forall_mem_cons, List.forall_mem_append, List.forall_mem_cons,
      List.forall_mem_cons]
    exact ⟨by decide, by decide, le_toNat_of_mem_lineOf v, by decide, by decide,
      le_toNat_of_mem_fieldsLine ((name', w) :: fields)⟩

end

end AlertBridge.Json
