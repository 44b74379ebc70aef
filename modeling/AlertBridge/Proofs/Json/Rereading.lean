import AlertBridge.Proofs.Json.WrittenLine

/-!
# Documents that are read again

A value that is written on a line and read again is what it was, with two exceptions: of a double
nothing is said but that it is a number again, and of several fields of one name the last value
stays. Reading can fail only at a number that is not read when it stands alone, such as a numeral
that is too long, and then no other value comes out.

## Main definitions

* `Rereads`: what a value can be read as
* `isReadable`: each number of the value is read when it stands alone
* `isPlain`: the value has no double and no name twice

## Main results

* `rereads_of_read?`: what is read from the line of a value
* `exists_read?_written`: the line of a readable value is read
* `read?_written`: the line of a plain one is read as the value
-/

namespace AlertBridge.Json

/-! ## Quoted texts -/

/-- Small numbers are written with four digits. -/
theorem readUnit?_hexPadded {n : Nat} (h : n < 32) (cs : List Char) :
    readUnit? (hexPadded 4 n ++ cs) = some (n, cs) := by
  have hdigits : ∀ n < 32,
      hexPadded 4 n = ['0', '0', Nat.digitChar (n / 16), Nat.digitChar (n % 16)] ∧
        (['0', '0', Nat.digitChar (n / 16), Nat.digitChar (n % 16)].all
          fun x => (hexDigit? x).isSome) ∧
        hexValue ['0', '0', Nat.digitChar (n / 16), Nat.digitChar (n % 16)] = n := by
    decide +kernel
  obtain ⟨heq, hall, hvalue⟩ := hdigits n h
  rw [heq]
  show readUnit? ('0' :: '0' :: Nat.digitChar (n / 16) :: Nat.digitChar (n % 16) :: cs) = _
  rw [readUnit?, if_pos hall, hvalue]

/-- A character in quotes is read. -/
theorem readQuoted?_escapeChar (c : Char) (done cs : List Char) :
    readQuoted? done (escapeChar false c ++ cs) = readQuoted? (c :: done) cs := by
  rcases escapeChar_cases c with
    ⟨letter, heq, hletter, hu, -⟩ | ⟨heq, hlt⟩ | ⟨heq, hquote, hslash, hle⟩
  · rw [heq, List.cons_append, List.cons_append, List.nil_append, readQuoted?, hletter]
    exact hu
  · have hscalar : scalar c.toNat = c := by
      rw [scalar, if_neg (by simp; omega), Char.ofNat_toNat]
    rw [heq, unitEscape, List.cons_append, List.cons_append, readQuoted?]
    split
    · next hnone =>
      rw [readUnit?_hexPadded hlt] at hnone
      cases hnone
    · next n rest hsome =>
      rw [readUnit?_hexPadded hlt] at hsome
      obtain ⟨rfl, rfl⟩ := Prod.mk.inj (Option.some.inj hsome)
      rw [if_neg (by simp; omega), hscalar]
  · rw [heq, List.cons_append, List.nil_append, readQuoted?, if_neg (by omega)]
    · exact hquote
    · exact fun _ h => absurd h hslash
    · exact fun _ _ h => absurd h hslash

/-- A text in quotes is read. -/
theorem readQuoted?_flatMap (done cs rest : List Char) :
    readQuoted? done (cs.flatMap (escapeChar false) ++ '"' :: rest) =
      some (String.ofList (done.reverse ++ cs), rest) := by
  induction cs generalizing done with
  | nil => rw [List.flatMap_nil, List.nil_append, readQuoted?, List.append_nil]
  | cons c cs ih =>
    rw [List.flatMap_cons, List.append_assoc, readQuoted?_escapeChar, ih, List.reverse_cons,
      List.append_assoc, List.singleton_append]
/-! ## What is read -/

mutual

/-- What a value can be read as: itself, but a double as any number, and of fields of one name only
the last. -/
inductive Rereads : Json → Json → Prop where
  | null : Rereads .null .null
  | bool (b : Bool) : Rereads (.bool b) (.bool b)
  | int (n : Int) : Rereads (.int n) (.int n)
  | real {x : Binary64} {w : Json} (hnumber : IsNumber w) : Rereads (.real x) w
  | str (s : String) : Rereads (.str s) (.str s)
  | arr {items read : List Json} (hitems : RereadsItems items read) : Rereads (.arr items) (.arr read)
  | obj {fields read : List (String × Json)} (hfields : RereadsFields fields read) :
      Rereads (.obj fields) (.ofFields read)

/-- What items can be read as. -/
inductive RereadsItems : List Json → List Json → Prop where
  | nil : RereadsItems [] []
  | cons {v w : Json} {items read : List Json} (hv : Rereads v w)
      (hitems : RereadsItems items read) : RereadsItems (v :: items) (w :: read)

/-- What fields can be read as: the names stay. -/
inductive RereadsFields : List (String × Json) → List (String × Json) → Prop where
  | nil : RereadsFields [] []
  | cons {name : String} {v w : Json} {fields read : List (String × Json)} (hv : Rereads v w)
      (hfields : RereadsFields fields read) :
      RereadsFields ((name, v) :: fields) ((name, w) :: read)

end

mutual

/-- Each number in the value is read when it stands alone. -/
def isReadable : Json → Bool
  | int n => (read? (written spaced (int n)).toList).isSome
  | real x => (read? (written spaced (real x)).toList).isSome
  | arr items => areReadableItems items
  | obj fields => areReadableFields fields
  | _ => true

/-- All items are readable. -/
def areReadableItems : List Json → Bool
  | [] => true
  | v :: rest => isReadable v && areReadableItems rest

/-- The values of all fields are readable. -/
def areReadableFields : List (String × Json) → Bool
  | [] => true
  | (_, v) :: rest => isReadable v && areReadableFields rest

end

/-- What the reading of a value's line can come to, where something may stand behind it. Only a
value that is not readable can fail, or end at a character of a number. -/
def Reads (v : Json) (rest : List Char) (result : Option (Json × List Char)) : Prop :=
  (∃ w, result = some (w, rest) ∧ Rereads v w) ∨
    v.isReadable = false ∧
      (result = none ∨ ∃ w c cs, result = some (w, c :: cs) ∧ isNumberChar c)

/-- What the reading of items can come to, up to the bracket behind them. -/
def ReadsItems (items done : List Json) (rest : List Char)
    (result : Option (Json × List Char)) : Prop :=
  (∃ read, result = some (.arr (done.reverse ++ read), rest) ∧ RereadsItems items read) ∨
    areReadableItems items = false ∧ result = none

/-- Fields set one after the other. -/
def setFields (done fields : List (String × Json)) : List (String × Json) :=
  fields.foldl (fun acc (name, v) => setField acc name v) done

/-- What the reading of fields can come to, up to the brace behind them. -/
def ReadsFields (fields done : List (String × Json)) (rest : List Char)
    (result : Option (Json × List Char)) : Prop :=
  (∃ read, result = some (.obj (setFields done read), rest) ∧ RereadsFields fields read) ∨
    areReadableFields fields = false ∧ result = none

/-! ## Values without parts -/

theorem readValue?_scalar {c : Char} (cs : List Char) (hquote : c ≠ '"') (hbracket : c ≠ '[')
    (hbrace : c ≠ '\x7b') : readValue? (c :: cs) = readScalar? (c :: cs) := by
  rw [readValue?]
  · exact fun _ h => hquote (List.cons.inj h).1
  · exact fun _ h => hbracket (List.cons.inj h).1
  · exact fun _ h => hbrace (List.cons.inj h).1

/-- A word is read. -/
theorem readValue?_word {w : String} {v : Json} (h : (w, v) ∈ words) (rest : List Char) :
    readValue? (w.toList ++ rest) = some (v, rest) := by
  simp only [words, List.mem_cons, Prod.mk.injEq, List.not_mem_nil, or_false] at h
  rcases h with ⟨rfl, rfl⟩ | ⟨rfl, rfl⟩ | ⟨rfl, rfl⟩ | ⟨rfl, rfl⟩ | ⟨rfl, rfl⟩ | ⟨rfl, rfl⟩ <;>
    exact (readValue?_scalar _ (by decide) (by decide) (by decide)).trans rfl

theorem reads_word {w : String} {v u : Json} {rest : List Char} (hword : (w, u) ∈ words)
    (hread : Rereads v u) : Reads v rest (readValue? (w.toList ++ rest)) :=
  .inl ⟨u, readValue?_word hword rest, hread⟩

/-- A text of characters of numbers is read as it is when it stands alone. -/
theorem readValue?_append {text rest : List Char} (hchars : ∀ c ∈ text, isNumberChar c)
    (hne : text ≠ []) (hrest : Delimited rest) :
    readValue? (text ++ rest) = (readScalar? text).map (followedBy rest) := by
  rw [← readScalar?_append hchars hne hrest]
  obtain ⟨c, cs, rfl⟩ := List.exists_cons_of_ne_nil hne
  have hc := hchars c List.mem_cons_self
  refine readValue?_scalar _ ?_ ?_ ?_ <;> rintro rfl <;> cases hc

/-- A number is read as it is when it stands alone, up to what stands behind it: it fails, or is
read as a whole, or leaves some of its characters, in both places. -/
theorem reads_number {v : Json} {text rest : List Char} (hchars : ∀ c ∈ text, isNumberChar c)
    (hne : text ≠ []) (hread : ∀ w, readScalar? text = some (w, []) → Rereads v w)
    (hreadable : v.isReadable = (read? text).isSome) (hrest : Delimited rest) :
    Reads v rest (readValue? (text ++ rest)) := by
  have hdelimited : Delimited [] := trivial
  have halone := readValue?_append hchars hne hdelimited
  have hskip : skipSpace text = text := by
    obtain ⟨c, cs, rfl⟩ := List.exists_cons_of_ne_nil hne
    exact skipSpace_of_isNumberChar (hchars c List.mem_cons_self) cs
  rw [List.append_nil] at halone
  rw [read?, hskip, halone] at hreadable
  rw [readValue?_append hchars hne hrest]
  cases hresult : readScalar? text with
  | none =>
    rw [hresult] at hreadable
    exact .inr ⟨hreadable, .inl rfl⟩
  | some found =>
    obtain ⟨w, left⟩ := found
    cases left with
    | nil => exact .inl ⟨w, rfl, hread w hresult⟩
    | cons c cs =>
      have hc := (isNumber_of_readScalar? hchars hne hresult).2 c List.mem_cons_self
      rw [hresult, Option.map_some, followedBy, List.append_nil] at hreadable
      dsimp only at hreadable
      rw [skipSpace_of_isNumberChar hc] at hreadable
      exact .inr ⟨hreadable, .inr ⟨w, c, cs ++ rest, rfl, hc⟩⟩

theorem reads_real (x : Binary64) {rest : List Char} (hrest : Delimited rest) :
    Reads (.real x) rest (readValue? (lineOf (.real x) ++ rest)) := by
  rcases textWith_cases x with ⟨hchars, hne⟩ | hword
  · exact reads_number hchars hne
      (fun w h => .real (isNumber_of_readScalar? hchars hne h).1) rfl hrest
  · have hread := readValue?_word hword rest
    exact .inl ⟨.real x, hread, .real (.inr ⟨x, rfl⟩)⟩

theorem reads_int (n : Int) {rest : List Char} (hrest : Delimited rest) :
    Reads (.int n) rest (readValue? (lineOf (.int n) ++ rest)) := by
  refine reads_number (isNumberChar_of_mem_numeral n) (numeral_ne_nil n) (fun w h => ?_) rfl hrest
  rw [lineOf, written, readScalar?_numeral, Option.ite_none_left_eq_some] at h
  obtain ⟨rfl, -⟩ := Prod.mk.inj (Option.some.inj h.2)
  exact .int n

theorem reads_str (s : String) (rest : List Char) :
    Reads (.str s) rest (readValue? (lineOf (.str s) ++ rest)) := by
  rw [lineOf_str_append, readValue?, quotedLine, readQuoted?_flatMap, List.reverse_nil,
    List.nil_append, String.ofList_toList]
  exact .inl ⟨.str s, rfl, .str s⟩

/-! ## Items -/

theorem readItems?_failed {done : List Json} {input : List Char}
    (hread : readValue? (skipSpace input) = none) : readItems? done input = none := by
  rw [readItems?, hread]

/-- Nothing can follow an item but a separator or the closing bracket. -/
theorem readItems?_stuck {done : List Json} {input cs : List Char} {w : Json} {c : Char}
    (hread : readValue? (skipSpace input) = some (w, c :: cs)) (hc : isNumberChar c) :
    readItems? done input = none := by
  rw [readItems?, hread]
  dsimp only
  rw [skipSpace_of_isNumberChar hc]
  split
  · next heq =>
    obtain ⟨rfl, -⟩ := List.cons.inj heq
    cases hc
  · next heq =>
    obtain ⟨rfl, -⟩ := List.cons.inj heq
    cases hc
  · rfl

theorem readItems?_last {done : List Json} {input rest : List Char} {w : Json}
    (hread : readValue? (skipSpace input) = some (w, ']' :: rest)) :
    readItems? done input = some (.arr (done.reverse ++ [w]), rest) := by
  rw [readItems?, hread]
  dsimp only
  rw [skipSpace_cons (by decide), ← List.reverse_cons]
  rfl

theorem readItems?_more {done : List Json} {input after : List Char} {w : Json}
    (hread : readValue? (skipSpace input) = some (w, ',' :: after))
    (hlength : after.length < input.length) :
    readItems? done input = readItems? (w :: done) after := by
  rw [readItems?, hread]
  dsimp only
  rw [skipSpace_cons (by decide)]
  exact if_pos hlength

/-! ## Fields -/

/-- A field is read: its name, and then its value. -/
theorem readFields?_eq {done : List (String × Json)} {input cs : List Char} {name : String}
    (hinput : skipSpace input = '"' :: quotedLine name (':' :: ' ' :: cs))
    (hcs : skipSpace cs = cs) :
    readFields? done input = match readValue? cs with
      | none => none
      | some (v, rest) =>
        match skipSpace rest with
        | '\x7d' :: after => some (.obj (setField done name v), after)
        | ',' :: after =>
          if after.length < input.length then readFields? (setField done name v) after else none
        | _ => none := by
  have hlength : cs.length < input.length := by
    have hle := length_skipSpace_le input
    rw [hinput, quotedLine] at hle
    simp only [List.length_cons, List.length_append] at hle
    omega
  have hspace : skipSpace (' ' :: cs) = cs := hcs
  have hcolon : skipSpace (':' :: ' ' :: cs) = ':' :: ' ' :: cs := skipSpace_cons (by decide) _
  have hstep := readFields?.eq_def done input
  simp only [hinput, quotedLine, readQuoted?_flatMap, hcolon, hspace, if_pos hlength,
    List.reverse_nil, List.nil_append, String.ofList_toList] at hstep
  exact hstep

section

variable {done : List (String × Json)} {input cs rest : List Char} {name : String} {w : Json}

theorem readFields?_failed
    (hinput : skipSpace input = '"' :: quotedLine name (':' :: ' ' :: cs))
    (hcs : skipSpace cs = cs) (hread : readValue? cs = none) : readFields? done input = none := by
  rw [readFields?_eq hinput hcs, hread]

/-- Nothing can follow a field but a separator or the closing brace. -/
theorem readFields?_stuck {c : Char} {behind : List Char}
    (hinput : skipSpace input = '"' :: quotedLine name (':' :: ' ' :: cs))
    (hcs : skipSpace cs = cs) (hread : readValue? cs = some (w, c :: behind))
    (hc : isNumberChar c) : readFields? done input = none := by
  rw [readFields?_eq hinput hcs, hread]
  dsimp only
  rw [skipSpace_of_isNumberChar hc]
  split
  · next heq =>
    obtain ⟨rfl, -⟩ := List.cons.inj heq
    cases hc
  · next heq =>
    obtain ⟨rfl, -⟩ := List.cons.inj heq
    cases hc
  · rfl

theorem readFields?_last
    (hinput : skipSpace input = '"' :: quotedLine name (':' :: ' ' :: cs))
    (hcs : skipSpace cs = cs) (hread : readValue? cs = some (w, '\x7d' :: rest)) :
    readFields? done input = some (.obj (setField done name w), rest) := by
  rw [readFields?_eq hinput hcs, hread]
  dsimp only
  rw [skipSpace_cons (by decide)]
  rfl

theorem readFields?_more {after : List Char}
    (hinput : skipSpace input = '"' :: quotedLine name (':' :: ' ' :: cs))
    (hcs : skipSpace cs = cs) (hread : readValue? cs = some (w, ',' :: after))
    (hlength : after.length < input.length) :
    readFields? done input = readFields? (setField done name w) after := by
  rw [readFields?_eq hinput hcs, hread]
  dsimp only
  rw [skipSpace_cons (by decide)]
  exact if_pos hlength

end

/-! ## Values with parts -/

theorem readValue?_nil (rest : List Char) :
    readValue? ('[' :: (itemsLine [] ++ ']' :: rest)) = some (.arr [], rest) := by
  have hline : itemsLine [] ++ ']' :: rest = ']' :: rest := by
    simp [itemsLine, writtenItems, joinWith]
  rw [hline, readValue?, skipSpace_cons (by decide)]
  rfl

theorem readValue?_empty (rest : List Char) :
    readValue? ('\x7b' :: (fieldsLine [] ++ '\x7d' :: rest)) = some (.obj [], rest) := by
  have hline : fieldsLine [] ++ '\x7d' :: rest = '\x7d' :: rest := by
    simp [fieldsLine, writtenFields, joinWith]
  rw [hline, readValue?, skipSpace_cons (by decide)]
  rfl

theorem readValue?_items (v : Json) (items : List Json) (rest : List Char) :
    readValue? ('[' :: (itemsLine (v :: items) ++ rest)) =
      readItems? [] (itemsLine (v :: items) ++ rest) := by
  obtain ⟨c, cs, hcons, -, hbracket⟩ := head_itemsLine v items rest
  rw [readValue?, skipSpace_itemsLine, hcons]
  split
  · next heq => exact absurd (List.cons.inj heq).1 hbracket
  · rfl

theorem readValue?_fields (f : String × Json) (fields : List (String × Json)) (rest : List Char) :
    readValue? ('\x7b' :: (fieldsLine (f :: fields) ++ rest)) =
      readFields? [] (fieldsLine (f :: fields) ++ rest) := by
  obtain ⟨cs, hcons⟩ := head_fieldsLine f fields rest
  rw [readValue?, skipSpace_fieldsLine, hcons]
  rfl

mutual

/-- The line of a value is read as the value, up to what stands behind it. -/
theorem reads_lineOf : (v : Json) → (rest : List Char) → Delimited rest →
    Reads v rest (readValue? (lineOf v ++ rest))
  | .null, _, _ => reads_word (w := "null") (by simp [words]) .null
  | .bool false, _, _ => reads_word (w := "false") (by simp [words]) (.bool false)
  | .bool true, _, _ => reads_word (w := "true") (by simp [words]) (.bool true)
  | .int n, _, hrest => reads_int n hrest
  | .real x, _, hrest => reads_real x hrest
  | .str s, rest, _ => reads_str s rest
  | .arr [], rest, _ => by
    rw [lineOf_arr_append]
    exact .inl ⟨.arr [], readValue?_nil rest, .arr .nil⟩
  | .arr (v :: items), rest, _ => by
    rw [lineOf_arr_append, readValue?_items]
    rcases reads_itemsLine (v :: items) [] _ rest (List.cons_ne_nil _ _)
      (skipSpace_itemsLine v items _) with ⟨read, hread, hitems⟩ | ⟨hreadable, hread⟩
    · exact .inl ⟨.arr read, hread, .arr hitems⟩
    · exact .inr ⟨hreadable, .inl hread⟩
  | .obj [], rest, _ => by
    rw [lineOf_obj_append]
    exact .inl ⟨.obj [], readValue?_empty rest, .obj .nil⟩
  | .obj (f :: fields), rest, _ => by
    rw [lineOf_obj_append, readValue?_fields]
    rcases reads_fieldsLine (f :: fields) [] _ rest (List.cons_ne_nil _ _)
      (skipSpace_fieldsLine f fields _) with ⟨read, hread, hfields⟩ | ⟨hreadable, hread⟩
    · exact .inl ⟨.ofFields read, hread, .obj hfields⟩
    · exact .inr ⟨by simp [isReadable, hreadable], .inl hread⟩

/-- Items are read one after the other, up to the closing bracket. -/
theorem reads_itemsLine : (items done : List Json) → (input rest : List Char) → items ≠ [] →
    skipSpace input = itemsLine items ++ ']' :: rest →
    ReadsItems items done rest (readItems? done input)
  | [], _, _, _, hne, _ => absurd rfl hne
  | [v], done, input, rest, _, hinput => by
    have hvalue := reads_lineOf v (']' :: rest) (.inr (.inl rfl))
    rw [← itemsLine_singleton_append, ← hinput] at hvalue
    rcases hvalue with ⟨w, hread, hw⟩ | ⟨hreadable, hread | ⟨w, c, cs, hread, hc⟩⟩
    · exact .inl ⟨[w], readItems?_last hread, .cons hw .nil⟩
    · exact .inr ⟨by simp [areReadableItems, hreadable], readItems?_failed hread⟩
    · exact .inr ⟨by simp [areReadableItems, hreadable], readItems?_stuck hread hc⟩
  | v :: w :: items, done, input, rest, _, hinput => by
    rw [itemsLine_cons_cons_append] at hinput
    have hvalue := reads_lineOf v (',' :: ' ' :: (itemsLine (w :: items) ++ ']' :: rest)) (.inl rfl)
    rw [← hinput] at hvalue
    rcases hvalue with ⟨u, hread, hu⟩ | ⟨hreadable, hread | ⟨u, c, cs, hread, hc⟩⟩
    · have hspace : skipSpace (' ' :: (itemsLine (w :: items) ++ ']' :: rest)) =
          itemsLine (w :: items) ++ ']' :: rest := skipSpace_itemsLine w items _
      have hlength : (' ' :: (itemsLine (w :: items) ++ ']' :: rest)).length < input.length := by
        have hle := length_skipSpace_le input
        rw [hinput, List.length_append, List.length_cons] at hle
        omega
      rw [readItems?_more hread hlength]
      rcases reads_itemsLine (w :: items) (u :: done) _ rest (List.cons_ne_nil _ _) hspace with
        ⟨read, hread, hitems⟩ | ⟨hreadable, hread⟩
      · refine .inl ⟨u :: read, ?_, .cons hu hitems⟩
        rw [hread, List.reverse_cons, List.append_assoc, List.singleton_append]
      · exact .inr ⟨by rw [areReadableItems, hreadable, Bool.and_false], hread⟩
    · exact .inr ⟨by rw [areReadableItems, hreadable, Bool.false_and], readItems?_failed hread⟩
    · exact .inr ⟨by rw [areReadableItems, hreadable, Bool.false_and], readItems?_stuck hread hc⟩

/-- Fields are read one after the other, up to the closing brace. -/
theorem reads_fieldsLine : (fields done : List (String × Json)) → (input rest : List Char) →
    fields ≠ [] → skipSpace input = fieldsLine fields ++ '\x7d' :: rest →
    ReadsFields fields done rest (readFields? done input)
  | [], _, _, _, hne, _ => absurd rfl hne
  | [(name, v)], done, input, rest, _, hinput => by
    rw [fieldsLine_singleton_append] at hinput
    have hspace := skipSpace_lineOf v ('\x7d' :: rest)
    rcases reads_lineOf v ('\x7d' :: rest) (.inr (.inr rfl)) with
      ⟨w, hread, hw⟩ | ⟨hreadable, hread | ⟨w, c, cs, hread, hc⟩⟩
    · exact .inl ⟨[(name, w)], readFields?_last hinput hspace hread, .cons hw .nil⟩
    · exact .inr ⟨by simp [areReadableFields, hreadable], readFields?_failed hinput hspace hread⟩
    · exact .inr ⟨by simp [areReadableFields, hreadable], readFields?_stuck hinput hspace hread hc⟩
  | (name, v) :: (name', w) :: fields, done, input, rest, _, hinput => by
    rw [fieldsLine_cons_cons_append] at hinput
    have hothers := skipSpace_fieldsLine (name', w) fields ('\x7d' :: rest)
    generalize hline : fieldsLine ((name', w) :: fields) ++ '\x7d' :: rest = others
      at hinput hothers
    have hspace := skipSpace_lineOf v (',' :: ' ' :: others)
    rcases reads_lineOf v (',' :: ' ' :: others) (.inl rfl) with
      ⟨u, hread, hu⟩ | ⟨hreadable, hread | ⟨u, c, cs, hread, hc⟩⟩
    · have hlength : (' ' :: others).length < input.length := by
        have hle := length_skipSpace_le input
        rw [hinput, quotedLine] at hle
        simp only [List.length_append, List.length_cons] at hle ⊢
        omega
      rw [readFields?_more hinput hspace hread hlength]
      rcases reads_fieldsLine ((name', w) :: fields) (setField done name u) (' ' :: others) rest
        (List.cons_ne_nil _ _) (hothers.trans hline.symm) with
        ⟨read, hread, hfields⟩ | ⟨hreadable, hread⟩
      · exact .inl ⟨(name, u) :: read, hread, .cons hu hfields⟩
      · exact .inr ⟨by rw [areReadableFields, hreadable, Bool.and_false], hread⟩
    · exact .inr ⟨by rw [areReadableFields, hreadable, Bool.false_and],
        readFields?_failed hinput hspace hread⟩
    · exact .inr ⟨by rw [areReadableFields, hreadable, Bool.false_and],
        readFields?_stuck hinput hspace hread hc⟩

end

/-! ## Documents -/

/-- A field of a new name comes last. -/
theorem setField_of_not_mem {fields : List (String × Json)} {name : String} (v : Json)
    (h : name ∉ fields.map Prod.fst) : setField fields name v = fields ++ [(name, v)] := by
  induction fields with
  | nil => rfl
  | cons f fields ih =>
    obtain ⟨k, w⟩ := f
    rw [List.map_cons, List.mem_cons, not_or] at h
    rw [setField, if_neg (Ne.symm h.1), ih h.2, List.cons_append]

/-- Fields of different names are set as they are. -/
theorem setFields_of_nodup {done fields : List (String × Json)}
    (h : ((done ++ fields).map Prod.fst).Nodup) : setFields done fields = done ++ fields := by
  induction fields generalizing done with
  | nil => exact (List.append_nil done).symm
  | cons f fields ih =>
    obtain ⟨name, v⟩ := f
    have hnew : name ∉ done.map Prod.fst := by
      rw [List.map_append, List.nodup_append] at h
      exact fun hmem => h.2.2 name hmem name (by simp) rfl
    have hrest : ((done ++ [(name, v)] ++ fields).map Prod.fst).Nodup := by simpa using h
    show setFields (setField done name v) fields = done ++ (name, v) :: fields
    rw [setField_of_not_mem v hnew, ih hrest, List.append_assoc, List.singleton_append]

mutual

/-- The value has no double, and no name twice in an object. -/
def isPlain : Json → Bool
  | real _ => false
  | arr items => arePlainItems items
  | obj fields => (fields.map Prod.fst).Nodup && arePlainFields fields
  | _ => true

/-- All items are plain. -/
def arePlainItems : List Json → Bool
  | [] => true
  | v :: rest => isPlain v && arePlainItems rest

/-- The values of all fields are plain. -/
def arePlainFields : List (String × Json) → Bool
  | [] => true
  | (_, v) :: rest => isPlain v && arePlainFields rest

end

mutual

/-- A plain value is read as itself. -/
theorem Rereads.eq_of_isPlain : {v w : Json} → Rereads v w → v.isPlain → w = v
  | _, _, .null, _ => rfl
  | _, _, .bool _, _ => rfl
  | _, _, .int _, _ => rfl
  | _, _, .real _, hplain => by cases hplain
  | _, _, .str _, _ => rfl
  | _, _, .arr hitems, hplain => by rw [hitems.eq_of_arePlain hplain]
  | .obj fields, _, .obj hfields, hplain => by
    rw [isPlain, Bool.and_eq_true, decide_eq_true_eq] at hplain
    have hnodup : (([] ++ fields).map Prod.fst).Nodup := hplain.1
    rw [hfields.eq_of_arePlain hplain.2]
    exact congrArg Json.obj (setFields_of_nodup hnodup)

theorem RereadsItems.eq_of_arePlain : {items read : List Json} → RereadsItems items read →
    arePlainItems items → read = items
  | _, _, .nil, _ => rfl
  | _, _, .cons hv hitems, hplain => by
    rw [arePlainItems, Bool.and_eq_true] at hplain
    rw [hv.eq_of_isPlain hplain.1, hitems.eq_of_arePlain hplain.2]

theorem RereadsFields.eq_of_arePlain : {fields read : List (String × Json)} →
    RereadsFields fields read → arePlainFields fields → read = fields
  | _, _, .nil, _ => rfl
  | _, _, .cons hv hfields, hplain => by
    rw [arePlainFields, Bool.and_eq_true] at hplain
    rw [hv.eq_of_isPlain hplain.1, hfields.eq_of_arePlain hplain.2]

end

theorem skipSpace_lineOf_self (v : Json) : skipSpace (lineOf v) = lineOf v := by
  have h := skipSpace_lineOf v []
  rwa [List.append_nil] at h

theorem reads_lineOf_self (v : Json) : Reads v [] (readValue? (lineOf v)) := by
  have h := reads_lineOf v [] trivial
  rwa [List.append_nil] at h

/-- **What is read from the line of a value** is the value, but for doubles and names that come
twice. -/
theorem rereads_of_read? {v w : Json} (h : read? (written spaced v).toList = some w) :
    Rereads v w := by
  change read? (lineOf v) = some w at h
  rw [read?, skipSpace_lineOf_self] at h
  rcases reads_lineOf_self v with ⟨u, hread, hu⟩ | ⟨-, hread | ⟨u, c, cs, hread, hc⟩⟩
  · rw [hread] at h
    obtain rfl := Option.some.inj h
    exact hu
  · rw [hread] at h
    cases h
  · rw [hread] at h
    dsimp only at h
    rw [skipSpace_of_isNumberChar hc] at h
    cases h

/-- **The line of a readable value** is read. -/
theorem exists_read?_written {v : Json} (h : v.isReadable) :
    ∃ w, read? (written spaced v).toList = some w ∧ Rereads v w := by
  change ∃ w, read? (lineOf v) = some w ∧ Rereads v w
  rw [read?, skipSpace_lineOf_self]
  rcases reads_lineOf_self v with ⟨w, hread, hw⟩ | ⟨hreadable, -⟩
  · exact ⟨w, by rw [hread]; rfl, hw⟩
  · rw [h] at hreadable
    cases hreadable

/-- **The line of a readable value that is plain** is read as the value. -/
theorem read?_written {v : Json} (hreadable : v.isReadable) (hplain : v.isPlain) :
    read? (written spaced v).toList = some v := by
  obtain ⟨w, hread, hw⟩ := exists_read?_written hreadable
  rw [hread, hw.eq_of_isPlain hplain]

/-! ## Fields of what is read -/

theorem eq_or_mem_of_mem_setField {α : Type} {fields : List (String × α)} {name : String} {v : α}
    {f : String × α} (h : f ∈ setField fields name v) : f = (name, v) ∨ f ∈ fields := by
  induction fields with
  | nil => exact .inl (List.mem_singleton.1 h)
  | cons g fields ih =>
    obtain ⟨k, w⟩ := g
    rw [setField] at h
    split at h
    · next hk =>
      rcases List.mem_cons.1 h with rfl | h
      · exact .inl (by rw [hk])
      · exact .inr (List.mem_cons_of_mem _ h)
    · rcases List.mem_cons.1 h with rfl | h
      · exact .inr List.mem_cons_self
      · exact (ih h).imp_right (List.mem_cons_of_mem _)

theorem mem_of_mem_setFields {done fields : List (String × Json)} {f : String × Json}
    (h : f ∈ setFields done fields) : f ∈ done ∨ f ∈ fields := by
  induction fields generalizing done with
  | nil => exact .inl h
  | cons g fields ih =>
    rcases ih h with hdone | hmem
    · rcases eq_or_mem_of_mem_setField hdone with rfl | hdone
      · exact .inr List.mem_cons_self
      · exact .inl hdone
    · exact .inr (List.mem_cons_of_mem _ hmem)

theorem RereadsFields.exists_of_mem : {fields read : List (String × Json)} →
    RereadsFields fields read → {name : String} → {w : Json} → (name, w) ∈ read →
    ∃ v, (name, v) ∈ fields ∧ Rereads v w
  | _, _, .nil, _, _, hmem => by cases hmem
  | _, _, .cons hv hfields, name, w, hmem => by
    rcases List.mem_cons.1 hmem with heq | hmem
    · obtain ⟨rfl, rfl⟩ := Prod.mk.inj heq
      exact ⟨_, List.mem_cons_self, hv⟩
    · obtain ⟨v, hv, hread⟩ := hfields.exists_of_mem hmem
      exact ⟨v, List.mem_cons_of_mem _ hv, hread⟩

/-- A text that is read was written. -/
theorem Rereads.eq_str {v : Json} {text : String} (h : Rereads v (.str text)) : v = .str text := by
  cases h with
  | real hnumber => rcases hnumber with ⟨n, h⟩ | ⟨x, h⟩ <;> cases h
  | str => rfl

/-- A text that is a field of what is read was one of the fields that were written. -/
theorem mem_of_rereads_obj {fields read : List (String × Json)} {name text : String}
    (h : Rereads (.obj fields) (.obj read)) (hmem : (name, .str text) ∈ read) :
    (name, .str text) ∈ fields := by
  cases h with
  | obj hfields =>
    rcases mem_of_mem_setFields hmem with hnone | hmem
    · cases hnone
    · obtain ⟨v, hv, hread⟩ := hfields.exists_of_mem hmem
      exact hread.eq_str ▸ hv

theorem areReadableFields_iff {fields : List (String × Json)} :
    areReadableFields fields ↔ ∀ f ∈ fields, f.2.isReadable := by
  induction fields with
  | nil => simp [areReadableFields]
  | cons f fields ih =>
    obtain ⟨name, v⟩ := f
    rw [areReadableFields, Bool.and_eq_true, ih, List.forall_mem_cons]

end AlertBridge.Json
