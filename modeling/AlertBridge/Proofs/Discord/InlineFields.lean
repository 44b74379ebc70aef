import AlertBridge.Discord.Field
import AlertBridge.Proofs.Fault.Sequence
import AlertBridge.Proofs.Text.Trim

/-!
# Inline fields, all or none

The items of the first list in the Markdown of an alert become its inline fields, one for each item.
They do so together: if there are none or too many of them, or one of them is too long, there are no
fields, and that is no fault of the alert. The lengths are those of the items as they are written.
A field holds its item without the blanks around it, which is not longer.

## Main definitions

* `AreFields`: the texts that keep to the limits
* `ListsFields`: the fields that an alert lists

## Main results

* `listsFields_of_value_fields?`: fields come from a list that keeps to the limits
* `value_fields?_of_refused`: a list that does not leaves no fields
-/

namespace AlertBridge.Discord

/-- The texts keep to the limits of fields: there is one, there are no more than `limit`, and none is
too long. -/
structure AreFields (limit : Int) (texts : List String) : Prop where
  one_le_length : 1 ≤ texts.length
  length_le : (texts.length : Int) ≤ limit
  text_length_le : ∀ text ∈ texts, text.length ≤ maxFieldLength

/-- An alert lists fields: one for each item of the first list in its Markdown, which keeps to the
limits. No field is too long. -/
inductive ListsFields (lexer : Lexer) (limit : Int) (alert : Json) : List Json → Prop where
  | intro {markdown : Json} {tokens : List Token} {list : Token}
      (hlisted : listedFields alert = .ok markdown)
      (htokens : (lexer markdown).value = .ok tokens)
      (hfirst : tokens.find? (fun t => t.kind = .list) = some list)
      (hfields : AreFields limit (list.children.map Token.markdownSource))
      (hshort : ∀ item ∈ list.children, (trim item.markdownSource).length ≤ maxFieldLength) :
      ListsFields lexer limit alert (list.children.map fun item => field item.markdownSource)

variable {lexer : Lexer} {limit : Int} {alert markdown name : Json} {texts : List String}
  {tokens : List Token} {fields : List Json}

/-! ## The check -/

theorem checkFieldLengths_cons (text : String) (rest : List Json) :
    checkFieldLengths (.str text :: rest) =
      if maxFieldLength < text.length then .error .fieldTooLong else checkFieldLengths rest := by
  rw [checkFieldLengths, Json.size]
  by_cases htext : maxFieldLength < text.length
  · simp only [bind, Except.bind, if_pos htext]
    rfl
  · simp only [bind, Except.bind, if_neg htext]

theorem checkFieldLengths_map_str (texts : List String) :
    checkFieldLengths (texts.map Json.str) =
      if ∀ text ∈ texts, text.length ≤ maxFieldLength then .ok () else .error .fieldTooLong := by
  induction texts with
  | nil => rfl
  | cons text rest ih =>
    rw [List.map_cons, checkFieldLengths_cons, ih]
    by_cases htext : maxFieldLength < text.length
    · have hlong : ¬ ∀ t ∈ text :: rest, t.length ≤ maxFieldLength := fun h =>
        absurd (h text List.mem_cons_self) (Nat.not_le.2 htext)
      rw [if_pos htext, if_neg hlong]
    · rw [if_neg htext]
      simp only [List.forall_mem_cons, Nat.not_lt.1 htext, true_and]

theorem checkFields_cons (item : Json) (rest : List Json) (limit : Int) :
    checkFields (.arr (item :: rest)) limit =
      if limit < (item :: rest).length then .error .tooManyFields
      else checkFieldLengths (item :: rest) := by
  rw [checkFields, Json.truthy, Json.size, Json.items]
  by_cases hmany : limit < (item :: rest).length
  · simp only [bind, Except.bind, List.isEmpty_cons, Bool.not_false, Bool.not_true,
      Bool.false_eq_true, if_false, if_pos hmany]
    rfl
  · simp only [bind, Except.bind, List.isEmpty_cons, Bool.not_false, Bool.not_true,
      Bool.false_eq_true, if_false, if_neg hmany]

/-- The check asks for each limit in turn. -/
theorem checkFields_ofTexts (texts : List String) (limit : Int) :
    checkFields (Json.ofTexts texts) limit =
      if texts = [] then .error .noFields
      else if limit < texts.length then .error .tooManyFields
      else if ∀ text ∈ texts, text.length ≤ maxFieldLength then .ok ()
      else .error .fieldTooLong := by
  cases texts with
  | nil => rfl
  | cons text rest =>
    rw [if_neg (List.cons_ne_nil _ _), ← checkFieldLengths_map_str, Json.ofTexts, List.map_cons,
      checkFields_cons, List.length_cons, List.length_map, List.length_cons]

theorem AreFields.ne_nil (h : AreFields limit texts) : texts ≠ [] :=
  List.ne_nil_of_length_pos h.one_le_length

/-- Texts that do not keep to the limits are refused with a fault about their values. -/
theorem checkedTexts_of_not_areFields (h : ¬ AreFields limit texts) :
    ∃ fault, checkedTexts limit texts = .error fault ∧ fault.isInvalidValue := by
  rw [checkedTexts, checkFields_ofTexts]
  by_cases hnone : texts = []
  · exact ⟨.noFields, by rw [if_pos hnone]; rfl, rfl⟩
  by_cases hmany : limit < texts.length
  · exact ⟨.tooManyFields, by rw [if_neg hnone, if_pos hmany]; rfl, rfl⟩
  have hlong : ¬ ∀ text ∈ texts, text.length ≤ maxFieldLength := fun hshort =>
    h ⟨List.length_pos_of_ne_nil hnone, Int.not_lt.1 hmany, hshort⟩
  exact ⟨.fieldTooLong, by rw [if_neg hnone, if_neg hmany, if_neg hlong]; rfl, rfl⟩

/-- Texts pass the check if they keep to the limits, and stay as they are. -/
theorem checkedTexts_eq_ok_iff {texts' : List String} :
    checkedTexts limit texts = .ok texts' ↔ AreFields limit texts ∧ texts = texts' := by
  constructor
  · intro h
    have hfields : AreFields limit texts := by
      by_contra hrefused
      obtain ⟨fault, hfault, -⟩ := checkedTexts_of_not_areFields hrefused
      rw [hfault] at h
      cases h
    obtain ⟨-, -, htexts⟩ := bind_eq_ok_iff.1 h
    exact ⟨hfields, Except.ok.inj htexts⟩
  · rintro ⟨hfields, rfl⟩
    rw [checkedTexts, checkFields_ofTexts, if_neg hfields.ne_nil,
      if_neg (Int.not_lt.2 hfields.length_le), if_pos hfields.text_length_le]
    rfl

/-! ## The fields of an alert -/

/-- Texts are those of the first list. -/
theorem exists_list_of_listTexts (h : listTexts tokens ≠ []) :
    ∃ list, tokens.find? (fun t => t.kind = .list) = some list ∧
      listTexts tokens = list.children.map Token.markdownSource := by
  cases hlist : tokens.find? fun t => t.kind = .list with
  | none =>
    rw [listTexts, hlist] at h
    exact absurd rfl h
  | some list => exact ⟨list, rfl, by rw [listTexts, hlist]⟩

theorem value_fieldTexts? : (fieldTexts? lexer limit markdown).value =
    (lexer markdown).value.bind fun tokens => checkedTexts limit (listTexts tokens) := rfl

theorem value_fields? (hlisted : listedFields alert = .ok markdown) (htruthy : markdown.truthy) :
    (fields? lexer limit alert).value = match (fieldTexts? lexer limit markdown).value with
      | .ok texts => .ok (texts.map field)
      | .error fault => (recoverFields alert fault).value := by
  rw [fields?, hlisted]
  dsimp only
  rw [if_pos htruthy, Logged.value_bind]
  cases (fieldTexts? lexer limit markdown).value <;> rfl

/-- After a fault there are no fields. -/
theorem eq_nil_of_recoverFields {fault : Fault}
    (h : (recoverFields alert fault).value = .ok fields) : fields = [] := by
  rw [recoverFields] at h
  split at h
  · split at h
    · exact (Except.ok.inj h).symm
    · cases h
  · cases h

/-- Fields are the items of the first list in the alert's Markdown. -/
theorem listsFields_of_value_fields? (h : (fields? lexer limit alert).value = .ok fields)
    (hsome : fields ≠ []) : ListsFields lexer limit alert fields := by
  cases hlisted : listedFields alert with
  | error fault =>
    rw [fields?, hlisted] at h
    cases h
  | ok markdown =>
    by_cases htruthy : markdown.truthy
    · rw [value_fields? hlisted htruthy] at h
      split at h
      · next texts htexts =>
        obtain ⟨tokens, htokens, hchecked⟩ := bind_eq_ok_iff.1 (value_fieldTexts?.symm.trans htexts)
        obtain ⟨hfields, rfl⟩ := checkedTexts_eq_ok_iff.1 hchecked
        obtain ⟨list, hfirst, htexts⟩ := exists_list_of_listTexts hfields.ne_nil
        rw [htexts] at h hfields
        obtain rfl := Except.ok.inj h
        rw [List.map_map]
        refine .intro hlisted htokens hfirst hfields fun item hitem => ?_
        exact (length_trim_le _).trans (hfields.text_length_le _ (List.mem_map_of_mem hitem))
      · exact absurd (eq_nil_of_recoverFields h) hsome
    · rw [fields?, hlisted] at h
      dsimp only at h
      rw [if_neg htruthy] at h
      exact absurd (Except.ok.inj h).symm hsome

/-- A list that does not keep to the limits leaves no fields, if the record about it can be
written. -/
theorem value_fields?_of_refused (hlisted : listedFields alert = .ok markdown)
    (htruthy : markdown.truthy) (htokens : (lexer markdown).value = .ok tokens)
    (hrefused : ¬ AreFields limit (listTexts tokens)) (hname : alertName alert = .ok name) :
    (fields? lexer limit alert).value = .ok [] := by
  obtain ⟨fault, hfault, hinvalid⟩ := checkedTexts_of_not_areFields hrefused
  have htexts : (fieldTexts? lexer limit markdown).value = .error fault := by
    rw [value_fieldTexts?, htokens]
    exact hfault
  rw [value_fields? hlisted htruthy, htexts]
  dsimp only
  rw [recoverFields, if_pos hinvalid, hname]
  rfl

end AlertBridge.Discord
