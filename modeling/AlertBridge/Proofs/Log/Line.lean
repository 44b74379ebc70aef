import AlertBridge.Log.Root
import AlertBridge.Proofs.Fault.Sequence
import AlertBridge.Proofs.Json.Double
import AlertBridge.Proofs.Log.Masking

/-!
# Log lines without secrets

The fields of a line are texts that the log sets, and those that the call brings along. The texts
are masked, the message of a call and the text of an exception among them, and so is a text that a
call brings along. An object that is brought along is shown by whatever stands for it, and that is
not masked: the line of such a call may have a secret, in the field of that name only.

A line is read again as what was written, for values that are written can be read.

## Main definitions

* `LogCall.own`: the fields that a call brings along
* `Withholds`: a line shows some fields without secrets

## Main results

* `LogCall.isText_or_mem_own`: where the fields of a line are from
* `withholds_of_logLine?`: the line of some fields withholds secrets
* `read?_logLine?_record`: the line of a record is read as its fields without secrets
-/

namespace AlertBridge

variable {secrets : List String}

theorem Mask.not_occurs_text (hsecrets : ∀ s ∈ secrets, '*' ∉ s.toList) {secret : String}
    (hmem : secret ∈ secrets) (hne : secret ≠ "") (shown : String) :
    ¬ Occurs secret (Mask.text secrets shown) := by
  refine not_occurs_each (fun s hs => ?_) (mem_ordered.2 ⟨hmem, hne⟩) shown
  obtain ⟨hs, hs_ne⟩ := mem_ordered.1 hs
  exact ⟨hs_ne, hsecrets s hs⟩

/-! ## Values -/

namespace LogValue

/-- The value is an object of the program. -/
def isObject : LogValue → Bool
  | value _ => false
  | _ => true

/-- The value is a text. -/
def IsText (v : LogValue) : Prop := ∃ text, v = .value (.str text)

/-- The doubles of what stands for the value have the form of one. -/
def IsProper (v : LogValue) : Prop := ∀ shown, v.document = .ok shown → shown.isProper

variable {v : LogValue} {shown : Json}

theorem document_of_isText (h : v.IsText) : ∃ text, v.document = .ok (.str text) := by
  obtain ⟨text, rfl⟩ := h
  exact ⟨text, rfl⟩

theorem succeeds_document_of_isText (h : v.IsText) : Succeeds v.document :=
  (document_of_isText h).elim fun text hdocument => ⟨.str text, hdocument⟩

theorem isProper_of_isText (h : v.IsText) : v.IsProper := by
  obtain ⟨text, htext⟩ := document_of_isText h
  intro shown hshown
  obtain rfl := Except.ok.inj (htext.symm.trans hshown)
  rfl

theorem document_of_not_isShortNumeral {n : Int} (h : isShortNumeral n = false) :
    (value (.int n)).document = .error .notANumeral := by
  have hwritable : (Json.int n).isWritable = false := by rw [Json.isWritable, h]
  exact if_neg (hwritable ▸ Bool.false_ne_true)

theorem isWritable_of_document (h : v.document = .ok shown) : shown.isWritable := by
  obtain ⟨w, -, h⟩ := bind_eq_ok_iff.1 h
  split at h
  · next hwritable =>
    obtain rfl := Except.ok.inj h
    exact hwritable
  · cases h

theorem withoutSecrets_eq_ok (h : v.withoutSecrets secrets = .ok shown) :
    ∃ w, v.document = .ok w ∧ shown = if v.isObject then w else Mask.value secrets w := by
  obtain ⟨w, hw, h⟩ := bind_eq_ok_iff.1 h
  refine ⟨w, hw, (Except.ok.inj h).symm.trans ?_⟩
  cases v <;> rfl

theorem succeeds_withoutSecrets_iff :
    Succeeds (v.withoutSecrets secrets) ↔ Succeeds v.document := by
  rw [withoutSecrets, succeeds_bind_iff]
  exact ⟨fun ⟨w, hw, _⟩ => ⟨w, hw⟩, fun ⟨w, hw⟩ => ⟨w, hw, _, rfl⟩⟩

/-- Masking leaves numbers as they are. -/
theorem isWritable_maskValue (w : Json) : (Mask.value secrets w).isWritable = w.isWritable := by
  cases w <;> rfl

theorem isProper_maskValue (w : Json) : (Mask.value secrets w).isProper = w.isProper := by
  cases w <;> rfl

/-- What is written of a value can be read, if its doubles have the form of one. -/
theorem isReadable_of_withoutSecrets (hproper : v.IsProper)
    (h : v.withoutSecrets secrets = .ok shown) : shown.isReadable := by
  obtain ⟨w, hw, rfl⟩ := withoutSecrets_eq_ok h
  have hwritable := isWritable_of_document hw
  have hproper := hproper w hw
  split
  · exact Json.isReadable_of_isProper w hwritable hproper
  · apply Json.isReadable_of_isProper
    · rwa [isWritable_maskValue]
    · rwa [isProper_maskValue]

/-- A text that is written of a value other than an object was masked. -/
theorem eq_text_of_withoutSecrets (hobject : v.isObject = false) {text : String}
    (h : v.withoutSecrets secrets = .ok (.str text)) :
    ∃ original, text = Mask.text secrets original := by
  obtain ⟨w, -, hw⟩ := withoutSecrets_eq_ok h
  rw [hobject, if_neg Bool.false_ne_true] at hw
  cases w with
  | str original => exact ⟨original, Json.str.inj hw⟩
  | _ => cases hw

end LogValue

/-! ## Fields -/

variable {fields : List (String × LogValue)} {written : List (String × Json)}

theorem succeeds_fieldsWithoutSecrets_iff :
    Succeeds (fieldsWithoutSecrets secrets fields) ↔ ∀ f ∈ fields, Succeeds f.2.document := by
  simp [fieldsWithoutSecrets, LogValue.succeeds_withoutSecrets_iff]

/-- What is written comes from a field of its name. -/
theorem exists_of_mem_fieldsWithoutSecrets (h : fieldsWithoutSecrets secrets fields = .ok written)
    {name : String} {shown : Json} (hmem : (name, shown) ∈ written) :
    ∃ v, (name, v) ∈ fields ∧ v.withoutSecrets secrets = .ok shown := by
  obtain ⟨⟨name', v⟩, hv, heq⟩ := exists_mem_of_forall₂ (mapM_eq_ok_iff.1 h) _ hmem
  obtain ⟨w, hw, heq⟩ := map_eq_ok_iff.1 heq
  obtain ⟨rfl, rfl⟩ := Prod.mk.inj heq
  exact ⟨v, hv, hw⟩

/-- What is written can be read, if its doubles have the form of one. -/
theorem areReadableFields_of_fieldsWithoutSecrets (hproper : ∀ f ∈ fields, f.2.IsProper)
    (h : fieldsWithoutSecrets secrets fields = .ok written) : Json.areReadableFields written := by
  rw [Json.areReadableFields_iff]
  rintro ⟨name, shown⟩ hmem
  obtain ⟨v, hv, hshown⟩ := exists_of_mem_fieldsWithoutSecrets h hmem
  exact LogValue.isReadable_of_withoutSecrets (hproper _ hv) hshown

/-! ## The fields of a call -/

namespace LogCall

/-- The fields that a call brings along. A message brings none, for it becomes a text. -/
def own : LogCall → List (String × LogValue)
  | standard .. => []
  | structured _ _ event _ own _ => ("event", event) :: own

theorem isText_of_mem_optionalField {name : String} {given : Option String}
    {f : String × Json} (h : f ∈ optionalField name given) : ∃ text, f.2 = .str text := by
  cases given with
  | none => cases h
  | some text => exact ⟨text, congrArg Prod.snd (List.mem_singleton.1 h)⟩

/-- The fields of a record are texts. -/
theorem isText_of_mem_fields {record : LogRecord} {stack : Option String} {f : String × Json}
    (h : f ∈ record.fields stack) : ∃ text, f.2 = .str text := by
  rcases List.mem_append.1 h with h | h
  · rcases List.mem_append.1 h with h | h
    · rcases List.mem_cons.1 h with rfl | h
      · exact ⟨_, rfl⟩
      · exact isText_of_mem_optionalField h
    · rcases List.mem_cons.1 h with rfl | h
      · exact ⟨_, rfl⟩
      · exact ⟨_, congrArg Prod.snd (List.mem_singleton.1 h)⟩
  · exact isText_of_mem_optionalField h

/-- The fields of an event are texts, the event and the fields that it brings along. -/
theorem isText_or_mem_of_mem_eventFields {level : Level} {logger : String} {event : LogValue}
    {own : List (String × LogValue)} {f : String × LogValue}
    (h : f ∈ eventFields level logger event own) :
    f.2.IsText ∨ f = ("event", event) ∨ f ∈ own := by
  rcases Json.eq_or_mem_of_mem_setField h with rfl | h
  · exact .inl ⟨_, rfl⟩
  rcases Json.eq_or_mem_of_mem_setField h with rfl | h
  · exact .inl ⟨_, rfl⟩
  right
  split at h
  · exact .inr (List.mem_of_mem_filter h)
  · exact (Json.eq_or_mem_of_mem_setField h).imp_right List.mem_of_mem_filter

/-- The exception adds a text. -/
theorem isText_or_mem_of_mem_withException {exception : Option String} {f : String × LogValue}
    (h : f ∈ withException fields exception) : f.2.IsText ∨ f ∈ fields := by
  cases exception with
  | none => exact .inr h
  | some text =>
    rcases Json.eq_or_mem_of_mem_setField h with rfl | h
    · exact .inl ⟨text, rfl⟩
    · exact .inr h

/-- What happened is the event or a text. -/
theorem isText_or_eq_of_filledEvent {event happened : LogValue} {arguments : List LogValue}
    (h : filledEvent event arguments = .ok happened) : happened.IsText ∨ happened = event := by
  unfold filledEvent at h
  split at h
  · exact .inr (Except.ok.inj h).symm
  · split at h
    · obtain ⟨text, -, rfl⟩ := map_eq_ok_iff.1 h
      exact .inl ⟨text, rfl⟩
    · cases h
    · cases h

/-- **The fields of a line** are texts that the log sets, and those that the call brings along. -/
theorem isText_or_mem_own {call : LogCall} {level : Level} (h : call.entry = .ok (level, fields)) :
    ∀ f ∈ fields, f.2.IsText ∨ f ∈ call.own := by
  cases call with
  | standard logger level' message arguments exception stack =>
    obtain ⟨text, -, h⟩ := bind_eq_ok_iff.1 h
    obtain ⟨shown, -, h⟩ := bind_eq_ok_iff.1 h
    obtain ⟨-, rfl⟩ := Prod.mk.inj (Except.ok.inj h)
    intro f hf
    obtain ⟨g, hg, rfl⟩ := List.mem_map.1 hf
    obtain ⟨text, htext⟩ := isText_of_mem_fields hg
    exact .inl ⟨text, congrArg LogValue.value htext⟩
  | structured logger level' event arguments own exception =>
    rw [entry] at h
    split at h
    · cases h
    split at h
    · cases h
    obtain ⟨happened, hhappened, h⟩ := map_eq_ok_iff.1 h
    obtain ⟨-, rfl⟩ := Prod.mk.inj h
    have hevent : ∀ f ∈ eventFields level' logger happened own,
        f.2.IsText ∨ f ∈ ("event", event) :: own := by
      intro f hf
      rcases isText_or_mem_of_mem_eventFields hf with htext | rfl | hmem
      · exact .inl htext
      · rcases isText_or_eq_of_filledEvent hhappened with htext | rfl
        · exact .inl htext
        · exact .inr List.mem_cons_self
      · exact .inr (List.mem_cons_of_mem _ hmem)
    intro f hf
    exact (isText_or_mem_of_mem_withException hf).elim .inl (hevent f)

end LogCall

/-! ## Lines -/

/-- A text is one line that shows some fields, but no secret in a text among them, unless the field
is an object that a call brought along. -/
structure Withholds (secrets : List String) (own fields : List (String × LogValue))
    (line : String) : Prop where
  /-- The text is one line. -/
  newline_not_mem : '\n' ∉ line.toList
  /-- What is read from it is an object of the fields without secrets. -/
  rereads : ∀ v, Json.read? line.toList = some v → ∃ written shown,
    fieldsWithoutSecrets secrets fields = .ok written ∧ v = .obj shown ∧
      Json.Rereads (.obj written) v
  /-- It is read if its doubles have the form of one. -/
  isRead : (∀ f ∈ own, f.2.IsProper) → ∃ shown, Json.read? line.toList = some (.obj shown)
  /-- No secret is in a text that is a field of the object. -/
  not_occurs : ∀ shown name text, Json.read? line.toList = some (.obj shown) →
    (name, .str text) ∈ shown →
    (∀ v, (name, v) ∈ own → (name, v) ∈ fields → v.isObject = false) →
    ∀ secret ∈ secrets, secret ≠ "" → ¬ Occurs secret text

/-- The line of readable fields is read. -/
theorem exists_read?_of_areReadable (h : Json.areReadableFields written) :
    ∃ shown, Json.read? ((Json.obj written).written Json.spaced).toList = some (.obj shown) := by
  have hreadable : (Json.obj written).isReadable := by
    rw [Json.isReadable]
    exact h
  obtain ⟨w, hread, hw⟩ := Json.exists_read?_written hreadable
  cases hw with
  | obj hfields => exact ⟨_, hread⟩

/-- **The line of a call withholds secrets.** -/
theorem withholds_of_logLine? (hsecrets : ∀ s ∈ secrets, '*' ∉ s.toList)
    {own : List (String × LogValue)} (hown : ∀ f ∈ fields, f.2.IsText ∨ f ∈ own) {line : String}
    (h : logLine? secrets fields = .ok line) : Withholds secrets own fields line := by
  obtain ⟨written, hwritten, rfl⟩ := map_eq_ok_iff.1 h
  constructor
  · intro hmem
    have hle : 32 ≤ '\n'.toNat := Json.le_toNat_of_mem_lineOf _ _ hmem
    revert hle
    decide
  · intro v hread
    have hrereads := Json.rereads_of_read? hread
    cases hrereads with
    | obj hfields => exact ⟨written, _, hwritten, rfl, .obj hfields⟩
  · intro hproper
    refine exists_read?_of_areReadable (areReadableFields_of_fieldsWithoutSecrets ?_ hwritten)
    intro f hf
    exact (hown f hf).elim LogValue.isProper_of_isText (hproper f)
  · intro shown name text hread hmem hobject secret hsecret hne
    have hmem := Json.mem_of_rereads_obj (Json.rereads_of_read? hread) hmem
    obtain ⟨v, hv, hshown⟩ := exists_of_mem_fieldsWithoutSecrets hwritten hmem
    have hvalue : v.isObject = false := by
      rcases hown _ hv with ⟨text, rfl⟩ | hmem
      · rfl
      · exact hobject v hmem hv
    obtain ⟨original, rfl⟩ := LogValue.eq_text_of_withoutSecrets hvalue hshown
    exact Mask.not_occurs_text hsecrets hsecret hne original

/-! ## Lines of values -/

theorem withoutSecrets_value {v : Json} (h : v.isWritable) :
    (LogValue.value v).withoutSecrets secrets = .ok (Mask.value secrets v) := by
  have hdocument : (LogValue.value v).document = .ok v := if_pos h
  rw [LogValue.withoutSecrets, bind_of_ok hdocument]
  rfl

/-- Fields with values of documents are written without secrets. -/
theorem logLine?_value {fields : List (String × Json)} (h : Json.areWritableFields fields) :
    logLine? secrets (fields.map fun (name, v) => (name, .value v)) =
      .ok (logLine secrets fields) := by
  have hfields : fieldsWithoutSecrets secrets (fields.map fun (name, v) => (name, .value v)) =
      .ok (Mask.fields secrets fields) := by
    rw [fieldsWithoutSecrets, List.mapM_map]
    refine mapM_eq_ok_map fun f hf => ?_
    have hwritable := Json.areWritableFields_iff.1 h f hf
    exact congrArg (Except.map _) (withoutSecrets_value hwritable)
  rw [logLine?, hfields]
  rfl

/-- **The line of a record** is read as its fields without secrets. -/
theorem read?_logLine?_record (secrets : List String) (record : LogRecord) :
    ∃ line, logLine? secrets (record.fields.map fun (name, v) => (name, .value v)) = .ok line ∧
      Json.read? line.toList = some (.obj (Mask.fields secrets record.fields)) := by
  obtain ⟨level, logger, event, exception⟩ := record
  cases exception <;> exact ⟨_, logLine?_value rfl, Json.read?_written rfl rfl⟩

end AlertBridge
