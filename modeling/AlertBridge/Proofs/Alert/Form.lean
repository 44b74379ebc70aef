import AlertBridge.Alert.Basic
import AlertBridge.Proofs.Fault.Sequence
import AlertBridge.Slack.Mrkdwn

/-!
# Alerts of the proper form

An alert has the proper form if it is an object whose status is a text or nothing, and whose labels
and annotations are objects with texts, as far as there are any. Such an alert can be asked for
its texts without a fault, so what is to be said of it can be said in texts: `status?`,
`annotation?` and `label?`.

A text that is absent and one that is empty often come to the same. `Denotes` relates a value to the
text that it then stands for.

## Main definitions

* `Alert.IsProper`: alerts of the proper form
* `Json.Denotes`: the text for which a value stands

## Main results

* `Json.IsTextObject.get`: the texts of an object are found where they are looked for
-/

namespace AlertBridge

namespace Json

/-! ## Texts as values -/

/-- A text, or null. -/
def IsText (v : Json) : Prop := ∃ text, v = .ofOption text

/-- Null, or an object whose values are texts or null. -/
def IsTextObject (v : Json) : Prop :=
  v = .null ∨ ∃ fields, v = .obj fields ∧ ∀ f ∈ fields, f.2.IsText

/-- The text that a value is. -/
def asText? : Json → Option String
  | .str s => some s
  | _ => none

@[simp] theorem asText?_ofOption (text : Option String) : (Json.ofOption text).asText? = text := by
  cases text <;> rfl

/-- The part of an object under a name, null if there is none. -/
def part (v : Json) (name : String) : Json :=
  match v with
  | .obj fields => (fieldOf? fields name).getD .null
  | _ => .null

theorem get_obj_eq (fields : List (String × Json)) (name : String) :
    (Json.obj fields).get name = .ok ((Json.obj fields).part name) := rfl

theorem orElse_orElse (v w : Json) : (v.orElse w).orElse w = v.orElse w := by
  by_cases hv : v.truthy
  · simp [orElse, hv]
  · simp [orElse, hv]

theorem mem_of_fieldOf? {fields : List (String × Json)} {name : String} {v : Json}
    (h : fieldOf? fields name = some v) : (name, v) ∈ fields := by
  induction fields with
  | nil => cases h
  | cons f fields ih =>
    obtain ⟨k, w⟩ := f
    rw [fieldOf?, List.lookup_cons] at h
    split at h
    · next hname =>
      obtain rfl := Option.some.inj h
      obtain rfl : name = k := by simpa using hname
      exact List.mem_cons_self
    · exact List.mem_cons_of_mem _ (ih h)

/-- A value that is an object if it counts as present is asked for one of its parts. -/
theorem get_orElse_of_truthy {v : Json} (h : v.truthy → ∃ fields, v = .obj fields) (name : String) :
    (v.orElse (.obj [])).get name = .ok (v.part name) := by
  by_cases hv : v.truthy
  · obtain ⟨fields, rfl⟩ := h hv
    rw [orElse, if_pos hv]
    rfl
  · rw [orElse, if_neg hv]
    cases v with
    | obj fields =>
      obtain rfl : fields = [] := by simpa [truthy] using hv
      rfl
    | _ => rfl

/-- An object with texts is asked for one of them. -/
theorem IsTextObject.get {v : Json} (h : v.IsTextObject) (name : String) :
    (v.orElse (.obj [])).get name = .ok (.ofOption (v.part name).asText?) := by
  have hpart : v.part name = .ofOption (v.part name).asText? := by
    obtain rfl | ⟨fields, rfl, hfields⟩ := h
    · rfl
    cases hfield : fieldOf? fields name with
    | none => simp [part, hfield, asText?, ofOption]
    | some w =>
      obtain ⟨text, hw⟩ := hfields _ (mem_of_fieldOf? hfield)
      obtain rfl : w = .ofOption text := hw
      simp [part, hfield]
  rw [← hpart]
  refine get_orElse_of_truthy (fun hv => ?_) name
  obtain rfl | ⟨fields, rfl, -⟩ := h
  · cases hv
  · exact ⟨fields, rfl⟩

/-- The text for which a value stands, where nothing stands for the empty text. -/
inductive Denotes : Json → String → Prop where
  | null : Denotes .null ""
  | text (s : String) : Denotes (.str s) s

theorem denotes_ofOption (text : Option String) : Denotes (.ofOption text) (text.getD "") := by
  cases text with
  | none => exact .null
  | some s => exact .text s

namespace Denotes

variable {v : Json} {s : String}

theorem truthy (h : Denotes v s) : v.truthy = decide (s ≠ "") := by
  cases h <;> simp [Json.truthy]

theorem truthy_iff (h : Denotes v s) : v.truthy ↔ s ≠ "" := by
  rw [h.truthy, decide_eq_true_iff]

theorem orElse (h : Denotes v s) : v.orElse (.str "") = .str s := by
  cases h with
  | null => rfl
  | text s =>
    by_cases hs : s = ""
    · subst hs
      rfl
    · simp [Json.orElse, Json.truthy, hs]

theorem eq_str (h : Denotes v s) (hs : s ≠ "") : v = .str s := by
  cases h with
  | null => exact absurd rfl hs
  | text s => rfl

/-- A value that stands for a text is written in Slack's markup as the text is. -/
theorem ofValue? (h : Denotes v s) : Mrkdwn.ofValue? v = .ok (Mrkdwn.ofMarkdown s) := by
  have hempty : Mrkdwn.ofMarkdown "" = "" := by
    simp [Mrkdwn.ofMarkdown, Mrkdwn.markBold, Mrkdwn.markLinks]
  by_cases hs : s = ""
  · subst hs
    rw [Mrkdwn.ofValue?, if_neg (by simp [h.truthy]), hempty]
  · rw [Mrkdwn.ofValue?, if_pos (h.truthy_iff.2 hs), h.eq_str hs]
    rfl

end Denotes

end Json

/-! ## Alerts -/

namespace Alert

/-- The status of an alert. -/
def status? (alert : Json) : Option String := (alert.part "status").asText?

/-- The annotation of an alert under a name. -/
def annotation? (alert : Json) (name : String) : Option String :=
  ((alert.part "annotations").part name).asText?

/-- The label of an alert under a name. -/
def label? (alert : Json) (name : String) : Option String :=
  ((alert.part "labels").part name).asText?

/-- The annotation of an alert under a name, an empty text if there is none. -/
def annotationText (alert : Json) (name : String) : String := (annotation? alert name).getD ""

/-- The label of an alert under a name, an empty text if there is none. -/
def labelText (alert : Json) (name : String) : String := (label? alert name).getD ""

/-- An alert of the proper form. What is absent counts as null. -/
structure IsProper (alert : Json) : Prop where
  isObject : ∃ fields, alert = .obj fields
  status : (alert.part "status").IsText
  annotations : (alert.part "annotations").IsTextObject
  labels : (alert.part "labels").IsTextObject

namespace IsProper

variable {alert : Json} (h : IsProper alert)

include h

theorem get (name : String) : alert.get name = .ok (alert.part name) := by
  obtain ⟨fields, rfl⟩ := h.isObject
  rfl

/-- An object stands for itself, even if it is empty. -/
theorem orElse_eq : alert.orElse (.obj []) = alert := by
  obtain ⟨fields, rfl⟩ := h.isObject
  cases fields <;> rfl

theorem get_status : alert.get "status" = .ok (.ofOption (status? alert)) := by
  obtain ⟨text, htext⟩ := h.status
  rw [h.get, status?, htext, Json.asText?_ofOption]

/-- Annotations that count as present are an object that has them. -/
theorem get_annotations (hpresent : (alert.part "annotations").truthy) (name : String) :
    (alert.part "annotations").get name = .ok (.ofOption (annotation? alert name)) := by
  have hget := h.annotations.get name
  rwa [Json.orElse, if_pos hpresent] at hget

/-- Without annotations that count as present there is no annotation of any name. -/
theorem annotation?_eq_none (habsent : ¬ (alert.part "annotations").truthy) (name : String) :
    annotation? alert name = none := by
  have hget := h.annotations.get name
  rw [Json.orElse, if_neg habsent] at hget
  rw [annotation?, ← Json.asText?_ofOption ((alert.part "annotations").part name).asText?,
    ← Except.ok.inj hget]
  rfl

theorem annotations_eq_ok :
    Alert.annotations alert = .ok ((alert.part "annotations").orElse (.obj [])) :=
  bind_of_ok (h.get _)

theorem labels_eq_ok : Alert.labels alert = .ok ((alert.part "labels").orElse (.obj [])) :=
  bind_of_ok (h.get _)

end IsProper

/-- An object with texts. -/
def objectOfTexts (texts : List (String × String)) : Json :=
  .obj (texts.map fun (name, text) => (name, .str text))

/-- An alert with a status, annotations and labels. -/
def ofTexts (status : Option String) (annotations labels : List (String × String)) : Json :=
  .obj [("status", .ofOption status), ("annotations", objectOfTexts annotations),
    ("labels", objectOfTexts labels)]

theorem isTextObject_objectOfTexts (texts : List (String × String)) :
    (objectOfTexts texts).IsTextObject := by
  refine .inr ⟨_, rfl, fun f hf => ?_⟩
  obtain ⟨⟨name, text⟩, -, rfl⟩ := List.mem_map.1 hf
  exact ⟨some text, rfl⟩

theorem isProper_ofTexts (status : Option String) (annotations labels : List (String × String)) :
    IsProper (ofTexts status annotations labels) where
  isObject := ⟨_, rfl⟩
  status := ⟨status, rfl⟩
  annotations := isTextObject_objectOfTexts annotations
  labels := isTextObject_objectOfTexts labels

end Alert

end AlertBridge
