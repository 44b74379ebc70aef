import AlertBridge.Proofs.Slack.Mentions
import AlertBridge.Slack.Unit

/-!
# What alerts of the proper form say

The titles, descriptions, fields and mentions of an alert of the proper form, as texts, and the
heading that such an alert gives to a group. `HeadingOf` lists all that a heading holds; an alert
gives one exactly if it has a title or a description of its own.

## Main definitions

* `ownTitle`, `ownDescription`, `mentionsOf`: the texts of an alert
* `HasContent`: the alert has a title or a description
* `HeadingOf`: the heading that an alert gives

## Main results

* `exists_heading?`, `heading?_of_not_hasContent`: when there is a heading
-/

namespace AlertBridge.Slack

open Alert (annotationText labelText status? IsProper)

/-! ## Texts of an alert -/

/-- The annotation of a name. For a resolved alert the one of the other name takes its place, even
if it is empty. -/
def ownText (name resolvedName : String) (resolved : Bool) (alert : Json) : String :=
  (if resolved then (Alert.annotation? alert resolvedName).or (Alert.annotation? alert name)
    else Alert.annotation? alert name).getD ""

/-- The title of an alert, an empty text if there is none. -/
def ownTitle (resolved : Bool) (alert : Json) : String :=
  ownText "summary" "resolved_summary" resolved alert

/-- The description of an alert, an empty text if there is none. -/
def ownDescription (resolved : Bool) (alert : Json) : String :=
  ownText "description" "resolved_description" resolved alert

/-- The mentions for which the labels of an alert ask, each once. -/
def mentionsOf (alert : Json) : List String := Mention.ofList (labelText alert "slack_mentions")

/-- The alert is resolved. -/
def IsResolved (alert : Json) : Bool := status? alert = some "resolved"

/-- The alert has a title or a description for its status. -/
def HasContent (alert : Json) : Prop :=
  ownTitle (IsResolved alert) alert ≠ "" ∨ ownDescription (IsResolved alert) alert ≠ ""

instance : DecidablePred HasContent := fun _ => inferInstanceAs (Decidable (_ ∨ _))

/-- The alert names a field and its value. -/
def HasField (alert : Json) : Prop :=
  annotationText alert "field_name" ≠ "" ∧ annotationText alert "field_value" ≠ ""

instance : DecidablePred HasField := fun _ => inferInstanceAs (Decidable (_ ∧ _))

/-- What an alert says for all alerts of its group: an emoji, an address to which titles link unless
the alerts are resolved, and a footer. -/
structure HeadingOf (first : Json) (h : Heading) : Prop where
  alert : h.alert = first
  status : h.status = .ofOption (status? first)
  resolved : h.resolved = IsResolved first
  emoji : h.emoji =
    if annotationText first "emoji" = "" then "" else annotationText first "emoji" ++ " "
  url : h.url = .str (if IsResolved first then "" else annotationText first "url")
  footer : contextBlock? (.str (annotationText first "footer_text"))
    (.str (annotationText first "footer_icon_url")) = .ok h.footer

/-! ## Asking an alert -/

theorem isResolved_ofOption (text : Option String) :
    isResolved (.ofOption text) = decide (text = some "resolved") := by
  cases text with
  | none => rfl
  | some s =>
    by_cases hs : s = "resolved"
    · subst hs
      rfl
    · unfold isResolved
      split
      · next heq => exact absurd (Json.str.inj heq) hs
      · simp [hs]

theorem contextBlock?_of_denotes {v w : Json} {s t : String} (hv : v.Denotes s)
    (hw : w.Denotes t) : contextBlock? v w = contextBlock? (.str s) (.str t) := by
  cases hv <;> cases hw <;> rfl

/-- A text is followed by a space if there is one. -/
theorem spaced_of_denotes {v : Json} {s : String} (h : v.Denotes s) :
    (if v.truthy then v.shown ++ " " else "") = if s = "" then "" else s ++ " " := by
  by_cases hs : s = ""
  · rw [if_neg (by simp [h.truthy, hs]), if_pos hs]
  · rw [if_pos (h.truthy_iff.2 hs), if_neg hs, h.eq_str hs]
    rfl

/-- A footer of texts is always written. -/
theorem exists_contextBlock? (s t : String) :
    ∃ footer, contextBlock? (.str s) (.str t) = .ok footer := by
  unfold contextBlock?
  split
  · exact ⟨none, rfl⟩
  · by_cases hs : (Json.str s).truthy
    · rw [if_pos hs, (Json.Denotes.text s).ofValue?]
      exact ⟨_, rfl⟩
    · rw [if_neg hs]
      exact ⟨_, rfl⟩

/-- A title that is a text is always written, with a link or without. -/
theorem exists_linkedTitle? (title : String) (url : Json) (resolved : Bool) :
    ∃ written, linkedTitle? (.str title) url resolved = .ok written := by
  unfold linkedTitle?
  rw [bind_of_ok (Json.Denotes.text title).ofValue?]
  split
  · exact ⟨_, rfl⟩
  · exact ⟨_, rfl⟩

section

variable {alert : Json} (h : IsProper alert)

include h

theorem exists_annotation? (name resolvedName : String) (resolved : Bool) :
    ∃ v, Slack.annotation? name resolvedName resolved alert = .ok v ∧
      v.Denotes (ownText name resolvedName resolved alert) := by
  unfold Slack.annotation? ownText
  rw [h.orElse_eq, bind_of_ok (h.get _)]
  by_cases hpresent : (alert.part "annotations").truthy
  · rw [if_neg (by simp [hpresent]), h.get_annotations hpresent name]
    cases resolved with
    | false => exact ⟨_, rfl, Json.denotes_ofOption _⟩
    | true =>
      rw [if_pos rfl, if_pos rfl, bind_of_ok (h.get_annotations hpresent resolvedName)]
      cases Alert.annotation? alert resolvedName with
      | none => exact ⟨_, rfl, Json.denotes_ofOption _⟩
      | some own => exact ⟨_, rfl, .text own⟩
  · rw [if_pos (by simp [hpresent])]
    refine ⟨_, rfl, ?_⟩
    have hnone := h.annotation?_eq_none hpresent
    cases resolved <;> simp [hnone, Json.Denotes.text]

theorem exists_title? (resolved : Bool) :
    ∃ v, title? resolved alert = .ok v ∧ v.Denotes (ownTitle resolved alert) :=
  exists_annotation? h _ _ resolved

theorem exists_description? (resolved : Bool) :
    ∃ v, description? resolved alert = .ok v ∧ v.Denotes (ownDescription resolved alert) :=
  exists_annotation? h _ _ resolved

theorem alertMentions?_eq_ok : alertMentions? alert = .ok (mentionsOf alert) := by
  rw [alertMentions?, bind_of_ok h.labels_eq_ok]
  refine Mention.ofLabels?_eq_ok ?_ (Json.denotes_ofOption (Alert.label? alert "slack_mentions"))
  rw [Json.orElse_orElse]
  exact h.labels.get "slack_mentions"

theorem alertField?_eq_ok : alertField? alert =
    .ok (.ofOption (Alert.annotation? alert "field_name"),
      .ofOption (Alert.annotation? alert "field_value")) := by
  unfold alertField?
  rw [bind_of_ok h.annotations_eq_ok, bind_of_ok (h.annotations.get _),
    bind_of_ok h.annotations_eq_ok, bind_of_ok (h.annotations.get _)]
  rfl

/-- Without annotations there is no content. -/
theorem present_of_hasContent (hcontent : HasContent alert) :
    (alert.part "annotations").truthy := by
  by_contra habsent
  have hnone := h.annotation?_eq_none habsent
  rcases hcontent with hcontent | hcontent
  · exact hcontent (by simp [ownTitle, ownText, hnone])
  · exact hcontent (by simp [ownDescription, ownText, hnone])

theorem hasField?_eq_ok (hpresent : (alert.part "annotations").truthy) :
    hasField? alert = .ok (decide (HasField alert)) := by
  have hget := h.get_annotations hpresent
  unfold hasField?
  rw [bind_of_ok (h.get _), bind_of_ok (hget _), bind_of_ok (hget _),
    (Json.denotes_ofOption _).truthy, (Json.denotes_ofOption _).truthy]
  exact congrArg Except.ok (Bool.decide_and _ _).symm

/-- An alert with content of its own gives a heading. -/
theorem exists_heading? (hcontent : HasContent alert) :
    ∃ heading, heading? alert = .ok (some heading) ∧ HeadingOf alert heading := by
  have hpresent := present_of_hasContent h hcontent
  have hget := h.get_annotations hpresent
  obtain ⟨title, htitle, htext⟩ := exists_title? h (IsResolved alert)
  obtain ⟨description, hdescription, htext'⟩ := exists_description? h (IsResolved alert)
  obtain ⟨footer, hfooter⟩ := exists_contextBlock? (annotationText alert "footer_text")
    (annotationText alert "footer_icon_url")
  have hfooter' := contextBlock?_of_denotes
    (Json.denotes_ofOption (Alert.annotation? alert "footer_text"))
    (Json.denotes_ofOption (Alert.annotation? alert "footer_icon_url"))
  have hemoji := Json.denotes_ofOption (Alert.annotation? alert "emoji")
  have hurl := Json.denotes_ofOption (Alert.annotation? alert "url")
  let heading : Heading := {
    alert, status := .ofOption (status? alert), resolved := IsResolved alert
    emoji := if annotationText alert "emoji" = "" then "" else annotationText alert "emoji" ++ " "
    url := .str (if IsResolved alert then "" else annotationText alert "url"), footer }
  refine ⟨heading, ?_, rfl, rfl, rfl, rfl, rfl, hfooter⟩
  have hlink : (if IsResolved alert then Json.str "" else
      (Json.ofOption (Alert.annotation? alert "url")).orElse (.str "")) = heading.url := by
    rw [hurl.orElse]
    cases hresolved : IsResolved alert <;> simp [heading, hresolved, annotationText]
  unfold heading?
  rw [bind_of_ok (h.get _), if_neg (by simp [hpresent]), bind_of_ok h.get_status,
    isResolved_ofOption, show decide (status? alert = some "resolved") = IsResolved alert from rfl]
  dsimp only
  rw [bind_of_ok htitle, bind_of_ok hdescription, bind_of_ok (hget _), bind_of_ok (hget _),
    bind_of_ok (hget _), bind_of_ok (hget _), bind_of_ok (hfooter'.trans hfooter),
    spaced_of_denotes hemoji, hlink]
  rcases hcontent with hcontent | hcontent
  · rw [if_neg (by simp [htext.truthy, hcontent])]
    rfl
  · have hshown : ¬ (!description.truthy) = true := by simp [htext'.truthy, hcontent]
    rw [if_neg hshown]
    split <;> rfl

/-- An alert without content of its own gives no heading. -/
theorem heading?_of_not_hasContent (hcontent : ¬ HasContent alert) :
    heading? alert = .ok none := by
  obtain ⟨title, htitle, htext⟩ := exists_title? h (IsResolved alert)
  obtain ⟨description, hdescription, htext'⟩ := exists_description? h (IsResolved alert)
  obtain ⟨hnotitle, hnodescription⟩ := not_or.1 hcontent
  unfold heading?
  rw [bind_of_ok (h.get _)]
  split
  · rfl
  · rw [bind_of_ok h.get_status, isResolved_ofOption,
      show decide (status? alert = some "resolved") = IsResolved alert from rfl]
    dsimp only
    rw [bind_of_ok htitle, if_pos (by simp [htext.truthy, hnotitle]), bind_of_ok hdescription,
      if_pos (by simp [htext'.truthy, hnodescription])]
    rfl

end

end AlertBridge.Slack
