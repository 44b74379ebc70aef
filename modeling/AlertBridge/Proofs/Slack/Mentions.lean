import AlertBridge.Proofs.Alert.Form
import AlertBridge.Proofs.Fault.Sequence
import AlertBridge.Proofs.FirstOccurrence
import AlertBridge.Proofs.Text.Parts
import AlertBridge.Proofs.Text.Trim
import AlertBridge.Slack.Mention
import Mathlib.Data.List.Nodup

/-!
# The mentions of a list

Labels list mentions in one text, separated by commas. Each part of the text that is not blank has a
form in which Slack reads it, and the mentions are these forms in the order of their first
appearance. A form is read as itself where the parts have closing brackets only at their ends, so
that the mentions, written as a list again, are read as the same mentions.

## Main definitions

* `IsWrapped`: a text in angle brackets
* `IsFormOf`: the form of a part

## Main results

* `canonical?_eq_some_iff`, `canonical?_eq_none_iff`: which form a part has, and which parts have
  none
* `isFormOf_self`: forms are read as themselves
* `exists_ofLabels?`: the mentions of any labels that list them in a text
-/

namespace AlertBridge.Mention

variable {text part form : String}

/-! ## The form of a part -/

/-- The text is something in angle brackets that has no closing bracket itself. -/
def IsWrapped (text : String) : Prop :=
  ∃ inner : String, inner ≠ "" ∧ '>' ∉ inner.toList ∧ text = "<" ++ inner ++ ">"

theorem isWrapped_iff : isWrapped text.toList ↔ IsWrapped text := by
  constructor
  · intro h
    unfold isWrapped at h
    split at h
    · next rest htext =>
      split at h
      · next c inner htake hdrop =>
        obtain ⟨hmem, rfl⟩ := takeWhile_ne_and_dropWhile_ne_iff.1 ⟨htake, hdrop⟩
        refine ⟨String.ofList (c :: inner), by simp, by simpa using hmem, ?_⟩
        apply String.toList_injective
        simp [htext]
      · cases h
    · cases h
  · rintro ⟨inner, hne, hmem, rfl⟩
    obtain ⟨htake, hdrop⟩ : (inner.toList ++ ['>']).takeWhile (· ≠ '>') = inner.toList ∧
        (inner.toList ++ ['>']).dropWhile (· ≠ '>') = ['>'] :=
      takeWhile_ne_and_dropWhile_ne_iff.2 ⟨hmem, rfl⟩
    obtain ⟨c, cs, hinner⟩ := List.exists_cons_of_ne_nil (mt String.toList_eq_nil_iff.1 hne)
    have htext : ("<" ++ inner ++ ">").toList = '<' :: (inner.toList ++ ['>']) := by simp
    unfold isWrapped
    simp only [htext, htake, hdrop]
    rw [hinner]
    rfl

instance : DecidablePred IsWrapped := fun _ => decidable_of_iff _ isWrapped_iff

/-- A part names somebody: it is not blank, addresses no whole channel and is not in brackets. -/
structure IsName (part : String) : Prop where
  ne_empty : trim part ≠ ""
  not_broadcast : trim part ∉ broadcasts
  not_wrapped : ¬ IsWrapped (trim part)

/-- A form of a part, without the blanks around it. A name is put in brackets, and anything else is
as it should be. A blank part has no form. -/
inductive IsFormOf (part : String) : String → Prop where
  | broadcast (h : trim part ∈ broadcasts) : IsFormOf part (trim part)
  | wrapped (h : IsWrapped (trim part)) : IsFormOf part (trim part)
  | name (h : IsName part) : IsFormOf part ("<@" ++ trim part ++ ">")

theorem IsWrapped.ne_empty (h : IsWrapped text) : text ≠ "" := by
  obtain ⟨inner, -, -, rfl⟩ := h
  simp [String.append_eq_empty_iff]

theorem ne_empty_of_mem_broadcasts (h : text ∈ broadcasts) : text ≠ "" := by
  rintro rfl
  revert h
  decide

theorem canonical?_eq_some_iff : canonical? part = some form ↔ IsFormOf part form := by
  unfold canonical?
  dsimp only
  constructor
  · intro h
    split at h
    · cases h
    · next hne =>
      split at h
      · next hown =>
        obtain rfl := Option.some.inj h
        rw [Bool.or_eq_true, List.contains_iff_mem, isWrapped_iff] at hown
        rcases hown with hbroadcast | hwrapped
        · exact .broadcast hbroadcast
        · exact .wrapped hwrapped
      · next hown =>
        obtain rfl := Option.some.inj h
        rw [Bool.or_eq_true, List.contains_iff_mem, isWrapped_iff, not_or] at hown
        exact .name ⟨hne, hown.1, hown.2⟩
  · intro h
    cases h with
    | broadcast h =>
      rw [if_neg (ne_empty_of_mem_broadcasts h), if_pos (by simp [h])]
    | wrapped h =>
      rw [if_neg h.ne_empty, if_pos (by simp [isWrapped_iff.2 h])]
    | name h =>
      rw [if_neg h.ne_empty, if_neg]
      rw [Bool.or_eq_true, List.contains_iff_mem, isWrapped_iff, not_or]
      exact ⟨h.not_broadcast, h.not_wrapped⟩

theorem canonical?_eq_none_iff : canonical? part = none ↔ allBlank part.toList := by
  rw [← trim_eq_empty_iff]
  unfold canonical?
  dsimp only
  split
  · next hempty => exact iff_of_true rfl hempty
  · next hne =>
    refine iff_of_false ?_ hne
    split <;> exact Option.some_ne_none _

/-! ## Forms are read as themselves -/

/-- There is nothing to trim in front of the opening bracket and behind the closing one. -/
theorem IsWrapped.trim_eq (h : IsWrapped text) : trim text = text := by
  obtain ⟨inner, -, -, rfl⟩ := h
  rw [trim, trimBoth_eq_self, String.ofList_toList]
  · intro c hc
    obtain rfl : '<' = c := by simpa using hc
    decide
  · intro c hc
    have hlast : ("<" ++ inner ++ ">").toList.getLast? = some '>' := by
      rw [String.toList_append]
      exact List.getLast?_concat
    obtain rfl := Option.some.inj (hlast.symm.trans hc)
    decide

/-- A name in brackets is in brackets, if the name has no closing bracket. -/
theorem isWrapped_name (h : '>' ∉ part.toList) : IsWrapped ("<@" ++ trim part ++ ">") := by
  refine ⟨"@" ++ trim part, by simp [String.append_eq_empty_iff], ?_, ?_⟩
  · intro hmem
    have htrim : '>' ∈ (trim part).toList := by simpa using hmem
    exact h (mem_of_mem_trim htrim)
  · rw [← String.append_assoc]
    rfl

/-- The form of a part is its own form, if the part has a closing bracket only where it is in
brackets. -/
theorem isFormOf_self (h : IsFormOf part form)
    (hpart : '>' ∈ part.toList → IsWrapped (trim part)) : IsFormOf form form := by
  have hself (text : String) (hwrapped : IsWrapped text) : IsFormOf text text := by
    have hform : IsFormOf text (trim text) := .wrapped (hwrapped.trim_eq.symm ▸ hwrapped)
    rwa [hwrapped.trim_eq] at hform
  cases h with
  | broadcast h =>
    have hform : IsFormOf (trim part) (trim (trim part)) := .broadcast (by rwa [trim_trim])
    rwa [trim_trim] at hform
  | wrapped h => exact hself _ h
  | name h => exact hself _ (isWrapped_name fun hmem => h.not_wrapped (hpart hmem))

/-- A form has no comma, if the part has none. -/
theorem IsFormOf.comma_notMem (h : IsFormOf part form) (hpart : ',' ∉ part.toList) :
    ',' ∉ form.toList := by
  have htrim : ',' ∉ (trim part).toList := fun hmem => hpart (mem_of_mem_trim hmem)
  cases h with
  | broadcast => exact htrim
  | wrapped => exact htrim
  | name => simpa using htrim

theorem IsFormOf.ne_empty (h : IsFormOf part form) : form ≠ "" := by
  cases h with
  | broadcast h => exact ne_empty_of_mem_broadcasts h
  | wrapped h => exact h.ne_empty
  | name => simp [String.append_eq_empty_iff]

/-! ## The list -/

theorem mem_ofList_iff : form ∈ ofList text ↔ ∃ part ∈ splitAt ',' text, IsFormOf part form := by
  rw [ofList, mem_dedup, List.mem_filterMap]
  exact exists_congr fun part => and_congr_right' canonical?_eq_some_iff

/-- The parts that are not blank, each beside its form. -/
theorem forall₂_isFormOf (parts : List String) :
    List.Forall₂ IsFormOf (parts.filter fun part => ¬ allBlank part.toList)
      (parts.filterMap canonical?) := by
  have hfilter : parts.filter (fun part => decide (¬ allBlank part.toList)) =
      parts.filter fun part => (canonical? part).isSome := by
    refine List.filter_congr fun part _ => ?_
    rw [Bool.eq_iff_iff, decide_eq_true_iff, Option.isSome_iff_ne_none, ne_eq,
      canonical?_eq_none_iff]
  rw [hfilter]
  exact (forall₂_filterMap canonical? parts).imp fun _ _ h => canonical?_eq_some_iff.1 h

/-- Texts that have no comma and are their own forms are read as they are, once they are joined with
commas. -/
theorem ofList_intercalate {mentions : List String} (hnodup : mentions.Nodup)
    (hself : ∀ m ∈ mentions, IsFormOf m m) (hcomma : ∀ m ∈ mentions, ',' ∉ m.toList) :
    ofList (",".intercalate mentions) = mentions := by
  by_cases hne : mentions = []
  · subst hne
    decide +kernel
  · have hparts : AreParts ',' (",".intercalate mentions) mentions := ⟨hne, hcomma, rfl⟩
    have hforms : mentions.filterMap canonical? = mentions.filterMap some :=
      List.filterMap_congr fun m hm => canonical?_eq_some_iff.2 (hself m hm)
    rw [ofList, splitAt_eq_iff.2 hparts, hforms, List.filterMap_some, dedup_of_nodup hnodup]

theorem ofList_empty : ofList "" = [] := ofList_intercalate .nil (by simp) (by simp)

/-- Labels have the mentions of the text that they have for them, where nothing counts as an empty
text. -/
theorem ofLabels?_eq_ok {labels listed : Json}
    (h : (labels.orElse (.obj [])).get "slack_mentions" = .ok listed)
    (hlisted : listed.Denotes text) : ofLabels? labels = .ok (ofList text) := by
  rw [ofLabels?, bind_of_ok h]
  by_cases htext : text = ""
  · rw [if_neg (by simp [hlisted.truthy, htext]), htext, ofList_empty]
    rfl
  · rw [if_pos (hlisted.truthy_iff.2 htext), hlisted.eq_str htext]
    rfl

theorem ofLabels?_obj_eq_ok {fields : List (String × Json)}
    (h : Json.fieldOf? fields "slack_mentions" = some (.str text)) :
    ofLabels? (.obj fields) = .ok (ofList text) := by
  refine ofLabels?_eq_ok ?_ (.text text)
  rw [Json.get_orElse_of_truthy fun _ => ⟨fields, rfl⟩, Json.part, h]
  rfl

/-- **The mentions of a list.** They are all different, and they are the forms of the parts that are
not blank, in the order in which the parts have them first. So a name that is listed also in
brackets is mentioned once. If closing brackets are only where a part is in brackets, then any
labels that list the mentions themselves have the same mentions. -/
theorem exists_ofLabels? {fields : List (String × Json)}
    (h : Json.fieldOf? fields "slack_mentions" = some (.str text)) :
    ∃ parts mentions, AreParts ',' text parts ∧ ofLabels? (.obj fields) = .ok mentions ∧
      mentions.Nodup ∧
      (∃ forms, List.Forall₂ IsFormOf (parts.filter fun part => ¬ allBlank part.toList) forms ∧
        FirstOccurrences forms mentions) ∧
      (∀ name ∈ parts, IsName name →
        ∀ part ∈ parts, IsWrapped (trim part) → trim part = "<@" ++ trim name ++ ">" →
          ∃ mention, IsFormOf name mention ∧ IsFormOf part mention ∧ mentions.count mention = 1) ∧
      ((∀ part ∈ parts, '>' ∈ part.toList → IsWrapped (trim part)) →
        ∀ again, Json.fieldOf? again "slack_mentions" = some (.str (",".intercalate mentions)) →
          ofLabels? (.obj again) = .ok mentions) := by
  have hparts := areParts_splitAt ',' text
  have hnodup : (ofList text).Nodup := nodup_dedup _
  refine ⟨splitAt ',' text, ofList text, hparts, ofLabels?_obj_eq_ok h, hnodup,
    ⟨_, forall₂_isFormOf _, firstOccurrences_dedup _⟩, ?_, ?_⟩
  · intro name hmem hname part _ hwrapped htrim
    have hform : IsFormOf name (trim part) := htrim ▸ .name hname
    refine ⟨trim part, hform, .wrapped hwrapped, ?_⟩
    exact List.count_eq_one_of_mem hnodup (mem_ofList_iff.2 ⟨name, hmem, hform⟩)
  · intro hbrackets again hagain
    have hself : ∀ m ∈ ofList text, IsFormOf m m ∧ ',' ∉ m.toList := by
      intro m hm
      obtain ⟨part, hpart, hform⟩ := mem_ofList_iff.1 hm
      exact ⟨isFormOf_self hform (hbrackets part hpart),
        hform.comma_notMem (hparts.separator_notMem part hpart)⟩
    rw [ofLabels?_obj_eq_ok hagain, ofList_intercalate hnodup (fun m hm => (hself m hm).1)
      fun m hm => (hself m hm).2]

/-- Labels that list a name three times, once in brackets, between a whole channel, a part without
anything, and a group of people. -/
def onCall : List (String × Json) :=
  [("service", .str "store"), ("slack_mentions", .str " U1 , @channel,,<@U1>,<!subteam^S1> ,U1")]

/-- The name is mentioned once, and the three mentions are read again as they are. -/
theorem exists_ofLabels?_onCall :
    Json.fieldOf? onCall "slack_mentions" =
        some (.str " U1 , @channel,,<@U1>,<!subteam^S1> ,U1") ∧
      ∃ mentions, ofLabels? (.obj onCall) = .ok mentions ∧
        mentions = ["<@U1>", "@channel", "<!subteam^S1>"] ∧
        ofLabels? (.obj [("slack_mentions", .str "<@U1>,@channel,<!subteam^S1>")]) =
          .ok mentions := by
  have hlisted : Json.fieldOf? onCall "slack_mentions" =
      some (.str " U1 , @channel,,<@U1>,<!subteam^S1> ,U1") := by rfl
  obtain ⟨parts, mentions, hparts, hmentions, -, -, -, hagain⟩ := exists_ofLabels? hlisted
  obtain rfl : mentions = ["<@U1>", "@channel", "<!subteam^S1>"] := by
    rw [ofLabels?_obj_eq_ok hlisted, Except.ok.injEq] at hmentions
    rw [← hmentions]
    decide +kernel
  refine ⟨hlisted, _, hmentions, rfl, hagain ?_ _ ?_⟩
  · obtain rfl := splitAt_eq_iff.2 hparts
    decide +kernel
  · exact congrArg (fun text => some (Json.str text)) (by decide +kernel)

/-- A closing bracket within a name shows the name not to be in brackets when it is read again. -/
example : ofList "a>b" = ["<@a>b>"] ∧ ofList "<@a>b>" = ["<@<@a>b>>"] := by decide +kernel

end AlertBridge.Mention
