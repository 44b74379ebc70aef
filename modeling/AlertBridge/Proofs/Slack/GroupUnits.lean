import AlertBridge.Proofs.Chunk
import AlertBridge.Proofs.Slack.Heading
import AlertBridge.Proofs.Slack.Packing

/-!
# The units of a group

What the units of the alerts of one status hold, if all alerts are of the proper form. The first
alert decides: without content of its own it leaves out the group, with a field of its own it turns
the group into tables, and otherwise each alert has a unit of its own.

The statements give all blocks of a unit. Titles and footers are written by the functions that
write them everywhere; the tables, their rows and their mentions are described anew.

## Main definitions

* `IsTableUnit`, `IsPlainUnit`: what a unit holds
* `IsGroupUnits`: the units of a group

## Main results

* `exists_groupUnits?`: a group has the units that it should have
-/

namespace AlertBridge.Slack

open Alert (annotationText status? IsProper)

/-! ## What units hold -/

/-- The sections of a title and a description, without those that are empty. -/
def textSections (title description : String) : List Json :=
  (textSection? title).toList ++ (textSection? description).toList

/-- The section of mentions, if there are any. -/
def mentionSections (mentions : List String) : List Json :=
  if mentions = [] then [] else [mentionBlock mentions]

/-- The table with the fields of alerts. Its rows are numbered from one. -/
def fieldTable (alerts : List Json) : Json :=
  .obj [("type", .str "table"), ("rows", .arr (alerts.mapIdx fun i alert =>
    tableRow (i + 1) (.str (annotationText alert "field_name"))
      (.str (annotationText alert "field_value"))))]

/-- The unit of the alerts of one table. The title has the number of these alerts between the emoji
and the title of the heading's alert. The mentions are those of the table's own alerts. -/
def IsTableUnit (h : Heading) (alerts : List Json) (unit : MessageUnit) : Prop :=
  let base := ownTitle h.resolved h.alert
  ∃ title mentions,
    linkedTitle? (.str (trim (h.emoji ++ toString alerts.length
      ++ if base = "" then "" else " " ++ base))) h.url h.resolved = .ok title ∧
    FirstOccurrences (alerts.flatMap mentionsOf) mentions ∧
    unit = .table h.status
      (textSections title (Mrkdwn.ofMarkdown (ownDescription h.resolved h.alert))
        ++ mentionSections mentions ++ [fieldTable alerts] ++ h.footer.toList)

/-- The unit of one alert, with its own title, description and mentions. -/
def IsPlainUnit (h : Heading) (alert : Json) (unit : MessageUnit) : Prop :=
  ∃ title,
    linkedTitle? (.str (trim (h.emoji ++ ownTitle h.resolved alert))) h.url h.resolved
      = .ok title ∧
    unit = .plain h.status
      (textSections title (Mrkdwn.ofMarkdown (ownDescription h.resolved alert))
        ++ h.footer.toList) (mentionsOf alert)

/-- The units of the alerts of one status, with at most `rows` rows in a table. -/
inductive IsGroupUnits (rows : Nat) : List Json → List MessageUnit → Prop where
  /-- The first alert has neither a title nor a description. -/
  | silent {first : Json} {rest : List Json} (hcontent : ¬ HasContent first) :
      IsGroupUnits rows (first :: rest) []
  /-- The first alert names a field: the alerts are cut into tables. -/
  | tables {first : Json} {rest : List Json} {h : Heading} {parts : List (List Json)}
      {units : List MessageUnit} (hcontent : HasContent first) (hfield : HasField first)
      (hheading : HeadingOf first h) (hparts : IsCut rows (first :: rest) parts)
      (hunits : List.Forall₂ (IsTableUnit h) parts units) : IsGroupUnits rows (first :: rest) units
  /-- Otherwise each alert has its own unit. -/
  | plain {first : Json} {rest : List Json} {h : Heading} {units : List MessageUnit}
      (hcontent : HasContent first) (hfield : ¬ HasField first) (hheading : HeadingOf first h)
      (hunits : List.Forall₂ (IsPlainUnit h) (first :: rest) units) :
      IsGroupUnits rows (first :: rest) units

/-! ## Sections -/

/-- The section of a title is always written. -/
theorem exists_titleSection? (h : Heading) (title : String) :
    ∃ written, linkedTitle? (.str title) h.url h.resolved = .ok written ∧
      titleSection? h title = .ok (textSection? written) := by
  obtain ⟨written, hwritten⟩ := exists_linkedTitle? title h.url h.resolved
  exact ⟨written, hwritten, bind_of_ok hwritten⟩

theorem descriptionSection?_of_denotes {v : Json} {s : String} (h : v.Denotes s) :
    descriptionSection? v = .ok (textSection? (Mrkdwn.ofMarkdown s)) :=
  bind_of_ok h.ofValue?

theorem ne_empty_of_mem_mentionsOf {alert : Json} {mention : String}
    (h : mention ∈ mentionsOf alert) : mention ≠ "" := by
  obtain ⟨part, -, hform⟩ := Mention.mem_ofList_iff.1 h
  exact hform.ne_empty

theorem mentionBlocks_eq_mentionSections {mentions : List String} (h : ∀ m ∈ mentions, m ≠ "") :
    mentionBlocks mentions = mentionSections mentions := by
  unfold mentionSections
  split
  · next hnil => rw [hnil]; rfl
  · next hne => exact mentionBlocks_of_ne_nil hne h

/-! ## Tables -/

theorem tableRow_of_denotes {number : Nat} {name value : Json} {s t : String}
    (hname : name.Denotes s) (hvalue : value.Denotes t) :
    tableRow number name value = tableRow number (.str s) (.str t) := by
  rw [tableRow, tableRow, hname.orElse, hvalue.orElse, (Json.Denotes.text s).orElse,
    (Json.Denotes.text t).orElse]

theorem tableBlock_eq_fieldTable (alerts : List Json) :
    tableBlock (alerts.map fun alert => (.ofOption (Alert.annotation? alert "field_name"),
      .ofOption (Alert.annotation? alert "field_value"))) = fieldTable alerts := by
  refine congrArg (fun rows => Json.obj [("type", .str "table"), ("rows", .arr rows)]) ?_
  refine List.ext_getElem (by simp) fun i _ _ => ?_
  rw [List.getElem_mapIdx, List.getElem_mapIdx, List.getElem_map]
  exact tableRow_of_denotes (Json.denotes_ofOption _) (Json.denotes_ofOption _)

variable {first : Json} {h : Heading} {alerts : List Json}

theorem tableTitle_of_denotes {title : Json} {s : String} (htitle : title.Denotes s) (count : Nat) :
    tableTitle h title count =
      trim (h.emoji ++ toString count ++ if s = "" then "" else " " ++ s) := by
  unfold tableTitle
  by_cases hs : s = ""
  · rw [if_neg (by simp [htitle.truthy, hs]), if_pos hs]
  · rw [if_pos (htitle.truthy_iff.2 hs), if_neg hs, htitle.eq_str hs]
    rfl

/-- The alerts of a table have a unit, and it holds what it should. -/
theorem exists_tableUnit? {title description : Json}
    (htitle : title.Denotes (ownTitle h.resolved h.alert))
    (hdescription : description.Denotes (ownDescription h.resolved h.alert))
    (hproper : ∀ alert ∈ alerts, IsProper alert) :
    ∃ unit, tableUnit? h title description alerts = .ok unit ∧ IsTableUnit h alerts unit := by
  obtain ⟨written, hwritten, hsection⟩ := exists_titleSection? h (tableTitle h title alerts.length)
  have hmentions := mapM_eq_ok_map fun alert halert => alertMentions?_eq_ok (hproper alert halert)
  have hfields := mapM_eq_ok_map fun alert halert => alertField?_eq_ok (hproper alert halert)
  have hnonempty : ∀ m ∈ dedup (alerts.map mentionsOf).flatten, m ≠ "" := by
    intro m hm
    rw [mem_dedup, ← List.flatMap_def] at hm
    obtain ⟨alert, -, hm⟩ := List.mem_flatMap.1 hm
    exact ne_empty_of_mem_mentionsOf hm
  unfold tableUnit?
  rw [bind_of_ok hsection, bind_of_ok (descriptionSection?_of_denotes hdescription),
    bind_of_ok hmentions, bind_of_ok hfields,
    tableBlock_eq_fieldTable, mentionBlocks_eq_mentionSections hnonempty]
  refine ⟨_, rfl, written, dedup (alerts.map mentionsOf).flatten, ?_, ?_, rfl⟩
  · rw [← tableTitle_of_denotes htitle]
    exact hwritten
  · rw [← List.flatMap_def]
    exact firstOccurrences_dedup _

/-- The tables of a group. -/
theorem exists_tableUnits? {rows : Int} (hrows : 1 ≤ rows) (hfirst : IsProper h.alert)
    (hproper : ∀ alert ∈ alerts, IsProper alert) :
    ∃ parts units, tableUnits? h rows alerts = .ok units ∧ IsCut rows.toNat alerts parts ∧
      List.Forall₂ (IsTableUnit h) parts units := by
  obtain ⟨title, htitle, htext⟩ := exists_title? hfirst h.resolved
  obtain ⟨description, hdescription, htext'⟩ := exists_description? hfirst h.resolved
  have hcut := isCut_chunks hrows alerts
  have hunit : ∀ part ∈ pieces (rows.toNat - 1) alerts,
      ∃ unit, tableUnit? h title description part = .ok unit ∧ IsTableUnit h part unit := by
    intro part hpart
    refine exists_tableUnit? htext htext' fun alert halert => hproper alert ?_
    rw [← hcut.flatten_eq]
    exact List.mem_flatten.2 ⟨part, hpart, halert⟩
  obtain ⟨units, hunits, hhold⟩ := exists_mapM_eq_ok hunit
  unfold tableUnits?
  rw [bind_of_ok htitle, bind_of_ok hdescription, bind_of_ok (chunks_eq_ok hrows alerts)]
  exact ⟨_, units, hunits, hcut, hhold⟩

/-! ## Plain units -/

theorem plainTitle_of_denotes {title : Json} {s : String} (htitle : title.Denotes s) :
    plainTitle h title = trim (h.emoji ++ s) := by
  rw [plainTitle, htitle.orElse]
  rfl

/-- An alert has a unit, and it holds what it should. -/
theorem exists_plainUnit? {alert : Json} (hproper : IsProper alert) :
    ∃ unit, plainUnit? h alert = .ok unit ∧ IsPlainUnit h alert unit := by
  obtain ⟨title, htitle, htext⟩ := exists_title? hproper h.resolved
  obtain ⟨description, hdescription, htext'⟩ := exists_description? hproper h.resolved
  obtain ⟨written, hwritten, hsection⟩ := exists_titleSection? h (plainTitle h title)
  unfold plainUnit?
  rw [bind_of_ok htitle, bind_of_ok hsection, bind_of_ok hdescription,
    bind_of_ok (descriptionSection?_of_denotes htext'), bind_of_ok (alertMentions?_eq_ok hproper)]
  refine ⟨_, rfl, written, ?_, rfl⟩
  rw [← plainTitle_of_denotes htext]
  exact hwritten

/-! ## Groups -/

/-- **A group has the units that it should have**, and there is no fault. -/
theorem exists_groupUnits? {rows : Int} (hrows : 1 ≤ rows) {group : List Json}
    (hne : group ≠ []) (hproper : ∀ alert ∈ group, IsProper alert) :
    ∃ units, groupUnits? rows group = .ok units ∧ IsGroupUnits rows.toNat group units := by
  obtain ⟨first, rest, rfl⟩ := List.exists_cons_of_ne_nil hne
  have hfirst : IsProper first := hproper first List.mem_cons_self
  unfold groupUnits?
  dsimp only
  by_cases hcontent : HasContent first
  · obtain ⟨h, hheading, hof⟩ := exists_heading? hfirst hcontent
    have hpresent := present_of_hasContent hfirst hcontent
    rw [bind_of_ok hheading]
    dsimp only
    rw [bind_of_ok (hasField?_eq_ok hfirst hpresent)]
    by_cases hfield : HasField first
    · have hspeaker : IsProper h.alert := hof.alert ▸ hfirst
      obtain ⟨parts, units, hunits, hcut, hhold⟩ := exists_tableUnits? hrows hspeaker hproper
      rw [if_pos (decide_eq_true hfield)]
      exact ⟨units, hunits, .tables hcontent hfield hof hcut hhold⟩
    · obtain ⟨units, hunits, hhold⟩ :=
        exists_mapM_eq_ok fun alert halert => exists_plainUnit? (h := h) (hproper alert halert)
      rw [if_neg (by simpa using hfield)]
      exact ⟨units, hunits, .plain hcontent hfield hof hhold⟩
  · rw [bind_of_ok (heading?_of_not_hasContent hfirst hcontent)]
    exact ⟨[], rfl, .silent hcontent⟩

end AlertBridge.Slack
