import AlertBridge.Proofs.Slack.GroupUnits

/-!
# When the units of a group can be made

The units of a group are made out of alerts that may be anything. Whether that succeeds depends on
the alerts two by two: the first one, which speaks for the group, has to come to an end by itself,
and with each of the others. The first alert may also leave out the group, and then nothing is
asked of the others.

Tables and plain units differ in what they ask, but not in this, since a table asks the same of
each of its alerts, and titles can always be written.

## Main results

* `succeeds_groupUnits?_cons`: the success of a group, two by two
* `eq_nil_iff_of_groupUnits?`: a group without units is one that its first alert leaves out
-/

namespace AlertBridge.Slack

variable {first alert : Json} {rest alerts : List Json} {h : Heading} {rows : Int}

/-! ## Tables -/

/-- The first alert has the texts that tables ask of it. -/
def HasTableTexts (h : Heading) : Prop :=
  Succeeds (title? h.resolved h.alert) ∧
    ∃ description, description? h.resolved h.alert = .ok description ∧
      Succeeds (descriptionSection? description)

/-- The alert has what a row of a table is made of. -/
def HasRow (alert : Json) : Prop := Succeeds (alertMentions? alert) ∧ Succeeds (alertField? alert)

theorem succeeds_tableUnit?_iff {title description : Json} :
    Succeeds (tableUnit? h title description alerts) ↔
      Succeeds (descriptionSection? description) ∧ ∀ alert ∈ alerts, HasRow alert := by
  obtain ⟨written, -, hsection⟩ := exists_titleSection? h (tableTitle h title alerts.length)
  unfold tableUnit?
  rw [bind_of_ok hsection, succeeds_bind_iff]
  constructor
  · rintro ⟨block, hblock, hrest⟩
    obtain ⟨mentions, hmentions, hrest⟩ := succeeds_bind_iff.1 hrest
    obtain ⟨fields, hfields, -⟩ := succeeds_bind_iff.1 hrest
    refine ⟨⟨block, hblock⟩, fun alert halert => ⟨?_, ?_⟩⟩
    · exact succeeds_mapM_iff.1 ⟨mentions, hmentions⟩ alert halert
    · exact succeeds_mapM_iff.1 ⟨fields, hfields⟩ alert halert
  · rintro ⟨⟨block, hblock⟩, hrows⟩
    obtain ⟨mentions, hmentions⟩ := succeeds_mapM_iff.2 fun alert halert => (hrows alert halert).1
    obtain ⟨fields, hfields⟩ := succeeds_mapM_iff.2 fun alert halert => (hrows alert halert).2
    refine ⟨block, hblock, ?_⟩
    rw [bind_of_ok hmentions, bind_of_ok hfields]
    exact succeeds_ok _

theorem pieces_ne_nil (n : Nat) (hne : alerts ≠ []) : pieces n alerts ≠ [] := by
  intro hnil
  apply hne
  rw [← flatten_pieces n alerts, hnil]
  rfl

/-- Tables ask of each alert the same, wherever it is cut. -/
theorem succeeds_tableUnits?_iff (hrows : 1 ≤ rows) (hne : alerts ≠ []) :
    Succeeds (tableUnits? h rows alerts) ↔ HasTableTexts h ∧ ∀ alert ∈ alerts, HasRow alert := by
  have hcut := isCut_chunks hrows alerts
  unfold tableUnits?
  rw [succeeds_bind_iff]
  constructor
  · rintro ⟨title, htitle, hrest⟩
    obtain ⟨description, hdescription, hrest⟩ := succeeds_bind_iff.1 hrest
    rw [bind_of_ok (chunks_eq_ok hrows alerts), succeeds_mapM_iff] at hrest
    obtain ⟨piece, hpiece⟩ := List.exists_mem_of_ne_nil _ (pieces_ne_nil (rows.toNat - 1) hne)
    refine ⟨⟨⟨title, htitle⟩, description, hdescription,
      (succeeds_tableUnit?_iff.1 (hrest piece hpiece)).1⟩, fun alert halert => ?_⟩
    rw [← hcut.flatten_eq] at halert
    obtain ⟨part, hpart, hmem⟩ := List.mem_flatten.1 halert
    exact (succeeds_tableUnit?_iff.1 (hrest part hpart)).2 alert hmem
  · rintro ⟨⟨⟨title, htitle⟩, description, hdescription, hsection⟩, hall⟩
    refine ⟨title, htitle, ?_⟩
    rw [bind_of_ok hdescription, bind_of_ok (chunks_eq_ok hrows alerts), succeeds_mapM_iff]
    intro piece hpiece
    refine succeeds_tableUnit?_iff.2 ⟨hsection, fun alert halert => hall alert ?_⟩
    rw [← hcut.flatten_eq]
    exact List.mem_flatten.2 ⟨piece, hpiece, halert⟩

/-! ## Groups -/

theorem groupUnits?_of_silent (hsilent : heading? first = .ok none) :
    groupUnits? rows (first :: rest) = .ok [] := by
  rw [groupUnits?, bind_of_ok hsilent]
  rfl

theorem groupUnits?_of_heading (hheading : heading? first = .ok (some h)) :
    groupUnits? rows (first :: rest) = (hasField? first >>= fun hasField =>
      if hasField then tableUnits? h rows (first :: rest)
      else (first :: rest).mapM (plainUnit? h)) := by
  rw [groupUnits?, bind_of_ok hheading]

/-- What is asked of all alerts alike is asked two by two. -/
theorem forall_cons_iff_pairs (first : Json) (rest : List Json) (P : Prop) (Q : Json → Prop) :
    (P ∧ ∀ alert ∈ first :: rest, Q alert) ↔
      (P ∧ ∀ alert ∈ [first], Q alert) ∧
        ∀ alert ∈ rest, P ∧ ∀ alert' ∈ [first, alert], Q alert' := by
  simp only [List.forall_mem_cons, List.not_mem_nil, false_implies, implies_true, and_true]
  constructor
  · rintro ⟨hP, hfirst, hrest⟩
    exact ⟨⟨hP, hfirst⟩, fun alert halert => ⟨hP, hfirst, hrest alert halert⟩⟩
  · rintro ⟨⟨hP, hfirst⟩, hrest⟩
    exact ⟨hP, hfirst, fun alert halert => (hrest alert halert).2.2⟩

/-- **A group succeeds two by two**: the first alert by itself, and with each of the others. -/
theorem succeeds_groupUnits?_cons (hrows : 1 ≤ rows) :
    Succeeds (groupUnits? rows (first :: rest)) ↔
      Succeeds (groupUnits? rows [first]) ∧
        ∀ alert ∈ rest, Succeeds (groupUnits? rows [first, alert]) := by
  cases hheading : heading? first with
  | error fault => simp [groupUnits?, hheading, bind, Except.bind]
  | ok heading =>
    cases heading with
    | none => simp [groupUnits?_of_silent hheading]
    | some h =>
      simp only [groupUnits?_of_heading hheading]
      cases hfield : hasField? first with
      | error fault => simp [bind, Except.bind]
      | ok hasField =>
        simp only [bind_of_ok rfl]
        cases hasField with
        | true =>
          simp only [if_true, succeeds_tableUnits?_iff hrows (List.cons_ne_nil _ _)]
          exact forall_cons_iff_pairs first rest _ _
        | false =>
          have hpairs :=
            forall_cons_iff_pairs first rest True fun alert => Succeeds (plainUnit? h alert)
          simpa only [Bool.false_eq_true, if_false, succeeds_mapM_iff, true_and] using hpairs

/-- One more alert makes a difference only by itself and by the first of the group. -/
theorem succeeds_groupUnits?_insert_iff (hrows : 1 ≤ rows) {group tail : List Json}
    (hothers : Succeeds (groupUnits? rows (first :: (group ++ tail)))) :
    Succeeds (groupUnits? rows (first :: (group ++ alert :: tail))) ↔
      Succeeds (groupUnits? rows [first, alert]) := by
  rw [succeeds_groupUnits?_cons hrows] at hothers ⊢
  obtain ⟨hfirst, hrest⟩ := hothers
  simp only [List.forall_mem_append, List.forall_mem_cons] at hrest ⊢
  constructor
  · rintro ⟨-, -, halert, -⟩
    exact halert
  · intro halert
    exact ⟨hfirst, hrest.1, halert, hrest.2⟩

/-- A group without units is one that its first alert leaves out. -/
theorem eq_nil_iff_of_groupUnits? (hrows : 1 ≤ rows) {units : List MessageUnit}
    (hunits : groupUnits? rows (first :: rest) = .ok units) :
    units = [] ↔ heading? first = .ok none := by
  constructor
  · rintro rfl
    obtain ⟨heading, hheading, -⟩ := bind_eq_ok_iff.1 hunits
    cases heading with
    | none => exact hheading
    | some h =>
      exfalso
      rw [groupUnits?_of_heading hheading] at hunits
      obtain ⟨hasField, -, hunits⟩ := bind_eq_ok_iff.1 hunits
      cases hasField with
      | true =>
        obtain ⟨title, -, hunits⟩ := bind_eq_ok_iff.1 hunits
        obtain ⟨description, -, hunits⟩ := bind_eq_ok_iff.1 hunits
        rw [bind_of_ok (chunks_eq_ok hrows _)] at hunits
        have hlength := (mapM_eq_ok_iff.1 hunits).length_eq
        exact pieces_ne_nil _ (List.cons_ne_nil _ _) (List.length_eq_zero_iff.1 hlength)
      | false => exact absurd (mapM_eq_ok_iff.1 hunits).length_eq (by simp)
  · intro hsilent
    rw [groupUnits?_of_silent hsilent] at hunits
    exact (Except.ok.inj hunits).symm

end AlertBridge.Slack
