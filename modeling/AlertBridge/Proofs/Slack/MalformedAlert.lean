import AlertBridge.Proofs.Delivery.Sending
import AlertBridge.Proofs.Slack.GroupFaults
import AlertBridge.Proofs.Slack.Units
import AlertBridge.Slack.Delivery

/-!
# A malformed alert among others

An alert whose units cannot be made is put among others that could be delivered without it. Most
often it takes the others down: the delivery ends with a fault before anything is sent. It is spared
only if an alert of its status comes before it. The first of these speaks for the group, and where
it leaves out the group nothing is asked of the malformed alert, so that the others are sent as if
it were not there.

Nothing but the alert that speaks for it and the malformed one matter for this
(`succeeds_units?_insert_iff`), whatever the other alerts are.

## Main definitions

* `speaker?`: the alert that speaks for another one
* `MalformedAmong`: how the delivery comes out

## Main results

* `malformedAmong_deliverPacked`: how the delivery comes out for any alerts
* `deliverPacked_malformedMention`: two alerts of which one takes the other down
-/

namespace AlertBridge.Slack

open Alert (HasStatus classifies_keyClass mem_ofClass mem_statusClasses ofClass statusClasses)
open Webhook (Outcome request?)

/-- The alert that speaks for one with others before it: the first of these that has its status. -/
def speaker? (before : List Json) (alert : Json) : Option Json :=
  before.find? fun first => (first.part "status").sameKey (alert.part "status")

variable {rows : Int} {alerts before after : List Json} {alert bad : Json}
  {units : List MessageUnit}

/-! ## One alert among others -/

theorem ofClass_insert_self :
    ofClass Json.keyClass (before ++ bad :: after) (statusKey bad) =
      ofClass Json.keyClass before (statusKey bad) ++
        bad :: ofClass Json.keyClass after (statusKey bad) := by
  rw [ofClass, List.filter_append, List.filter_cons_of_pos (by simp [statusKey])]
  rfl

theorem ofClass_insert_of_ne {b : KeyClass} (hb : statusKey bad ≠ b) :
    ofClass Json.keyClass (before ++ bad :: after) b =
      ofClass Json.keyClass (before ++ after) b := by
  rw [ofClass, ofClass, List.filter_append, List.filter_append,
    List.filter_cons_of_neg (by simpa [statusKey] using hb)]

theorem ofClass_append (b : KeyClass) :
    ofClass Json.keyClass (before ++ after) b =
      ofClass Json.keyClass before b ++ ofClass Json.keyClass after b :=
  List.filter_append ..

theorem mem_statusClasses_of_insert {b : KeyClass} (hb : statusKey bad ≠ b) :
    b ∈ statusClasses Json.keyClass (before ++ bad :: after) ↔
      b ∈ statusClasses Json.keyClass (before ++ after) := by
  simp only [mem_statusClasses, List.mem_append, List.mem_cons]
  constructor
  · rintro ⟨alert, halert | rfl | halert, heq⟩
    · exact ⟨alert, .inl halert, heq⟩
    · exact absurd heq hb
    · exact ⟨alert, .inr halert, heq⟩
  · rintro ⟨alert, halert | halert, heq⟩
    · exact ⟨alert, .inl halert, heq⟩
    · exact ⟨alert, .inr (.inr halert), heq⟩

/-- The alert that speaks for another one is the first of its group. -/
theorem speaker?_eq_head? (hbefore : ∀ alert ∈ before, HasStatus alert) (hbad : HasStatus bad) :
    speaker? before bad = (ofClass Json.keyClass before (statusKey bad)).head? := by
  rw [speaker?, ofClass, ← List.head?_filter]
  refine congrArg List.head? (List.filter_congr fun alert halert => ?_)
  rw [Bool.eq_iff_iff, beq_iff_eq]
  exact Json.sameKey_iff (hbefore alert halert).isKey hbad.isKey

/-- Whether an alert takes others down is seen in its group. -/
theorem succeeds_units?_insert_iff_group (hbad : HasStatus bad)
    (hrest : Succeeds (units? rows (before ++ after))) :
    Succeeds (units? rows (before ++ bad :: after)) ↔
      Succeeds (groupUnits? rows
        (ofClass Json.keyClass (before ++ bad :: after) (statusKey bad))) := by
  obtain ⟨hothers, hgroups⟩ := succeeds_units?_iff.1 hrest
  rw [succeeds_units?_iff]
  constructor
  · rintro ⟨-, hall⟩
    exact hall (statusKey bad) (mem_statusClasses.2 ⟨bad, by simp, rfl⟩)
  · intro hown
    refine ⟨?_, fun b hb => ?_⟩
    · simpa only [List.forall_mem_append, List.forall_mem_cons, hbad, true_and] using hothers
    · by_cases hb' : statusKey bad = b
      · exact hb' ▸ hown
      · rw [ofClass_insert_of_ne hb']
        exact hgroups b ((mem_statusClasses_of_insert hb').1 hb)

/-- **Only two alerts matter**: the one that cannot be delivered alone, and the one that speaks for
it. Without the latter there are no units at all. -/
theorem succeeds_units?_insert_iff (hrows : 1 ≤ rows) (hbad : ¬ Succeeds (units? rows [bad]))
    (hrest : Succeeds (units? rows (before ++ after))) :
    Succeeds (units? rows (before ++ bad :: after)) ↔
      ∃ first ∈ speaker? before bad, Succeeds (units? rows [first, bad]) := by
  obtain ⟨hothers, hgroups⟩ := succeeds_units?_iff.1 hrest
  have hbefore : ∀ alert ∈ before, HasStatus alert := fun alert halert =>
    hothers alert (List.mem_append_left _ halert)
  by_cases hstatus : HasStatus bad
  · rw [succeeds_units?_insert_iff_group hstatus hrest, speaker?_eq_head? hbefore hstatus,
      ofClass_insert_self]
    cases hgroup : ofClass Json.keyClass before (statusKey bad) with
    | nil =>
      refine iff_of_false (fun h => hbad ?_) (by simp)
      rw [units?_of_oneStatus (b := statusKey bad) (by simp) (by simpa using hstatus) (by simp),
        succeeds_map_iff]
      exact ((succeeds_groupUnits?_cons hrows).1 h).1
    | cons first group =>
      obtain ⟨hmem, hsame⟩ : first ∈ before ∧ statusKey first = statusKey bad :=
        mem_ofClass.1 (hgroup ▸ List.mem_cons_self)
      have hown := hgroups (statusKey bad)
        (mem_statusClasses.2 ⟨first, List.mem_append_left _ hmem, hsame⟩)
      rw [ofClass_append, hgroup] at hown
      rw [List.cons_append, succeeds_groupUnits?_insert_iff hrows hown, List.head?_cons]
      simp only [Option.mem_some_iff, exists_eq_left']
      rw [units?_of_oneStatus (b := statusKey bad) (by simp)
        (by simpa using ⟨hbefore first hmem, hstatus⟩) (by simpa using hsame), succeeds_map_iff]
  · refine iff_of_false (fun h => hstatus ?_) ?_
    · exact (succeeds_units?_iff.1 h).1 bad (by simp)
    · rintro ⟨first, -, h⟩
      exact hstatus ((succeeds_units?_iff.1 h).1 bad (by simp))

/-! ## What is left -/

/-- Where an alert is spared, there is one before it in its group. -/
theorem exists_ofClass_eq_cons (hrows : 1 ≤ rows) (hbad : ¬ Succeeds (units? rows [bad]))
    (hrest : Succeeds (units? rows (before ++ after)))
    (hall : Succeeds (units? rows (before ++ bad :: after))) :
    ∃ first group, ofClass Json.keyClass before (statusKey bad) = first :: group := by
  obtain ⟨first, hspeaker, -⟩ := (succeeds_units?_insert_iff hrows hbad hrest).1 hall
  have hstatus := (succeeds_units?_iff.1 hall).1
  rw [speaker?_eq_head? (fun alert halert => hstatus alert (List.mem_append_left _ halert))
    (hstatus bad (by simp))] at hspeaker
  exact ⟨first, List.head?_eq_some_iff.1 hspeaker⟩

/-- A group that has units has them among those of all alerts. -/
theorem ne_nil_of_group (hunits : units? rows alerts = .ok units) {b : KeyClass}
    (hb : b ∈ statusClasses Json.keyClass alerts) {part : List MessageUnit}
    (hpart : groupUnits? rows (ofClass Json.keyClass alerts b) = .ok part) (hne : part ≠ []) :
    units ≠ [] := by
  obtain ⟨u, hu⟩ := List.exists_mem_of_ne_nil _ hne
  exact List.ne_nil_of_mem ((mem_units?_iff hunits).2 ⟨b, hb, part, hpart, hu⟩)

/-- An alert that is spared does not keep the others from having units. -/
theorem ne_nil_of_insert (hrows : 1 ≤ rows) (hbad : ¬ Succeeds (units? rows [bad]))
    (hunits : units? rows (before ++ after) = .ok units) (hne : units ≠ [])
    {all : List MessageUnit} (hall : units? rows (before ++ bad :: after) = .ok all) :
    all ≠ [] := by
  obtain ⟨u, hu⟩ := List.exists_mem_of_ne_nil _ hne
  obtain ⟨b, hb, part, hpart, hmem⟩ := (mem_units?_iff hunits).1 hu
  have hpartne : part ≠ [] := List.ne_nil_of_mem hmem
  by_cases hb' : statusKey bad = b
  · subst hb'
    have hclass : statusKey bad ∈ statusClasses Json.keyClass (before ++ bad :: after) :=
      mem_statusClasses.2 ⟨bad, by simp, rfl⟩
    obtain ⟨first, group, hgroup⟩ := exists_ofClass_eq_cons hrows hbad ⟨units, hunits⟩ ⟨all, hall⟩
    obtain ⟨whole, hwhole⟩ := (succeeds_units?_iff.1 ⟨all, hall⟩).2 _ hclass
    refine ne_nil_of_group hall hclass hwhole ?_
    rw [ofClass_append, hgroup, List.cons_append] at hpart
    rw [ofClass_insert_self, hgroup, List.cons_append] at hwhole
    rwa [Ne, eq_nil_iff_of_groupUnits? hrows hwhole, ← eq_nil_iff_of_groupUnits? hrows hpart]
  · rw [← ofClass_insert_of_ne hb'] at hpart
    exact ne_nil_of_group hall ((mem_statusClasses_of_insert hb').2 hb) hpart hpartne

/-- Alerts of one status without units are left out by the first of them. -/
theorem heading?_of_units?_eq_nil {first : Json} {rest : List Json} {b : KeyClass}
    (hrows : 1 ≤ rows) (hone : ∀ alert ∈ first :: rest, statusKey alert = b)
    (hunits : units? rows (first :: rest) = .ok []) : heading? first = .ok none := by
  have hstatus := (succeeds_units?_iff.1 ⟨[], hunits⟩).1
  rw [units?_of_oneStatus (List.cons_ne_nil _ _) hstatus hone] at hunits
  obtain ⟨part, hpart, hnil⟩ := map_eq_ok_iff.1 hunits
  rw [← eq_nil_iff_of_groupUnits? hrows hpart, List.eq_nil_iff_forall_not_mem]
  intro u hu
  rw [← mem_resolvedFirst, hnil] at hu
  cases hu

/-- The status of an alert that is not the first with it does not make a new group. -/
theorem statusClasses_insert {first : Json} (hmem : first ∈ before)
    (hsame : statusKey first = statusKey bad) :
    statusClasses Json.keyClass (before ++ bad :: after) =
      statusClasses Json.keyClass (before ++ after) := by
  rw [statusClasses, statusClasses, List.map_append, List.map_append, List.map_cons]
  exact dedup_append_cons_of_mem (List.mem_map.2 ⟨first, hmem, hsame⟩) _

/-- Where the alert that speaks for another one leaves out the group, the other one is as good as
absent. -/
theorem units?_insert_of_silent {first : Json} (hrows : 1 ≤ rows)
    (hrest : Succeeds (units? rows (before ++ after))) (hspeaker : speaker? before bad = some first)
    (hsilent : units? rows [first, bad] = .ok []) :
    units? rows (before ++ bad :: after) = units? rows (before ++ after) := by
  have hothers := (succeeds_units?_iff.1 hrest).1
  have hbad : HasStatus bad := (succeeds_units?_iff.1 ⟨[], hsilent⟩).1 bad (by simp)
  have hall : ∀ alert ∈ before ++ bad :: after, HasStatus alert := by
    simpa only [List.forall_mem_append, List.forall_mem_cons, hbad, true_and] using hothers
  rw [speaker?_eq_head? (fun alert halert => hothers alert (List.mem_append_left _ halert)) hbad]
    at hspeaker
  obtain ⟨hmem, hsame⟩ : first ∈ before ∧ statusKey first = statusKey bad :=
    mem_ofClass.1 (List.mem_of_mem_head? hspeaker)
  obtain ⟨group, hgroup⟩ := List.head?_eq_some_iff.1 hspeaker
  have hheading : heading? first = .ok none :=
    heading?_of_units?_eq_nil (b := statusKey bad) hrows (by simpa using hsame) hsilent
  rw [units?_eq rows hall (classifies_keyClass hall),
    units?_eq rows hothers (classifies_keyClass hothers), statusClasses_insert hmem hsame]
  refine congrArg _ (mapM_congr fun b _ => ?_)
  by_cases hb : statusKey bad = b
  · subst hb
    rw [ofClass_insert_self, ofClass_append, hgroup]
    exact (groupUnits?_of_silent hheading).trans (groupUnits?_of_silent hheading).symm
  · rw [ofClass_insert_of_ne hb]

/-! ## Deliveries -/

variable {n : Notification} {script : List Outcome}

/-- The requests that deliver units. -/
def unitPosts (n : Notification) (units : List MessageUnit) : List Webhook.Post :=
  ((packUnits n.limits.embeds units).map message).filterMap (request? n.hook [])

theorem shown_deliverPacked_of_fault {fault : Fault} (hbody : Alert.ofBody? n.body = some alerts)
    (hunits : units? n.limits.rows alerts = .error fault) :
    (deliverPacked n script).shown = (.error fault, []) := by
  rw [deliverPacked, Delivery.ofAlerts, hbody]
  dsimp only
  rw [hunits]
  rfl

theorem shown_deliverPacked_of_units (hbody : Alert.ofBody? n.body = some alerts)
    (hunits : units? n.limits.rows alerts = .ok units) (hne : units ≠ [])
    (hscript : ∀ outcome ∈ script, outcome.isBroken = false) :
    (deliverPacked n script).shown = (.ok 200, unitPosts n units) := by
  obtain ⟨u, rest, rfl⟩ := List.exists_cons_of_ne_nil hne
  rw [deliverPacked, Delivery.ofAlerts, hbody]
  dsimp only
  rw [hunits]
  exact (isSent_sendAll n.hook [] _ 0 _ hscript).shown_delivery _ _

/-- Units are in messages. -/
theorem packUnits_ne_nil (limit : Int) (hne : units ≠ []) : packUnits limit units ≠ [] := by
  intro hnil
  apply hne
  rw [← flatten_batches limit units, List.map_eq_nil_iff.1 hnil]
  rfl

/-- How the delivery comes out of alerts among which one is malformed. -/
structure MalformedAmong (n : Notification) (before : List Json) (bad : Json) (after : List Json)
    (script : List Outcome) : Prop where
  /-- The others alone are delivered, with a message at least. -/
  others_delivered {body : Json} (hbody : Alert.ofBody? body = some (before ++ after)) :
    ∃ units, units? n.limits.rows (before ++ after) = .ok units ∧
      packUnits n.limits.embeds units ≠ [] ∧
      (deliverPacked { n with body } script).shown = (.ok 200, unitPosts n units)
  /-- With the malformed alert there is a fault, unless the alert that speaks for it spares it. -/
  fails_iff : (∃ fault, (deliverPacked n script).status = .error fault) ↔
    ∀ first ∈ speaker? before bad, ¬ Succeeds (units? n.limits.rows [first, bad])
  /-- A fault comes before anything is sent. -/
  posts_of_fails : (∃ fault, (deliverPacked n script).status = .error fault) →
    (deliverPacked n script).posts = []
  /-- An alert that is spared is delivered with the others. -/
  delivered_of_spared : (∃ first ∈ speaker? before bad,
    Succeeds (units? n.limits.rows [first, bad])) →
      ∃ units, units? n.limits.rows (before ++ bad :: after) = .ok units ∧
        (deliverPacked n script).shown = (.ok 200, unitPosts n units)
  /-- Where the alert that speaks for it leaves out the group, it is as good as absent. -/
  unharmed_of_silent {body : Json} (hbody : Alert.ofBody? body = some (before ++ after)) :
    (∃ first ∈ speaker? before bad, units? n.limits.rows [first, bad] = .ok []) →
      (deliverPacked n script).shown = (deliverPacked { n with body } script).shown

/-- **How a malformed alert takes others down.** -/
theorem malformedAmong_deliverPacked (hrows : 1 ≤ n.limits.rows)
    (hbody : Alert.ofBody? n.body = some (before ++ bad :: after))
    (hbad : ¬ Succeeds (units? n.limits.rows [bad]))
    (hunits : units? n.limits.rows (before ++ after) = .ok units) (hne : units ≠ [])
    (hscript : ∀ outcome ∈ script, outcome.isBroken = false) :
    MalformedAmong n before bad after script := by
  have hrest : Succeeds (units? n.limits.rows (before ++ after)) := ⟨units, hunits⟩
  have hothers {body : Json} (hothersBody : Alert.ofBody? body = some (before ++ after)) :
      (deliverPacked { n with body } script).shown = (.ok 200, unitPosts n units) :=
    shown_deliverPacked_of_units (n := { n with body }) hothersBody hunits hne hscript
  have hspared := succeeds_units?_insert_iff hrows hbad hrest
  have hdelivered {all : List MessageUnit}
      (hall : units? n.limits.rows (before ++ bad :: after) = .ok all) :
      (deliverPacked n script).shown = (.ok 200, unitPosts n all) :=
    shown_deliverPacked_of_units hbody hall (ne_nil_of_insert hrows hbad hunits hne hall) hscript
  have hfails : (∃ fault, (deliverPacked n script).status = .error fault) ↔
      ¬ Succeeds (units? n.limits.rows (before ++ bad :: after)) := by
    constructor
    · rintro ⟨fault, hfault⟩ ⟨all, hall⟩
      cases hfault.symm.trans (congrArg Prod.fst (hdelivered hall))
    · intro h
      obtain ⟨fault, hfault⟩ := not_succeeds_iff.1 h
      exact ⟨fault, congrArg Prod.fst (shown_deliverPacked_of_fault hbody hfault)⟩
  refine
    { others_delivered := fun hothersBody =>
        ⟨units, hunits, packUnits_ne_nil _ hne, hothers hothersBody⟩
      fails_iff := ?_
      posts_of_fails := fun h => ?_
      delivered_of_spared := fun h => ?_
      unharmed_of_silent := fun hothersBody h => ?_ }
  · rw [hfails, hspared]
    simp only [not_exists, not_and]
  · obtain ⟨fault, hfault⟩ := not_succeeds_iff.1 (hfails.1 h)
    exact congrArg Prod.snd (shown_deliverPacked_of_fault hbody hfault)
  · obtain ⟨all, hall⟩ := hspared.2 h
    exact ⟨all, hall, hdelivered hall⟩
  · obtain ⟨first, hspeaker, hsilent⟩ := h
    rw [hothers hothersBody]
    refine hdelivered ?_
    rw [units?_insert_of_silent hrows hrest hspeaker hsilent, hunits]

/-- A firing alert with a summary and labels. -/
def firingAlert (summary : String) (labels : List (String × Json)) : Json :=
  .obj [("status", .str "firing"), ("annotations", .obj [("summary", .str summary)]),
    ("labels", .obj labels)]

/-- A firing alert whose label that lists mentions is a number. -/
def malformedMention : Json := firingAlert "b" [("slack_mentions", .int 5)]

/-- A notification of alerts, where a reader finds nothing in any Markdown. -/
def notificationOf (alerts : List Json) : Notification where
  hook := "http://host/"
  body := .obj [("alerts", .arr alerts)]
  query := []
  limits := ⟨10, 25, 20⟩
  lexer := fun _ => pure (.ok [])
  ceiling := 16

theorem not_succeeds_malformedMention : ¬ Succeeds (units? 20 [malformedMention]) :=
  not_succeeds_error Fault.notText

/-- An alert in front of the malformed one speaks for it, but does not spare it. -/
theorem malformedAmong_deliverPacked_malformedMention :
    (1 : Int) ≤ 20 ∧ ¬ Succeeds (units? 20 [malformedMention]) ∧
      (∃ unit, units? 20 [firingAlert "a" []] = .ok [unit]) ∧
      MalformedAmong (notificationOf [firingAlert "a" [], malformedMention])
        [firingAlert "a" []] malformedMention [] [] ∧
      ∃ fault, (deliverPacked (notificationOf [firingAlert "a" [], malformedMention]) []).status =
        .error fault := by
  obtain ⟨unit, hunit⟩ : ∃ unit, units? 20 [firingAlert "a" []] = .ok [unit] := ⟨_, rfl⟩
  have hamong : MalformedAmong (notificationOf [firingAlert "a" [], malformedMention])
      [firingAlert "a" []] malformedMention [] [] :=
    malformedAmong_deliverPacked (by decide) rfl not_succeeds_malformedMention hunit (by simp)
      (by simp)
  refine ⟨by decide, not_succeeds_malformedMention, ⟨unit, hunit⟩, hamong, hamong.fails_iff.2 ?_⟩
  intro first hfirst
  obtain rfl : firingAlert "a" [] = first := Option.some.inj hfirst
  exact not_succeeds_error Fault.notText

/-- Without the malformed alert the other one is sent. With it nothing is, and the delivery ends with
a fault. -/
theorem deliverPacked_malformedMention :
    units? 20 [malformedMention] = .error .notText ∧
      (∃ unit, units? 20 [firingAlert "a" []] = .ok [unit]) ∧
      (deliverPacked (notificationOf [firingAlert "a" []]) []).status = .ok 200 ∧
      (deliverPacked (notificationOf [firingAlert "a" []]) []).posts.length = 1 ∧
      (deliverPacked (notificationOf [firingAlert "a" [], malformedMention]) []).status =
        .error .notText ∧
      (deliverPacked (notificationOf [firingAlert "a" [], malformedMention]) []).posts = [] := by
  obtain ⟨unit, hunit⟩ : ∃ unit, units? 20 [firingAlert "a" []] = .ok [unit] := ⟨_, rfl⟩
  have hshown : (deliverPacked (notificationOf [firingAlert "a" []]) []).shown = (.ok 200, _) :=
    shown_deliverPacked_of_units rfl hunit (by simp) (by simp)
  exact ⟨rfl, ⟨unit, hunit⟩, congrArg Prod.fst hshown, by decide +kernel, rfl, rfl⟩

end AlertBridge.Slack
