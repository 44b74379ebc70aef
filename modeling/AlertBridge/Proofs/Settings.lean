import AlertBridge.Proofs.Discord.Packing
import AlertBridge.Proofs.Slack.ShownAlerts
import AlertBridge.Settings

/-!
# No environment keeps lists from being cut

The limits with which lists are cut come from the environment, where a variable may hold anything: no
numeral, one of another script, zero, a negative number or one that is too large. Whatever it holds,
the limit is positive and not above what the platform takes, and if the variable asks for such a
limit, this is the one. So the cards of Discord and the tables of Slack are always cut, into pieces
that make up the list, none of which is empty or exceeds its limit.

## Main definitions

* `IsLimit`: a limit between one and a bound, for which a variable may ask
* `IsBounded`: the limits that an environment makes
* `Cuts`: limits with which lists are always cut

## Main results

* `cuts_ofEnvironment`: what the limits are, and that lists are cut by them
-/

namespace AlertBridge.Settings

/-! ## The limits -/

/-- A limit lies between one and a bound, and it is the one that is asked for if that does. -/
structure IsLimit (asked : Option Int) (bound limit : Int) : Prop where
  one_le : 1 ≤ limit
  le_bound : limit ≤ bound
  eq_asked : ∀ n ∈ asked, 1 ≤ n → n ≤ bound → limit = n

/-- The limits of settings. The ceiling of nesting has no bound. -/
structure IsBounded (env : Environment) (s : Settings) : Prop where
  embeds : IsLimit (integer? env "MAX_EMBEDS_LENGTH") 10 s.limits.embeds
  fields : IsLimit (integer? env "MAX_FIELDS_LENGTH") 25 s.limits.fields
  rows : IsLimit (integer? env "MAX_TABLE_ROWS") 100 s.limits.rows
  one_le_ceiling : 1 ≤ s.ceiling
  ceiling_eq : ∀ n ∈ integer? env "MARKDOWN_MAX_DEPTH", 1 ≤ n → s.ceiling = n

theorem isLimit_clamp {default bound : Int} (hdefault : 1 ≤ default) (hbound : default ≤ bound)
    (asked : Option Int) : IsLimit asked bound (clamp asked default bound) where
  one_le := (clamp_bounds hdefault hbound).1
  le_bound := (clamp_bounds hdefault hbound).2
  eq_asked n hn hone hle := by
    rw [Option.mem_def.1 hn, clamp, if_neg (by omega)]

theorem isBounded_ofEnvironment (env : Environment) : IsBounded env (ofEnvironment env) where
  embeds := isLimit_clamp (by decide) (by decide) _
  fields := isLimit_clamp (by decide) (by decide) _
  rows := isLimit_clamp (by decide) (by decide) _
  one_le_ceiling := Int.le_max_left _ _
  ceiling_eq n hn hone := by
    have hkept : nonzero? (integer? env "MARKDOWN_MAX_DEPTH") = some n := by
      rw [Option.mem_def.1 hn, nonzero?, Option.filter_some, if_pos (by simp; omega)]
    rw [ofEnvironment, hkept]
    exact Int.max_eq_right hone

/-- A numeral of another script, blanks and an underscore, and a negative number. -/
example : let s := ofEnvironment [("MAX_EMBEDS_LENGTH", "٠"), ("MAX_FIELDS_LENGTH", "26"),
      ("MAX_TABLE_ROWS", " 1_0 "), ("MARKDOWN_MAX_DEPTH", "-3")]
    [s.limits.embeds, s.limits.fields, s.limits.rows, s.ceiling] = [10, 25, 10, 1] := by
  decide +kernel

/-! ## Cutting -/

/-- A positive limit cuts cards, and each piece has its message. -/
theorem exists_isCut_packMessages {limit : Int} (hlimit : 1 ≤ limit) (cards : List Discord.Card) :
    ∃ parts, IsCut limit.toNat cards parts ∧
      Discord.packMessages limit cards = .ok (parts.map Discord.packedMessage) := by
  refine ⟨_, isCut_chunks hlimit cards, ?_⟩
  rw [Discord.packMessages, chunks_eq_ok hlimit]
  rfl

/-- With these limits lists are cut, whatever they hold. There is no fault, the pieces make up the
list, and each has an element and no more than the limit. -/
structure Cuts (limits : Limits) : Prop where
  /-- Cards are cut into pieces for messages. -/
  cards : ∀ cards : List Discord.Card, ∃ parts, IsCut limits.embeds.toNat cards parts ∧
    Discord.packMessages limits.embeds cards = .ok (parts.map Discord.packedMessage)
  /-- Alerts are cut by their status, and those of a status into tables, none of which has more than
  a hundred rows. -/
  alerts : ∀ alerts : List Json, (∀ alert ∈ alerts, Alert.IsProper alert) →
    ∃ part : Option String → List Slack.MessageUnit,
      (∀ status ∈ Slack.statuses alerts, Slack.IsGroupUnits limits.rows.toNat
        (Slack.groupOf alerts status) (part status)) ∧
      Slack.units? limits.rows alerts =
        .ok (Slack.resolvedFirst ((Slack.statuses alerts).flatMap part)) ∧
      ∀ status ∈ Slack.statuses alerts, ∀ u ∈ part status, u.isTable →
        1 ≤ u.alertCount ∧ u.alertCount ≤ limits.rows ∧ u.alertCount ≤ 100

/-- Every table of a group has a row, and no more than the limit. -/
theorem alertCount_of_isTable {rows : Nat} {group : List Json} {units : List Slack.MessageUnit}
    (h : Slack.IsGroupUnits rows group units) :
    ∀ u ∈ units, u.isTable → 1 ≤ u.alertCount ∧ u.alertCount ≤ rows := by
  intro u hu htable
  cases h with
  | silent => cases hu
  | tables _ _ hheading hparts hunits =>
    obtain ⟨part, hpart, hunit⟩ := exists_mem_of_forall₂ hunits u hu
    rw [hunit.alertCount_eq hheading]
    exact ⟨hparts.one_le_length part hpart, hparts.length_le part hpart⟩
  | plain _ _ _ hunits =>
    obtain ⟨alert, -, title, -, rfl⟩ := exists_mem_of_forall₂ hunits u hu
    cases htable

theorem cuts_of_limits {limits : Limits} (hembeds : 1 ≤ limits.embeds) (hrows : 1 ≤ limits.rows)
    (hhundred : limits.rows ≤ 100) : Cuts limits where
  cards := exists_isCut_packMessages hembeds
  alerts alerts hproper := by
    obtain ⟨part, hpart, hunits⟩ := Slack.exists_parts hrows hproper
    refine ⟨part, hpart, hunits, fun status hstatus u hu htable => ?_⟩
    obtain ⟨hone, hle⟩ := alertCount_of_isTable (hpart status hstatus) u hu htable
    refine ⟨hone, ?_, ?_⟩ <;> omega

/-- **No environment keeps lists from being cut.** Its limits are positive and bounded, and so cards
and alerts are cut by them. -/
theorem cuts_ofEnvironment (env : Environment) :
    IsBounded env (ofEnvironment env) ∧ Cuts (ofEnvironment env).limits := by
  have hbounded := isBounded_ofEnvironment env
  exact ⟨hbounded,
    cuts_of_limits hbounded.embeds.one_le hbounded.rows.one_le hbounded.rows.le_bound⟩

end AlertBridge.Settings
