import AlertBridge.Config.Basic
import AlertBridge.Proofs.Log.Masking
import Mathlib.Data.List.TakeWhile

/-!
# The secrets of a configuration are masked

The token of a webhook is made of letters, digits, dashes, underscores and slashes, and there is at
least one. So masking removes it, whatever else it contains, and the only thing to see is that a
configuration knows the token of each webhook that it ever took: `Guarded` is the invariant that
each entry keeps, and a token once taken stays when a later entry takes the place of its route.

Main statement: `discreet_mask`.
-/

namespace AlertBridge

/-! ## Tokens -/

theorem mem_of_leading? {p : Char → Bool} {cs found rest : List Char}
    (h : leading? p cs = some (found, rest)) : found ≠ [] ∧ ∀ c ∈ found, p c := by
  unfold leading? at h
  split at h
  · cases h
  · next hne =>
    obtain ⟨rfl, -⟩ : cs.takeWhile p = found ∧ cs.dropWhile p = rest := by simpa using h
    exact ⟨fun hnil => hne hnil, fun c hc => List.mem_takeWhile_imp hc⟩

theorem not_isTokenPathChar_star : isTokenPathChar '*' = false := by decide

/-- A text of characters of tokens is removed by masking. -/
theorem maskable_ofList {cs : List Char} (hne : cs ≠ [])
    (hchars : ∀ c ∈ cs, isTokenPathChar c) : Maskable (String.ofList cs) where
  ne_empty := by simpa using hne
  not_mem hstar := by
    rw [String.toList_ofList] at hstar
    have := hchars '*' hstar
    simp [not_isTokenPathChar_star] at this

theorem maskable_of_slackSecret? {cs : List Char} {secret : String}
    (h : slackSecret? cs = some secret) : Maskable secret := by
  obtain ⟨rest, -, ⟨found, tail⟩, hfound, rfl⟩ :
      ∃ rest, stripStart? slackBeginning.toList cs = some rest ∧
        ∃ part, leading? isTokenPathChar rest = some part ∧ String.ofList part.1 = secret := by
    simpa [slackSecret?, Option.bind_eq_some_iff] using h
  obtain ⟨hne, hchars⟩ := mem_of_leading? hfound
  exact maskable_ofList hne hchars

theorem maskable_of_discordSecret? {cs : List Char} {secret : String}
    (h : discordSecret? cs = some secret) : Maskable secret := by
  unfold discordSecret? at h
  simp only [bind, Option.bind_eq_some_iff] at h
  obtain ⟨number, -, part, -, h⟩ := h
  split at h
  · next rest =>
    obtain ⟨⟨found, tail⟩, hfound, hsecret⟩ := Option.bind_eq_some_iff.1 h
    obtain rfl : String.ofList found = secret := Option.some.inj hsecret
    obtain ⟨hne, hchars⟩ := mem_of_leading? hfound
    exact maskable_ofList hne fun c hc => by simp [isTokenPathChar, hchars c hc]
  · cases h

/-- The token of a webhook is removed by masking. -/
theorem maskable_of_secretOf? {type hook secret : String} (h : secretOf? type hook = some secret) :
    Maskable secret := by
  unfold secretOf? at h
  split at h
  · exact maskable_of_slackSecret? h
  · exact maskable_of_discordSecret? h

namespace Config

/-! ## Entries -/

theorem entryHook?_eq_some {type hook secret : String} {fields : List (String × Json)}
    (h : entryHook? type fields = some (hook, secret)) : secretOf? type hook = some secret := by
  unfold entryHook? at h
  split at h
  · next given _ =>
    obtain ⟨found, hfound, heq⟩ := Option.map_eq_some_iff.1 h
    obtain ⟨rfl, rfl⟩ := Prod.mk.inj heq
    exact hfound
  · cases h

/-- The secret of an entry is the token in the address of its route. -/
theorem secretOf?_of_readEntry {entry : Json} {route : Route} {secret : String}
    (h : readEntry entry = .ok (route, secret)) :
    secretOf? route.type route.hook = some secret := by
  unfold readEntry at h
  split at h
  · next fields =>
    simp only at h
    split at h
    · cases h
    split at h
    · cases h
    split at h
    · cases h
    · next hook found hfound =>
      obtain ⟨rfl, rfl⟩ := Prod.mk.inj (Except.ok.inj h)
      exact entryHook?_eq_some hfound
  · cases h

theorem eq_or_mem_of_mem_setRoute {slug : String} {route : Route}
    {routes : List (String × Route)} {entry : String × Route}
    (h : entry ∈ setRoute slug route routes) : entry.2 = route ∨ entry ∈ routes := by
  induction routes with
  | nil => exact .inl (by simp_all [setRoute])
  | cons r routes ih =>
    obtain ⟨s, r⟩ := r
    unfold setRoute at h
    split at h
    · rcases List.mem_cons.1 h with rfl | h
      · exact .inl rfl
      · exact .inr (List.mem_cons_of_mem _ h)
    · rcases List.mem_cons.1 h with rfl | h
      · exact .inr List.mem_cons_self
      · exact (ih h).imp_right (List.mem_cons_of_mem _)

/-! ## Configurations -/

/-- All secrets of a configuration can be masked, and it knows those of all its routes. -/
structure Guarded (config : Config) : Prop where
  maskable : ∀ s ∈ config.secrets, Maskable s
  routes : ∀ entry ∈ config.routes,
    ∃ s ∈ config.secrets, secretOf? entry.2.type entry.2.hook = some s

theorem guarded_empty : Guarded empty := ⟨by simp [empty], by simp [empty]⟩

theorem Guarded.add {config : Config} (h : Guarded config) {route : Route} {secret : String}
    (hsecret : secretOf? route.type route.hook = some secret) :
    Guarded (config.add route secret) := by
  refine ⟨fun s hs => ?_, fun entry hentry => ?_⟩
  · rcases List.mem_append.1 hs with hs | hs
    · exact h.maskable s hs
    · exact List.mem_singleton.1 hs ▸ maskable_of_secretOf? hsecret
  · rcases eq_or_mem_of_mem_setRoute hentry with hroute | hold
    · exact ⟨secret, by simp [Config.add], hroute ▸ hsecret⟩
    · obtain ⟨s, hs, heq⟩ := h.routes entry hold
      exact ⟨s, List.mem_append_left _ hs, heq⟩

theorem Guarded.addEntry {config : Config} (h : Guarded config) (entry : Json) :
    Guarded (config.addEntry entry).value := by
  unfold Config.addEntry
  split
  · next route secret hread => exact h.add (secretOf?_of_readEntry hread)
  · exact h

theorem Guarded.addEntries {config : Config} (h : Guarded config) (entries : List Json) :
    Guarded (config.addEntries entries).value := by
  induction entries generalizing config with
  | nil => exact h
  | cons entry entries ih => exact ih (h.addEntry entry)

theorem guarded_ofData (data : Json) : Guarded (ofData data).value := by
  unfold ofData
  split
  · exact guarded_empty.addEntries _
  · exact guarded_empty

/-! ## Secrets that stay -/

theorem mem_secrets_addEntry {config : Config} {entry : Json} {s : String}
    (h : s ∈ config.secrets) : s ∈ (config.addEntry entry).value.secrets := by
  unfold addEntry
  split
  · exact List.mem_append_left _ h
  · exact h

theorem mem_secrets_addEntries {config : Config} {s : String} (h : s ∈ config.secrets)
    (entries : List Json) : s ∈ (config.addEntries entries).value.secrets := by
  induction entries generalizing config with
  | nil => exact h
  | cons entry entries ih => exact ih (mem_secrets_addEntry h)

/-- The secret of a valid entry stays, whatever entries follow. -/
theorem mem_secrets_of_readEntry {config : Config} {entries : List Json} {entry : Json}
    (hentry : entry ∈ entries) {route : Route} {secret : String}
    (hread : readEntry entry = .ok (route, secret)) :
    secret ∈ (config.addEntries entries).value.secrets := by
  induction entries generalizing config with
  | nil => simp at hentry
  | cons first entries ih =>
    rcases List.mem_cons.1 hentry with rfl | hentry
    · have hadded : secret ∈ (config.addEntry entry).value.secrets := by
        simp [addEntry, hread, add]
      exact mem_secrets_addEntries hadded entries
    · exact ih hentry

theorem mem_secrets_ofData {data : Json} {entries : List Json}
    (hentries : entries? data = some entries) {entry : Json} (hentry : entry ∈ entries)
    {route : Route} {secret : String} (hread : readEntry entry = .ok (route, secret)) :
    secret ∈ (ofData data).value.secrets := by
  simp only [ofData, hentries]
  exact mem_secrets_of_readEntry hentry hread

/-! ## Masked texts -/

/-- A text tells nothing of the webhooks in data: no secret of the configuration, so none of its
routes, and none of the entries whose place another one took. -/
structure Discreet (data : Json) (text : String) : Prop where
  secrets : ∀ s ∈ (ofData data).value.secrets, ¬ Occurs s text
  routes : ∀ entry ∈ (ofData data).value.routes,
    ∃ s, secretOf? entry.2.type entry.2.hook = some s ∧ ¬ Occurs s text
  entries : ∀ entries, entries? data = some entries → ∀ entry ∈ entries, ∀ route secret,
    readEntry entry = .ok (route, secret) →
      secretOf? route.type route.hook = some secret ∧ ¬ Occurs secret text

/-- It is enough that no secret of the configuration occurs. -/
theorem discreet_of_secrets {data : Json} {text : String}
    (h : ∀ s ∈ (ofData data).value.secrets, ¬ Occurs s text) : Discreet data text where
  secrets := h
  routes entry hentry := by
    obtain ⟨s, hs, heq⟩ := (guarded_ofData data).routes entry hentry
    exact ⟨s, heq, h s hs⟩
  entries entries hentries entry hentry route secret hread :=
    ⟨secretOf?_of_readEntry hread, h secret (mem_secrets_ofData hentries hentry hread)⟩

/-- Masking in any order of the secrets leaves a text that tells nothing. -/
theorem discreet_each {data : Json} {order : List String}
    (horder : order.Perm (Mask.ordered (ofData data).value.secrets)) (shown : String) :
    Discreet data (Mask.each order shown) := by
  have hmem {s : String} : s ∈ order ↔ s ∈ (ofData data).value.secrets ∧ s ≠ "" :=
    horder.mem_iff.trans Mask.mem_ordered
  have hmaskable := (guarded_ofData data).maskable
  refine discreet_of_secrets fun s hs => ?_
  exact Mask.not_occurs_each (fun t ht => hmaskable t (hmem.1 ht).1)
    (hmem.2 ⟨hs, (hmaskable s hs).ne_empty⟩) shown

theorem mask_eq_self {secrets : List String} {shown : String}
    (h : ∀ s ∈ secrets, ¬ Occurs s shown) : Mask.text secrets shown = shown :=
  Mask.each_eq_self fun s hs => h s (Mask.mem_ordered.1 hs).1

/-- **No secret of a configuration survives masking**, also if secrets of one length are taken in
another order. Masking again changes nothing, nor does masking a text without secrets. -/
theorem discreet_mask (data : Json) (shown : String) :
    Discreet data (Mask.text (ofData data).value.secrets shown) ∧
      (∀ order, order.Perm (Mask.ordered (ofData data).value.secrets) →
        Discreet data (Mask.each order shown)) ∧
      Mask.text (ofData data).value.secrets (Mask.text (ofData data).value.secrets shown)
        = Mask.text (ofData data).value.secrets shown ∧
      ((∀ s ∈ (ofData data).value.secrets, ¬ Occurs s shown) →
        Mask.text (ofData data).value.secrets shown = shown) := by
  have hmasked : Discreet data (Mask.text (ofData data).value.secrets shown) :=
    discreet_each (List.Perm.refl _) shown
  exact ⟨hmasked, fun order horder => discreet_each horder shown, mask_eq_self hmasked.secrets,
    mask_eq_self⟩

end Config

end AlertBridge
