import AlertBridge.Proofs.Text.Parts
import AlertBridge.Slack.Cell

/-!
# Bold parts and links at the start of a text

A reader of a bold part or a link finds one where, and only where, the text goes on with one: some
characters, the mark that closes them, and the rest. The closing mark begins with a character that
cannot stand among the characters in front of it, so there is no second way to cut the text.

Main statements: `bold?_eq_some_iff`, `link?_eq_some_iff`.
-/

namespace AlertBridge

variable {p : Char → Bool} {cs text label address rest : List Char}

/-- An address is found if the text goes on with one. -/
theorem linkAddress?_eq_some_iff : linkAddress? cs = some (address, rest) ↔
    address ≠ [] ∧ ')' ∉ address ∧ cs = address ++ ')' :: rest := by
  unfold linkAddress?
  constructor
  · intro h
    split at h
    · next c found after htake hdrop =>
      obtain ⟨rfl, rfl⟩ := Prod.mk.inj (Option.some.inj h)
      exact ⟨List.cons_ne_nil c found, takeWhile_ne_and_dropWhile_ne_iff.1 ⟨htake, hdrop⟩⟩
    · cases h
  · rintro ⟨hne, haddress⟩
    obtain ⟨htake, hdrop⟩ := takeWhile_ne_and_dropWhile_ne_iff.2 haddress
    obtain ⟨c, more, rfl⟩ := List.exists_cons_of_ne_nil hne
    rw [htake, hdrop]
    rfl

/-- A link is found if the text goes on with one. -/
theorem link?_eq_some_iff (hp : p ']' = false) : link? p cs = some (label, address, rest) ↔
    label ≠ [] ∧ (∀ c ∈ label, p c) ∧ address ≠ [] ∧ ')' ∉ address ∧
      cs = label ++ ']' :: '(' :: (address ++ ')' :: rest) := by
  unfold link?
  constructor
  · intro h
    split at h
    · next c found after htake hdrop =>
      obtain ⟨⟨there, behind⟩, hthere, hresult⟩ := Option.map_eq_some_iff.1 h
      simp only [Prod.mk.injEq] at hresult
      obtain ⟨rfl, rfl, rfl⟩ := hresult
      obtain ⟨hlabel, hcs⟩ := (takeWhile_and_dropWhile_iff hp).1 ⟨htake, hdrop⟩
      obtain ⟨hne, hmem, rfl⟩ := linkAddress?_eq_some_iff.1 hthere
      exact ⟨List.cons_ne_nil c found, hlabel, hne, hmem, hcs⟩
    · cases h
  · rintro ⟨hne, hlabel, haddress, hmem, hcs⟩
    obtain ⟨htake, hdrop⟩ := (takeWhile_and_dropWhile_iff hp).2 ⟨hlabel, hcs⟩
    have hthere : linkAddress? (address ++ ')' :: rest) = some (address, rest) :=
      linkAddress?_eq_some_iff.2 ⟨haddress, hmem, rfl⟩
    obtain ⟨c, more, rfl⟩ := List.exists_cons_of_ne_nil hne
    rw [htake, hdrop]
    simp only [hthere, Option.map_some]

namespace Cell

/-- A bold part is found if the text goes on with one. -/
theorem bold?_eq_some_iff : bold? cs = some (text, rest) ↔
    text ≠ [] ∧ '*' ∉ text ∧ cs = text ++ '*' :: '*' :: rest := by
  unfold bold?
  constructor
  · intro h
    split at h
    · next c found after htake hdrop =>
      obtain ⟨rfl, rfl⟩ := Prod.mk.inj (Option.some.inj h)
      exact ⟨List.cons_ne_nil c found, takeWhile_ne_and_dropWhile_ne_iff.1 ⟨htake, hdrop⟩⟩
    · cases h
  · rintro ⟨hne, htext⟩
    obtain ⟨htake, hdrop⟩ := takeWhile_ne_and_dropWhile_ne_iff.2 htext
    obtain ⟨c, more, rfl⟩ := List.exists_cons_of_ne_nil hne
    rw [htake, hdrop]
    rfl

end Cell

end AlertBridge
