import AlertBridge.Proofs.Config.Secrecy
import AlertBridge.Proofs.Text.Parts

/-!
# The token of a webhook

The address of a webhook is a beginning, which for Discord ends with a number and a slash, then the
token, and then anything. This alone does not say where the token ends. It is the longest text that
can be one, and as a beginning cannot be another beginning and more, there is no second way to cut
the address.

## Main definitions

* `IsFront`: what stands in front of a token
* `IsToken`: the longest token of an address

## Main results

* `secretOf?_eq_some_iff`: the token is found, and nothing else is
-/

namespace AlertBridge

/-- What stands in front of the token of a webhook: a beginning, and for Discord a number and a
slash. Everything that is not for Slack is taken to be for Discord. -/
def IsFront (type : String) (front : List Char) : Prop :=
  if type = "slack" then front = slackBeginning.toList
  else ∃ beginning ∈ discordBeginnings, ∃ digits : List Char,
    digits ≠ [] ∧ (∀ c ∈ digits, isAsciiDigit c) ∧ front = beginning.toList ++ digits ++ ['/']

/-- The character can stand in a token. -/
def tokenChar (type : String) : Char → Bool :=
  if type = "slack" then isTokenPathChar else isTokenChar

/-- The address has something in it that can be a token: behind its front, and not empty. -/
structure HasToken (type : String) (hook token : List Char) : Prop where
  exists_front : ∃ front rest, IsFront type front ∧ hook = front ++ token ++ rest
  ne_nil : token ≠ []
  chars : ∀ c ∈ token, tokenChar type c

/-- The token of an address is the longest that it has. -/
structure IsToken (type hook token : String) : Prop where
  hasToken : HasToken type hook.toList token.toList
  longest : ∀ other, HasToken type hook.toList other → other.length ≤ token.toList.length

variable {type hook token : String} {cs front rest : List Char}

/-! ## The front -/

/-- No beginning of a Discord webhook starts like another one. -/
theorem discordBeginnings_disjoint : ∀ b ∈ discordBeginnings, ∀ b' ∈ discordBeginnings,
    b.toList <+: b'.toList → b = b' := by
  decide

theorem beginning_unique {b b' : String} (hb : b ∈ discordBeginnings)
    (hb' : b' ∈ discordBeginnings) {xs ys : List Char} (h : b.toList ++ xs = b'.toList ++ ys) :
    b = b' := by
  have hprefix : b.toList <+: b'.toList ++ ys := ⟨xs, h⟩
  rcases List.prefix_or_prefix_of_prefix hprefix (List.prefix_append _ _) with hle | hle
  · exact discordBeginnings_disjoint b hb b' hb' hle
  · exact (discordBeginnings_disjoint b' hb' b hb hle).symm

theorem stripAny?_discordBeginnings_eq_some_iff :
    stripAny? discordBeginnings cs = some rest ↔
      ∃ beginning ∈ discordBeginnings, cs = beginning.toList ++ rest := by
  constructor
  · intro h
    obtain ⟨beginning, hmem, hstrip⟩ := List.exists_of_findSome?_eq_some h
    exact ⟨beginning, hmem, stripStart?_eq_some_iff.1 hstrip⟩
  · rintro ⟨beginning, hmem, rfl⟩
    cases hfound : stripAny? discordBeginnings (beginning.toList ++ rest) with
    | none =>
      have hnone := List.findSome?_eq_none_iff.1 hfound beginning hmem
      rw [stripStart?_eq_some_iff.2 rfl] at hnone
      cases hnone
    | some found =>
      obtain ⟨other, hother, hstrip⟩ := List.exists_of_findSome?_eq_some hfound
      have heq := stripStart?_eq_some_iff.1 hstrip
      obtain rfl := beginning_unique hmem hother heq
      exact congrArg some (List.append_cancel_left heq).symm

/-- A number ends in front of a slash. -/
theorem number_iff {digits : List Char} :
    cs.takeWhile isAsciiDigit = digits ∧ cs.dropWhile isAsciiDigit = '/' :: rest ↔
      (∀ c ∈ digits, isAsciiDigit c) ∧ cs = digits ++ '/' :: rest :=
  takeWhile_and_dropWhile_iff (by decide)

/-- A front is not another front and more. -/
theorem IsFront.unique {front front' rest rest' : List Char} (h : IsFront type front)
    (h' : IsFront type front') (heq : front ++ rest = front' ++ rest') : front = front' := by
  unfold IsFront at h h'
  split at h
  · rw [if_pos ‹_›] at h'
    exact h.trans h'.symm
  · rw [if_neg ‹_›] at h'
    obtain ⟨b, hb, digits, -, hdigits, rfl⟩ := h
    obtain ⟨b', hb', digits', -, hdigits', rfl⟩ := h'
    simp only [List.append_assoc, List.singleton_append] at heq
    obtain rfl := beginning_unique hb hb' heq
    have hnumber := (number_iff.2 ⟨hdigits, Eq.refl (digits ++ '/' :: rest)⟩).1
    have hnumber' := (number_iff.2 ⟨hdigits', List.append_cancel_left heq⟩).1
    rw [← hnumber, hnumber']

/-! ## Reading -/

theorem leading?_eq_some_iff {p : Char → Bool} {found : List Char} :
    leading? p cs = some (found, rest) ↔
      found ≠ [] ∧ cs.takeWhile p = found ∧ cs.dropWhile p = rest := by
  unfold leading?
  split
  · next hnil =>
    refine iff_of_false (by simp) ?_
    rintro ⟨hne, hfound, -⟩
    exact hne (hfound ▸ hnil)
  · next hne =>
    rw [Option.some.injEq, Prod.mk.injEq]
    refine ⟨fun h => ⟨?_, h⟩, fun h => h.2⟩
    rw [← h.1]
    exact hne

/-- The token for Slack is all that can be one behind the beginning. -/
theorem slackSecret?_eq_some_iff : slackSecret? cs = some token ↔
    ∃ rest, cs = slackBeginning.toList ++ rest ∧ token.toList ≠ [] ∧
      rest.takeWhile isTokenPathChar = token.toList := by
  unfold slackSecret?
  constructor
  · intro h
    obtain ⟨rest, hstrip, h⟩ := Option.bind_eq_some_iff.1 h
    obtain ⟨⟨found, left⟩, hfound, h⟩ := Option.bind_eq_some_iff.1 h
    obtain rfl := Option.some.inj h
    obtain ⟨hne, htake, -⟩ := leading?_eq_some_iff.1 hfound
    exact ⟨rest, stripStart?_eq_some_iff.1 hstrip, by simpa using hne, by simpa using htake⟩
  · rintro ⟨rest, rfl, hne, htake⟩
    have hfound := leading?_eq_some_iff.2 ⟨hne, htake, rfl⟩
    simp [stripStart?_eq_some_iff.2 rfl, hfound]

/-- The token for Discord is all that can be one behind the beginning, the number and the slash. -/
theorem discordSecret?_eq_some_iff : discordSecret? cs = some token ↔
    ∃ beginning ∈ discordBeginnings, ∃ digits rest : List Char,
      digits ≠ [] ∧ (∀ c ∈ digits, isAsciiDigit c) ∧
      cs = beginning.toList ++ (digits ++ '/' :: rest) ∧ token.toList ≠ [] ∧
      rest.takeWhile isTokenChar = token.toList := by
  unfold discordSecret?
  constructor
  · intro h
    obtain ⟨behind, hstrip, h⟩ := Option.bind_eq_some_iff.1 h
    obtain ⟨⟨digits, tail⟩, hdigits, h⟩ := Option.bind_eq_some_iff.1 h
    obtain ⟨beginning, hbeginning, hcs⟩ := stripAny?_discordBeginnings_eq_some_iff.1 hstrip
    obtain ⟨hne, htake, hdrop⟩ := leading?_eq_some_iff.1 hdigits
    split at h
    · next rest heq =>
      obtain ⟨-, rfl⟩ := Prod.mk.inj heq
      obtain ⟨⟨found, left⟩, hfound, h⟩ := Option.bind_eq_some_iff.1 h
      obtain rfl := Option.some.inj h
      obtain ⟨hne', htake', -⟩ := leading?_eq_some_iff.1 hfound
      obtain ⟨hchars, rfl⟩ := number_iff.1 ⟨htake, hdrop⟩
      exact ⟨beginning, hbeginning, digits, rest, hne, hchars, hcs, by simpa using hne',
        by simpa using htake'⟩
    · cases h
  · rintro ⟨beginning, hbeginning, digits, rest, hne, hdigits, hcs, hne', htake⟩
    have hstrip := stripAny?_discordBeginnings_eq_some_iff.2 ⟨beginning, hbeginning, hcs⟩
    have hnumber := leading?_eq_some_iff.2
      ⟨hne, number_iff.2 ⟨hdigits, Eq.refl (digits ++ '/' :: rest)⟩⟩
    have hfound := leading?_eq_some_iff.2 ⟨hne', htake, rfl⟩
    simp [hstrip, hnumber, hfound]

/-- The token is all that can be one behind the front. -/
theorem secretOf?_eq_some_iff_front : secretOf? type hook = some token ↔
    ∃ front rest, IsFront type front ∧ hook.toList = front ++ rest ∧ token.toList ≠ [] ∧
      rest.takeWhile (tokenChar type) = token.toList := by
  unfold secretOf? IsFront tokenChar
  split
  · rw [slackSecret?_eq_some_iff]
    simp
  · rw [discordSecret?_eq_some_iff]
    constructor
    · rintro ⟨beginning, hbeginning, digits, rest, hne, hdigits, hhook, htoken⟩
      refine ⟨_, rest, ⟨beginning, hbeginning, digits, hne, hdigits, rfl⟩, ?_, htoken⟩
      rw [hhook]
      simp
    · rintro ⟨front, rest, ⟨beginning, hbeginning, digits, hne, hdigits, rfl⟩, hhook, htoken⟩
      refine ⟨beginning, hbeginning, digits, rest, hne, hdigits, ?_, htoken⟩
      rw [hhook]
      simp

/-- **The token of an address is found**, and nothing else is. -/
theorem secretOf?_eq_some_iff : secretOf? type hook = some token ↔ IsToken type hook token := by
  rw [secretOf?_eq_some_iff_front]
  constructor
  · rintro ⟨front, rest, hfront, hhook, hne, htake⟩
    refine ⟨⟨⟨front, rest.dropWhile (tokenChar type), hfront, ?_⟩, hne, ?_⟩, ?_⟩
    · rw [List.append_assoc, ← htake, List.takeWhile_append_dropWhile, hhook]
    · rw [← htake]
      exact fun c hc => List.mem_takeWhile_imp hc
    · rintro other ⟨⟨front', rest', hfront', hhook'⟩, -, hchars⟩
      have heq : front ++ rest = front' ++ (other ++ rest') := by
        rw [← hhook, hhook', List.append_assoc]
      obtain rfl := hfront.unique hfront' heq
      rw [← htake, List.append_cancel_left heq, List.takeWhile_append_of_pos hchars]
      simp
  · rintro ⟨⟨⟨front, rest, hfront, hhook⟩, hne, hchars⟩, hlongest⟩
    have htake : (token.toList ++ rest).takeWhile (tokenChar type) =
        token.toList ++ rest.takeWhile (tokenChar type) := List.takeWhile_append_of_pos hchars
    have hmore : HasToken type hook.toList (token.toList ++ rest.takeWhile (tokenChar type)) := by
      refine ⟨⟨front, rest.dropWhile (tokenChar type), hfront, ?_⟩, by simp [hne], ?_⟩
      · rw [hhook]
        simp
      · rw [← htake]
        exact fun c hc => List.mem_takeWhile_imp hc
    have hnone : rest.takeWhile (tokenChar type) = [] := by
      have hle := hlongest _ hmore
      rw [List.length_append] at hle
      exact List.length_eq_zero_iff.1 (by omega)
    refine ⟨front, token.toList ++ rest, hfront, ?_, hne, ?_⟩
    · rw [hhook, List.append_assoc]
    · rw [htake, hnone, List.append_nil]

end AlertBridge
