import AlertBridge.Proofs.Slack.Marks
import Mathlib.Data.List.Chain

/-!
# The parts of a cell

A cell is cut at its tokens, from left to right, and what lies between two tokens is a gap. A gap
grows character by character, each one where no token starts. So no token can be found in a gap:
it would start at one of its characters. A token is the written form of a bold part or a link that
is closed by the first mark that can close it, and when the token is read for itself, the part is
found again.

Hence the parts are the cell, written back; no two plain parts meet, and none of them has anything
in it that could be marked.

## Main definitions

* `CellElement.written`: a part with its marks
* `IsMarked e`: the part is bold or a link, and has no mark in it that closes it early
* `IsReading text parts`: the parts are a text, cut wherever it can be

## Main results

* `token?_eq_some_iff`: a token is the written form of a marked part
* `ofToken_written`: a token read for itself is this part again
* `isReading_ofValue`: the parts of a cell
-/

namespace AlertBridge

namespace CellElement

/-- What a part shows. -/
def text : CellElement → List Char
  | plain text => text
  | bold text => text
  | link text _ => text

/-- A part with its marks. -/
def written : CellElement → List Char
  | plain text => text
  | bold text => '*' :: '*' :: text ++ ['*', '*']
  | link text address => '[' :: text ++ ']' :: '(' :: address ++ [')']

/-- The part has no marks. -/
def isPlain : CellElement → Bool
  | plain _ => true
  | _ => false

end CellElement

/-- A bold part or a link in which nothing is empty and no character closes it early. -/
inductive IsMarked : CellElement → Prop
  | bold {text : List Char} (hne : text ≠ []) (hstar : '*' ∉ text) : IsMarked (.bold text)
  | link {text address : List Char} (hne : text ≠ []) (hbracket : ']' ∉ text)
      (haddress : address ≠ []) (hclose : ')' ∉ address) : IsMarked (.link text address)

theorem IsMarked.isPlain {e : CellElement} (h : IsMarked e) : e.isPlain = false := by
  cases h <;> rfl

theorem IsMarked.text_ne_nil {e : CellElement} (h : IsMarked e) : e.text ≠ [] := by
  cases h with
  | bold hne _ => exact hne
  | link hne _ _ _ => exact hne

theorem IsMarked.written_ne_nil {e : CellElement} (h : IsMarked e) : e.written ≠ [] := by
  cases h <;> exact List.cons_ne_nil _ _

namespace Cell

variable {cs rest : List Char} {ps : List Piece} {e : CellElement}

/-! ## Tokens -/

theorem written_bold_append (text rest : List Char) :
    (CellElement.bold text).written ++ rest = '*' :: '*' :: (text ++ '*' :: '*' :: rest) := by
  simp [CellElement.written]

theorem written_link_append (text address rest : List Char) :
    (CellElement.link text address).written ++ rest =
      '[' :: (text ++ ']' :: '(' :: (address ++ ')' :: rest)) := by
  simp [CellElement.written]

/-- A token is the written form of a marked part. -/
theorem token?_eq_some_iff {token : List Char} : token? cs = some (token, rest) ↔
    ∃ e, IsMarked e ∧ token = e.written ∧ cs = token ++ rest := by
  constructor
  · intro h
    unfold token? at h
    split at h
    · next inner =>
      obtain ⟨⟨text, behind⟩, hbold, hresult⟩ := Option.map_eq_some_iff.1 h
      obtain ⟨rfl, rfl⟩ := Prod.mk.inj hresult
      obtain ⟨hne, hstar, rfl⟩ := bold?_eq_some_iff.1 hbold
      exact ⟨.bold text, .bold hne hstar, rfl, by simp⟩
    · next inner =>
      obtain ⟨⟨text, address, behind⟩, hlink, hresult⟩ := Option.map_eq_some_iff.1 h
      obtain ⟨rfl, rfl⟩ := Prod.mk.inj hresult
      obtain ⟨hne, hbracket, haddress, hclose, rfl⟩ := (link?_eq_some_iff (by decide)).1 hlink
      exact ⟨.link text address, .link hne (forall_ne_iff.1 hbracket) haddress hclose, rfl, by simp⟩
    · cases h
  · rintro ⟨e, he, rfl, rfl⟩
    cases he with
    | @bold text hne hstar =>
      have hbold : bold? (text ++ '*' :: '*' :: rest) = some (text, rest) :=
        bold?_eq_some_iff.2 ⟨hne, hstar, rfl⟩
      rw [written_bold_append]
      show (bold? _).map _ = _
      rw [hbold]
      rfl
    | @link text address hne hbracket haddress hclose =>
      have hlink : link? (· ≠ ']') (text ++ ']' :: '(' :: (address ++ ')' :: rest)) =
          some (text, address, rest) :=
        (link?_eq_some_iff (by decide)).2
          ⟨hne, forall_ne_iff.2 hbracket, haddress, hclose, rfl⟩
      rw [written_link_append]
      show (link? (· ≠ ']') _).map _ = _
      rw [hlink]
      rfl

/-- Where no token starts, no marked part does. -/
theorem not_prefix_of_token?_eq_none (h : token? cs = none) (he : IsMarked e) :
    ¬ e.written <+: cs := by
  rintro ⟨rest, rfl⟩
  have hsome : token? (e.written ++ rest) = some (e.written, rest) :=
    token?_eq_some_iff.2 ⟨e, he, rfl, rfl⟩
  rw [h] at hsome
  cases hsome

/-- A token read for itself is the part that it was made from. -/
theorem ofToken_written (he : IsMarked e) : ofToken e.written = e := by
  cases he with
  | @bold text hne hstar =>
    show CellElement.bold ((text ++ ['*', '*']).take ((text ++ ['*', '*']).length - 2)) = _
    rw [List.length_append]
    exact congrArg CellElement.bold List.take_left
  | @link text address hne hbracket haddress hclose =>
    have hlink : link? (· ≠ ']') (text ++ ']' :: '(' :: (address ++ [')'])) =
        some (text, address, []) :=
      (link?_eq_some_iff (by decide)).2 ⟨hne, forall_ne_iff.2 hbracket, haddress, hclose, rfl⟩
    have hwritten : (CellElement.link text address).written =
        '[' :: (text ++ ']' :: '(' :: (address ++ [')'])) := by
      rw [← written_link_append, List.append_nil]
    have hfull : fullLink? (CellElement.link text address).written = some (text, address) := by
      rw [hwritten]
      show (link? (· ≠ ']') _).bind _ = _
      rw [hlink]
      rfl
    rw [hwritten] at hfull ⊢
    show ((fullLink? _).map _).getD _ = _
    rw [hfull]
    rfl

/-! ## Pieces -/

/-- What a piece takes of the text. -/
def Piece.text : Piece → List Char
  | .gap text => text
  | .token text => text

/-- The piece stands between tokens. -/
def Piece.isGap : Piece → Bool
  | .gap _ => true
  | .token _ => false

/-- A text is cut at its tokens. -/
structure IsCut (cs : List Char) (ps : List Piece) : Prop where
  text : ps.flatMap Piece.text = cs
  gap_ne_nil : ∀ gap, .gap gap ∈ ps → gap ≠ []
  gap_free : ∀ gap, .gap gap ∈ ps → ∀ e, IsMarked e → ¬ e.written <:+: gap
  tokens : ∀ token, .token token ∈ ps → ∃ e, IsMarked e ∧ token = e.written
  apart : ps.IsChain fun p q => ¬ (p.isGap ∧ q.isGap)

theorem isCut_nil : IsCut [] [] := ⟨rfl, by simp, by simp, by simp, .nil⟩

theorem IsCut.token (h : IsCut rest ps) (he : IsMarked e) :
    IsCut (e.written ++ rest) (.token e.written :: ps) where
  text := by rw [List.flatMap_cons, h.text]; rfl
  gap_ne_nil gap hgap := h.gap_ne_nil gap (by simpa using hgap)
  gap_free gap hgap := h.gap_free gap (by simpa using hgap)
  tokens token htoken := by
    rcases List.mem_cons.1 htoken with heq | hmem
    · exact ⟨e, he, Piece.token.inj heq⟩
    · exact h.tokens token hmem
  apart := by
    rw [List.isChain_cons]
    exact ⟨fun q _ => by simp [Piece.isGap], h.apart⟩

/-- A gap stays free of marked parts if it grows by a character where no token starts. -/
theorem not_infix_cons {c : Char} {gap : List Char} (hnone : token? (c :: cs) = none)
    (hgap : gap <+: cs) (hfree : ∀ e, IsMarked e → ¬ e.written <:+: gap) :
    ∀ e, IsMarked e → ¬ e.written <:+: c :: gap := by
  intro e he hinfix
  rcases List.infix_cons_iff.1 hinfix with hstart | hlater
  · exact not_prefix_of_token?_eq_none hnone he
      (hstart.trans ((List.prefix_cons_inj c).2 hgap))
  · exact hfree e he hlater

/-- A gap goes in front of a cut that does not begin with another gap. -/
theorem IsCut.gap {gap : List Char} (h : IsCut rest ps) (hne : gap ≠ [])
    (hfree : ∀ e, IsMarked e → ¬ e.written <:+: gap) (hnext : ∀ p ∈ ps.head?, ¬ p.isGap) :
    IsCut (gap ++ rest) (.gap gap :: ps) where
  text := by rw [List.flatMap_cons, h.text]; rfl
  gap_ne_nil other hother := by
    rcases List.mem_cons.1 hother with heq | hmem
    · rwa [Piece.gap.inj heq]
    · exact h.gap_ne_nil other hmem
  gap_free other hother := by
    rcases List.mem_cons.1 hother with heq | hmem
    · rwa [Piece.gap.inj heq]
    · exact h.gap_free other hmem
  tokens token htoken := h.tokens token (by simpa using htoken)
  apart := by
    rw [List.isChain_cons]
    exact ⟨fun p hp hgaps => hnext p hp hgaps.2, h.apart⟩

/-- What stands behind a gap in front. -/
theorem IsCut.of_gap {gap : List Char} (h : IsCut cs (.gap gap :: ps)) :
    ∃ rest, cs = gap ++ rest ∧ IsCut rest ps ∧ ∀ p ∈ ps.head?, ¬ p.isGap := by
  obtain ⟨htext, hne, hfree, htokens, hapart⟩ := h
  obtain ⟨hnext, hapart⟩ := List.isChain_cons.1 hapart
  refine ⟨ps.flatMap Piece.text, htext.symm, ⟨rfl, ?_, ?_, ?_, hapart⟩, ?_⟩
  · exact fun other hother => hne other (List.mem_cons_of_mem _ hother)
  · exact fun other hother => hfree other (List.mem_cons_of_mem _ hother)
  · exact fun token htoken => htokens token (List.mem_cons_of_mem _ htoken)
  · exact fun p hp hgap => hnext p hp ⟨rfl, hgap⟩

theorem IsCut.consGap {c : Char} (h : IsCut cs ps) (hnone : token? (c :: cs) = none) :
    IsCut (c :: cs) (consGap c ps) := by
  fun_cases Cell.consGap c ps with
  | case1 gap ps =>
    have hfree := h.gap_free gap List.mem_cons_self
    obtain ⟨rest, rfl, hrest, hnext⟩ := h.of_gap
    exact hrest.gap (List.cons_ne_nil c gap)
      (not_infix_cons hnone (List.prefix_append gap rest) hfree) hnext
  | case2 ps hps =>
    refine h.gap (List.cons_ne_nil c []) (not_infix_cons hnone List.nil_prefix ?_) ?_
    · intro e he hinfix
      exact he.written_ne_nil (List.infix_nil.1 hinfix)
    · intro p hp hgap
      obtain ⟨others, rfl⟩ := List.head?_eq_some_iff.1 hp
      cases p with
      | gap gap => exact hps gap others rfl
      | token token => cases hgap

theorem isCut_pieces (cs : List Char) : IsCut cs (pieces cs) := by
  fun_induction pieces cs with
  | case1 => exact isCut_nil
  | case2 c cs token rest hsome ih =>
    obtain ⟨e, he, rfl, htext⟩ := token?_eq_some_iff.1 hsome
    rw [htext]
    exact ih.token he
  | case3 c cs hnone ih => exact ih.consGap hnone

/-! ## Parts -/

/-- The parts of a text: written back they are the text, and the text is cut wherever it can be.
An empty text has one empty part. -/
structure IsReading (text : List Char) (parts : List CellElement) : Prop where
  written : parts.flatMap CellElement.written = text
  text_ne_nil : text ≠ [] → ∀ e ∈ parts, e.text ≠ []
  of_nil : text = [] → parts = [.plain []]
  apart : parts.IsChain fun a b => ¬ (a.isPlain ∧ b.isPlain)
  plain : ∀ t, .plain t ∈ parts → ∀ e, IsMarked e → ¬ e.written <:+: t
  marked : ∀ e ∈ parts, e.isPlain ∨ IsMarked e

theorem isReading_nil : IsReading [] [.plain []] where
  written := rfl
  text_ne_nil hne := absurd rfl hne
  of_nil _ := rfl
  apart := List.isChain_singleton _
  plain t ht e he := by
    obtain rfl : t = [] := by simpa using ht
    exact fun hinfix => he.written_ne_nil (List.infix_nil.1 hinfix)
  marked e he := by
    rw [List.mem_singleton.1 he]
    exact Or.inl rfl

/-- What a piece stands for is as the piece says: plain if it is a gap, and else marked. -/
theorem IsCut.element (h : IsCut cs ps) {p : Piece} (hp : p ∈ ps) :
    p.element.written = p.text ∧ p.element.isPlain = p.isGap ∧ p.element.text ≠ [] ∧
      (p.element.isPlain ∨ IsMarked p.element) := by
  cases p with
  | gap gap => exact ⟨rfl, rfl, h.gap_ne_nil gap hp, Or.inl rfl⟩
  | token token =>
    obtain ⟨e, he, rfl⟩ := h.tokens token hp
    show (ofToken e.written).written = e.written ∧ (ofToken e.written).isPlain = false ∧
      (ofToken e.written).text ≠ [] ∧ ((ofToken e.written).isPlain ∨ IsMarked (ofToken e.written))
    rw [ofToken_written he]
    exact ⟨rfl, he.isPlain, he.text_ne_nil, Or.inr he⟩

theorem IsCut.isReading (h : IsCut cs ps) (hne : cs ≠ []) :
    IsReading cs (ps.map Piece.element) where
  written := by
    rw [List.flatMap_map, ← h.text]
    exact List.flatMap_congr fun p hp => (h.element hp).1
  text_ne_nil _ e he := by
    obtain ⟨p, hp, rfl⟩ := List.mem_map.1 he
    exact (h.element hp).2.2.1
  of_nil hnil := absurd hnil hne
  apart := by
    rw [List.isChain_map]
    refine h.apart.imp_of_mem_imp ?_
    intro p q hp hq hpq
    rwa [(h.element hp).2.1, (h.element hq).2.1]
  plain t ht e he := by
    obtain ⟨p, hp, hplain⟩ := List.mem_map.1 ht
    have hgap := (h.element hp).2.1
    rw [hplain] at hgap
    cases p with
    | gap gap =>
      obtain rfl := CellElement.plain.inj hplain
      exact h.gap_free gap hp e he
    | token token => cases hgap
  marked e he := by
    obtain ⟨p, hp, rfl⟩ := List.mem_map.1 he
    exact (h.element hp).2.2.2

theorem isReading_ofText (s : String) : IsReading s.toList (ofText s) := by
  have hcut := isCut_pieces s.toList
  unfold ofText elements
  split
  · next hnil =>
    have htext := hcut.text
    rw [List.map_eq_nil_iff.1 hnil, List.flatMap_nil] at htext
    rw [← htext]
    exact isReading_nil
  · next hne =>
    refine hcut.isReading fun hnil => hne ?_
    rw [hnil, pieces, List.map_nil]

/-- **The parts of a cell are its text**: nothing of it is lost when they are written back, plain
parts do not meet, and nothing in a plain part could have been marked. No token is left to be shown
as it is. -/
theorem isReading_ofValue (s : String) :
    IsReading s.toList (ofValue (.str s)) ∧
      ∀ token, .token token ∈ pieces s.toList →
        ∃ e, IsMarked e ∧ token = e.written ∧ ofToken token = e := by
  refine ⟨?_, fun token htoken => ?_⟩
  · have htext : ofValue (.str s) = ofText s := by
      by_cases hs : s = "" <;> simp [ofValue, Json.orElse, Json.truthy, Json.shown, hs]
    rw [htext]
    exact isReading_ofText s
  · obtain ⟨e, he, rfl⟩ := (isCut_pieces s.toList).tokens token htoken
    exact ⟨e, he, rfl, ofToken_written he⟩

end Cell

end AlertBridge
