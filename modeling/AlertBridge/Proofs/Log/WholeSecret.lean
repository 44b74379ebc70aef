import AlertBridge.Proofs.Log.Masking
import AlertBridge.Proofs.Text.Seam

/-!
# A secret is masked as a whole

Where no occurrence of a secret crosses a seam of the text, masking may be done on both sides of
the seam for itself: the passes change both sides, but none makes a secret cross. So a text in
which a secret stands apart from all other occurrences is masked in front of it, in its place and
behind it. In its place stands one mask, for whatever secrets it contains are shorter, and their
turn comes when it is masked already.

Secrets of the same length may come in any order. An empty secret is none, and nothing is put in
its place.

## Main definitions

* `LiesApart word u t v`: no occurrence of the word reaches from one of the parts into another
* `IsOrder secrets order`: an order in which secrets are masked

## Main results

* `each_append`: masking on both sides of a seam
* `each_self`: one mask stands for a secret
* `text_around_secret`: masking around a secret
* `text_around_empty_secret`: nothing stands for an empty secret
-/

namespace AlertBridge

/-- Every occurrence of a word in `u ++ t ++ v` lies in one of the three parts. -/
def LiesApart (word u t v : String) : Prop :=
  ∀ place ≤ (u ++ t ++ v).length, word.toList <+: (u ++ t ++ v).toList.drop place →
    place + word.length ≤ u.length ∨
      u.length ≤ place ∧ place + word.length ≤ u.length + t.length ∨
      u.length + t.length ≤ place

instance (word u t v : String) : Decidable (LiesApart word u t v) :=
  inferInstanceAs (Decidable (∀ place ≤ (u ++ t ++ v).length, _))

variable {word u t v w : String} {secrets order : List String}

/-- Where an occurrence with `before` in front of it lies. -/
theorem LiesApart.place (h : LiesApart word u t v) {before after : List Char}
    (heq : u.toList ++ t.toList ++ v.toList = before ++ word.toList ++ after) :
    before.length + word.length ≤ u.length ∨
      u.length ≤ before.length ∧ before.length + word.length ≤ u.length + t.length ∨
      u.length + t.length ≤ before.length := by
  have htext : (u ++ t ++ v).toList = before ++ (word.toList ++ after) := by
    rw [String.toList_append, String.toList_append, heq, List.append_assoc]
  apply h before.length
  · rw [← String.length_toList, htext, List.length_append]
    exact Nat.le_add_right _ _
  · rw [htext, List.drop_left]
    exact List.prefix_append _ _

/-- A word that lies apart does not cross the seam in front of the part in the middle. -/
theorem LiesApart.not_crosses_front (h : LiesApart word u t v) :
    ¬ Crosses word.toList u.toList (t ++ v).toList := by
  rintro ⟨front, back, hfront, hback, hword, ⟨before, hbefore⟩, ⟨after, hafter⟩⟩
  have heq : u.toList ++ t.toList ++ v.toList = before ++ word.toList ++ after := by
    rw [List.append_assoc, ← String.toList_append, ← hbefore, ← hafter, hword]
    simp only [List.append_assoc]
  have hplace := h.place heq
  have hu := congrArg List.length hbefore
  have hlength := congrArg List.length hword
  simp only [List.length_append, String.length_toList] at hu hlength
  have hpos := List.length_pos_of_ne_nil hfront
  have hpos' := List.length_pos_of_ne_nil hback
  omega

/-- A word that lies apart does not cross the seam behind the part in the middle. -/
theorem LiesApart.not_crosses_back (h : LiesApart word u t v) :
    ¬ Crosses word.toList t.toList v.toList := by
  rintro ⟨front, back, hfront, hback, hword, ⟨before, hbefore⟩, ⟨after, hafter⟩⟩
  have heq : u.toList ++ t.toList ++ v.toList = u.toList ++ before ++ word.toList ++ after := by
    rw [← hbefore, ← hafter, hword]
    simp only [List.append_assoc]
  have hplace := h.place heq
  have ht := congrArg List.length hbefore
  have hlength := congrArg List.length hword
  simp only [List.length_append, String.length_toList] at hplace ht hlength
  have hpos := List.length_pos_of_ne_nil hfront
  have hpos' := List.length_pos_of_ne_nil hback
  omega

namespace Mask

/-! ## Both sides of a seam -/

theorem replaceAll_append {secret : String} (h : Maskable secret)
    (hseam : ¬ Crosses secret.toList u.toList w.toList) :
    replaceAll secret mark (u ++ w) = replaceAll secret mark u ++ replaceAll secret mark w := by
  rw [replaceAll, String.toList_append, replaceChars_append (toList_ne_nil_of_maskable h) hseam,
    String.ofList_append]
  rfl

theorem crosses_of_crosses_replaceAll {secret other : String} (h : Maskable secret)
    (hother : Maskable other) (hcrosses : Crosses secret.toList (replaceAll other mark u).toList
      (replaceAll other mark w).toList) : Crosses secret.toList u.toList w.toList := by
  rw [replaceAll, replaceAll, String.toList_ofList, String.toList_ofList] at hcrosses
  exact hcrosses.of_replaceChars (toList_ne_nil_of_maskable hother) (by decide)
    (not_mem_of_mem_mark h)

/-- Masking a text is masking its two parts if no secret crosses the seam. -/
theorem each_append (hsecrets : ∀ s ∈ secrets, Maskable s)
    (hseam : ∀ s ∈ secrets, ¬ Crosses s.toList u.toList w.toList) :
    each secrets (u ++ w) = each secrets u ++ each secrets w := by
  induction secrets generalizing u w with
  | nil => rfl
  | cons secret secrets ih =>
    obtain ⟨hsecret, hrest⟩ := List.forall_mem_cons.1 hsecrets
    obtain ⟨hfirst, hothers⟩ := List.forall_mem_cons.1 hseam
    rw [each_cons, each_cons, each_cons, replaceAll_append hsecret hfirst]
    apply ih hrest
    intro s hs hcrosses
    exact hothers s hs (crosses_of_crosses_replaceAll (hrest s hs) hsecret hcrosses)

/-! ## The place of a secret -/

theorem replaceAll_self {secret : String} (h : Maskable secret) :
    replaceAll secret mark secret = mark := by
  have hself : replaceChars secret.toList mark.toList (secret.toList ++ []) =
      mark.toList ++ replaceChars secret.toList mark.toList [] :=
    replaceChars_append_self (toList_ne_nil_of_maskable h) []
  rw [List.append_nil, replaceChars_nil_text, List.append_nil] at hself
  rw [replaceAll, hself, String.ofList_toList]

/-- No secret occurs in the mask. -/
theorem not_occurs_mark {secret : String} (h : Maskable secret) : ¬ Occurs secret mark := by
  intro hoccurs
  obtain ⟨c, cs, hchars⟩ := List.exists_cons_of_ne_nil (toList_ne_nil_of_maskable h)
  have hc : c ∈ secret.toList := hchars ▸ List.mem_cons_self
  exact not_mem_of_mem_mark h c (hoccurs.subset hc) hc

/-- A secret does not occur in another one that is not longer. -/
theorem not_occurs_of_length_le {secret other : String} (hlength : other.length ≤ secret.length)
    (hne : secret ≠ other) : ¬ Occurs secret other := by
  intro hoccurs
  have hle := hoccurs.length_le
  rw [String.length_toList, String.length_toList] at hle
  have hlist : secret.toList = other.toList := hoccurs.sublist.eq_of_length_le
    (by rw [String.length_toList, String.length_toList]; exact hlength)
  exact hne (String.toList_inj.1 hlist)

/-- If no secret comes before a longer one, one mask stands for a secret as a whole. -/
theorem each_self (hsecrets : ∀ s ∈ order, Maskable s)
    (hlongest : order.Pairwise fun a b => b.length ≤ a.length) (ht : t ∈ order) :
    each order t = mark := by
  induction order with
  | nil => cases ht
  | cons secret order ih =>
    obtain ⟨hsecret, hrest⟩ := List.forall_mem_cons.1 hsecrets
    obtain ⟨hshorter, hlongest⟩ := List.pairwise_cons.1 hlongest
    rw [each_cons]
    by_cases heq : secret = t
    · rw [heq, replaceAll_self (heq ▸ hsecret)]
      exact each_eq_self fun s hs => not_occurs_mark (hrest s hs)
    · have ht : t ∈ order := (List.mem_cons.1 ht).resolve_left fun h => heq h.symm
      rw [replaceAll_eq_self (not_occurs_of_length_le (hshorter t ht) heq)]
      exact ih hrest hlongest ht

/-! ## Texts around a secret -/

/-- An order in which secrets are masked: all that are not empty, and none before a longer one. -/
structure IsOrder (secrets order : List String) : Prop where
  perm : order.Perm (ordered secrets)
  longestFirst : order.Pairwise fun a b => b.length ≤ a.length

theorem isOrder_ordered (secrets : List String) : IsOrder secrets (ordered secrets) where
  perm := List.Perm.refl _
  longestFirst := by
    have hsorted : (ordered secrets).Pairwise fun a b => decide (b.length ≤ a.length) = true := by
      apply List.pairwise_mergeSort
      · intro a b c hab hbc
        simp only [decide_eq_true_eq] at hab hbc ⊢
        omega
      · intro a b
        simp only [Bool.or_eq_true, decide_eq_true_eq]
        omega
    exact hsorted.imp fun h => of_decide_eq_true h

theorem IsOrder.mem_iff (h : IsOrder secrets order) {s : String} :
    s ∈ order ↔ s ∈ secrets ∧ s ≠ "" :=
  h.perm.mem_iff.trans mem_ordered

theorem IsOrder.maskable (h : IsOrder secrets order) (hsecrets : ∀ s ∈ secrets, '*' ∉ s.toList) :
    ∀ s ∈ order, Maskable s := fun s hs =>
  ⟨(h.mem_iff.1 hs).2, hsecrets s (h.mem_iff.1 hs).1⟩

/-- Masking in front of a secret, in its place and behind it. -/
theorem each_around_secret (horder : IsOrder secrets order)
    (hsecrets : ∀ s ∈ secrets, '*' ∉ s.toList) (ht : t ∈ secrets) (hne : t ≠ "")
    (happart : ∀ s ∈ secrets, LiesApart s u t v) :
    each order (u ++ t ++ v) = each order u ++ mark ++ each order v := by
  have hmaskable := horder.maskable hsecrets
  have hmem {s : String} (hs : s ∈ order) : s ∈ secrets := (horder.mem_iff.1 hs).1
  calc each order (u ++ t ++ v)
      = each order (u ++ (t ++ v)) := by rw [String.append_assoc]
    _ = each order u ++ each order (t ++ v) :=
        each_append hmaskable fun s hs => (happart s (hmem hs)).not_crosses_front
    _ = each order u ++ (each order t ++ each order v) := by
        rw [each_append hmaskable fun s hs => (happart s (hmem hs)).not_crosses_back]
    _ = each order u ++ (mark ++ each order v) := by
        rw [each_self hmaskable horder.longestFirst (horder.mem_iff.2 ⟨ht, hne⟩)]
    _ = each order u ++ mark ++ each order v := by rw [String.append_assoc]

/-- **A secret is masked as a whole**, by one mask, if no occurrence of a secret reaches from it
into the text around it or over it. The text in front of it and the text behind it are masked for
themselves, and stay if they have no secret. It does not matter in which order secrets of one
length are masked. -/
theorem text_around_secret (hsecrets : ∀ s ∈ secrets, '*' ∉ s.toList) (ht : t ∈ secrets)
    (hne : t ≠ "") (happart : ∀ s ∈ secrets, LiesApart s u t v) :
    text secrets (u ++ t ++ v) = text secrets u ++ mark ++ text secrets v ∧
      (∀ order, IsOrder secrets order →
        each order (u ++ t ++ v) = each order u ++ mark ++ each order v) ∧
      ((∀ s ∈ secrets, s ≠ "" → ¬ Occurs s u) → (∀ s ∈ secrets, s ≠ "" → ¬ Occurs s v) →
        text secrets (u ++ t ++ v) = u ++ mark ++ v) := by
  have htext := each_around_secret (isOrder_ordered secrets) hsecrets ht hne happart
  refine ⟨htext, fun order horder => each_around_secret horder hsecrets ht hne happart, ?_⟩
  intro hu hv
  have hkept {x : String} (hx : ∀ s ∈ secrets, s ≠ "" → ¬ Occurs s x) : text secrets x = x :=
    each_eq_self fun s hs => hx s (mem_ordered.1 hs).1 (mem_ordered.1 hs).2
  calc text secrets (u ++ t ++ v)
      = text secrets u ++ mark ++ text secrets v := htext
    _ = u ++ mark ++ v := by rw [hkept hu, hkept hv]

/-- Two secrets contain a third one, one of them is as long as the secret in the middle, and one is
empty. There are masks to put in on both sides. -/
theorem text_around_secret_nested :
    (∀ s ∈ ["abc", "xabcx", "xa", "yabcy", ""], '*' ∉ s.toList) ∧
      "xabcx" ∈ ["abc", "xabcx", "xa", "yabcy", ""] ∧ "xabcx" ≠ "" ∧
      (∀ s ∈ ["abc", "xabcx", "xa", "yabcy", ""], LiesApart s "abc-xa " "xabcx" " yabcy") ∧
      text ["abc", "xabcx", "xa", "yabcy", ""] ("abc-xa " ++ "xabcx" ++ " yabcy") =
        text ["abc", "xabcx", "xa", "yabcy", ""] "abc-xa " ++ mark ++
          text ["abc", "xabcx", "xa", "yabcy", ""] " yabcy" := by
  have hsecrets : ∀ s ∈ ["abc", "xabcx", "xa", "yabcy", ""], '*' ∉ s.toList := by decide
  have happart : ∀ s ∈ ["abc", "xabcx", "xa", "yabcy", ""],
      LiesApart s "abc-xa " "xabcx" " yabcy" := by decide
  exact ⟨hsecrets, by decide, by decide, happart,
    (text_around_secret hsecrets (by decide) (by decide) happart).1⟩

/-- An empty secret is left out, so no mask stands in its place. -/
theorem text_around_empty_secret :
    (∀ s ∈ [""], '*' ∉ s.toList) ∧ "" ∈ [""] ∧ (∀ s ∈ [""], LiesApart s "a" "" "") ∧
      text [""] ("a" ++ "" ++ "") ≠ text [""] "a" ++ mark ++ text [""] "" := by
  have hkept (shown : String) : text [""] shown = shown := by
    simp [text, ordered, dedup, each]
  refine ⟨by decide, by decide, by decide, ?_⟩
  rw [hkept, hkept, hkept]
  decide

end Mask

end AlertBridge
