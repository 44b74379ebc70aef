import AlertBridge.Proofs.Slack.Marks
import Mathlib.Data.List.Chain
import Mathlib.Data.List.Infix

/-!
# Slack's markup of bold text and links

A text is a sequence of phrases: plain text, bold text and links, where bold text may have links in
it and the text of a link may have bold parts, but neither has its own kind in it. `write` puts the
phrases down with the marks of one markup or the other, and what turns the one text into the other
is `Mrkdwn.ofMarkdown`.

Its two passes are followed one after the other, each from left to right with any rest behind. The
first pass finds the marks of bold text, since asterisks stand nowhere else. The second pass finds
the links by their brackets. A bracket of plain text can only be taken for one of a link if the next
bracket is a closing one and a parenthesis follows it. `OpensNoLink` says that this is not so, and
it holds in front of everything that is written.

## Main definitions

* `Phrase`, `Phrase.write`: phrases and how they are written
* `IsPhrase bold linked p`: what a phrase may be, in bold text and in the text of a link

## Main results

* `markBold_write`, `markLinks_write`: what the two passes do
* `ofValue?_writeAll`: a text in Slack's markup
-/

namespace AlertBridge.Mrkdwn

/-! ## Phrases -/

/-- Plain text, bold text, or a link. -/
inductive Phrase where
  | plain (text : List Char)
  | bold (inner : List Phrase)
  | link (label : List Phrase) (address : List Char)

/-- How bold text and links are marked. -/
structure Marks where
  bold : List Char → List Char
  link : List Char → List Char → List Char

/-- The marks of Markdown. -/
def Marks.markdown : Marks where
  bold text := '*' :: '*' :: text ++ ['*', '*']
  link label address := '[' :: label ++ ']' :: '(' :: address ++ [')']

/-- The marks of Slack. -/
def Marks.slack : Marks where
  bold text := '*' :: text ++ ['*']
  link label address := '<' :: address ++ '|' :: label ++ ['>']

/-- The marks after the first pass: bold text is marked in Slack's way, links are as before. -/
def Marks.halfway : Marks where
  bold := slack.bold
  link := markdown.link

namespace Marks

@[simp] theorem bold_markdown (text : List Char) :
    markdown.bold text = '*' :: '*' :: (text ++ ['*', '*']) := rfl

@[simp] theorem link_markdown (label address : List Char) :
    markdown.link label address = '[' :: (label ++ ']' :: '(' :: (address ++ [')'])) := by
  simp [markdown]

@[simp] theorem bold_slack (text : List Char) : slack.bold text = '*' :: (text ++ ['*']) := rfl

@[simp] theorem link_slack (label address : List Char) :
    slack.link label address = '<' :: (address ++ '|' :: (label ++ ['>'])) := by
  simp [slack]

@[simp] theorem bold_halfway (text : List Char) : halfway.bold text = slack.bold text := rfl

@[simp] theorem link_halfway (label address : List Char) :
    halfway.link label address = markdown.link label address := rfl

end Marks

namespace Phrase

/-- The phrase has no marks. -/
def isPlain : Phrase → Bool
  | plain _ => true
  | _ => false

mutual

/-- A phrase with its marks. -/
def write (m : Marks) : Phrase → List Char
  | plain text => text
  | bold inner => m.bold (writeAll m inner)
  | link label address => m.link (writeAll m label) address

/-- Phrases one after the other. -/
def writeAll (m : Marks) : List Phrase → List Char
  | [] => []
  | p :: ps => write m p ++ writeAll m ps

end

theorem writeAll_eq_flatMap (m : Marks) (ps : List Phrase) :
    writeAll m ps = ps.flatMap (write m) := by
  induction ps with
  | nil => rfl
  | cons p ps ih => rw [writeAll, ih, List.flatMap_cons]

end Phrase

/-- No two plain phrases stand side by side. -/
def Apart (ps : List Phrase) : Prop := ps.IsChain fun p q => ¬ (p.isPlain ∧ q.isPlain)

/-- Plain text has no asterisk and no `](`. In bold text it is in one line, and in the text of a
link it has no brackets. -/
structure IsPlainText (bold linked : Bool) (text : List Char) : Prop where
  ne_nil : text ≠ []
  star : '*' ∉ text
  pair : ¬ [']', '('] <:+: text
  line : bold → '\n' ∉ text
  brackets : linked → '[' ∉ text ∧ ']' ∉ text

instance (bold linked : Bool) (text : List Char) : Decidable (IsPlainText bold linked text) :=
  decidable_of_iff (text ≠ [] ∧ '*' ∉ text ∧ ¬ [']', '('] <:+: text ∧ (bold → '\n' ∉ text) ∧
      (linked → '[' ∉ text ∧ ']' ∉ text))
    ⟨fun ⟨ne_nil, star, pair, line, brackets⟩ => ⟨ne_nil, star, pair, line, brackets⟩,
      fun h => ⟨h.ne_nil, h.star, h.pair, h.line, h.brackets⟩⟩

/-- An address is in one line, and no mark of bold text or of the end of a link is in it. -/
structure IsAddress (address : List Char) : Prop where
  ne_nil : address ≠ []
  star : '*' ∉ address
  close : ')' ∉ address
  line : '\n' ∉ address

instance (address : List Char) : Decidable (IsAddress address) :=
  decidable_of_iff (address ≠ [] ∧ '*' ∉ address ∧ ')' ∉ address ∧ '\n' ∉ address)
    ⟨fun ⟨ne_nil, star, close, line⟩ => ⟨ne_nil, star, close, line⟩,
      fun h => ⟨h.ne_nil, h.star, h.close, h.line⟩⟩

/-- What a phrase may be, with `bold` in bold text and with `linked` in the text of a link. Bold
text is not in bold text, and no link is in the text of a link. -/
inductive IsPhrase : Bool → Bool → Phrase → Prop
  | plain {bold linked : Bool} {text : List Char} (htext : IsPlainText bold linked text) :
      IsPhrase bold linked (.plain text)
  | bold {linked : Bool} {inner : List Phrase} (hne : inner ≠ [])
      (hinner : ∀ p ∈ inner, IsPhrase true linked p) (hapart : Apart inner) :
      IsPhrase false linked (.bold inner)
  | link {bold : Bool} {label : List Phrase} {address : List Char} (hne : label ≠ [])
      (hlabel : ∀ p ∈ label, IsPhrase bold true p) (hapart : Apart label)
      (haddress : IsAddress address) : IsPhrase bold false (.link label address)

open Phrase

variable {m m' : Marks} {bold linked : Bool} {p : Phrase} {ps : List Phrase}
  {cs text address rest : List Char} {c : Char}

/-- Something is written for phrases. -/
theorem writeAll_ne_nil (hbold : ∀ text, m.bold text ≠ [])
    (hlink : ∀ label address, m.link label address ≠ []) (hne : ps ≠ [])
    (h : ∀ p ∈ ps, IsPhrase bold linked p) : writeAll m ps ≠ [] := by
  obtain ⟨p, ps, rfl⟩ := List.exists_cons_of_ne_nil hne
  have hp : write m p ≠ [] := by
    cases h p List.mem_cons_self with
    | plain htext => exact htext.ne_nil
    | bold => exact hbold _
    | link => exact hlink _ _
  exact List.append_ne_nil_of_left_ne_nil hp _

theorem not_mem_writeAll (h : ∀ p ∈ ps, c ∉ write m p) : c ∉ writeAll m ps := by
  rw [writeAll_eq_flatMap]
  intro hmem
  obtain ⟨p, hp, hc⟩ := List.mem_flatMap.1 hmem
  exact h p hp hc

theorem writeAll_congr (h : ∀ p ∈ ps, write m p = write m' p) : writeAll m ps = writeAll m' ps := by
  rw [writeAll_eq_flatMap, writeAll_eq_flatMap]
  exact List.flatMap_congr h

/-! ## Inside bold text -/

/-- Bold text is written alike if links are. -/
theorem IsPhrase.write_congr_of_bold (h : IsPhrase bold linked p) (hb : bold = true)
    (hlink : m.link = m'.link) : write m p = write m' p := by
  induction h with
  | plain => rfl
  | bold => cases hb
  | link hne hlabel hapart haddress ih =>
    rw [write, write, hlink, writeAll_congr fun p hp => ih p hp hb]

/-- Bold text has neither asterisks nor line ends. -/
theorem IsPhrase.not_mem_write_of_bold (h : IsPhrase bold linked p) (hb : bold = true)
    (hc : c = '*' ∨ c = '\n') : c ∉ write .markdown p := by
  induction h with
  | plain htext =>
    rcases hc with rfl | rfl
    · exact htext.star
    · exact htext.line hb
  | bold => cases hb
  | link hne hlabel hapart haddress ih =>
    have hlabel := not_mem_writeAll fun p hp => ih p hp hb
    rcases hc with rfl | rfl
    · simp [write, hlabel, haddress.star]
    · simp [write, hlabel, haddress.line]

/-! ## The first pass -/

theorem markBold_nil : markBold [] = [] := by simp [markBold]

theorem markBold_cons_of_ne (h : c ≠ '*') : markBold (c :: cs) = c :: markBold cs := by
  rw [markBold]
  intro inner hc
  exact absurd hc h

/-- Text without asterisks is left as it is. -/
theorem markBold_append (h : '*' ∉ text) : markBold (text ++ rest) = text ++ markBold rest := by
  induction text with
  | nil => rfl
  | cons c text ih =>
    have hc : c ≠ '*' := (List.ne_of_not_mem_cons h).symm
    rw [List.cons_append, markBold_cons_of_ne hc, ih (List.not_mem_of_not_mem_cons h),
      List.cons_append]

theorem boldText?_append (hne : text ≠ []) (hstar : '*' ∉ text) (hline : '\n' ∉ text) :
    boldText? (text ++ '*' :: '*' :: rest) = some (text, rest) := by
  induction text with
  | nil => exact absurd rfl hne
  | cons c text ih =>
    have hc : c ≠ '\n' := (List.ne_of_not_mem_cons hline).symm
    have htextStar : '*' ∉ text := List.not_mem_of_not_mem_cons hstar
    cases text with
    | nil => simp [boldText?, hc]
    | cons d text =>
      have hd : '*' ≠ d := List.ne_of_not_mem_cons htextStar
      have hrest := ih (List.cons_ne_nil d text) htextStar (List.not_mem_of_not_mem_cons hline)
      rw [List.cons_append, boldText?, if_neg hc, hrest, Option.map_some]
      intro after heq
      exact hd (List.cons.inj heq).1.symm

/-- Bold text is marked in Slack's way. -/
theorem markBold_bold (hne : text ≠ []) (hstar : '*' ∉ text) (hline : '\n' ∉ text) :
    markBold (Marks.markdown.bold text ++ rest) = Marks.slack.bold text ++ markBold rest := by
  have htext : Marks.markdown.bold text ++ rest =
      '*' :: '*' :: (text ++ '*' :: '*' :: rest) := by
    simp
  rw [htext, markBold]
  split
  · next found after hfound =>
    rw [boldText?_append hne hstar hline] at hfound
    obtain ⟨rfl, rfl⟩ := Prod.mk.inj (Option.some.inj hfound)
    simp
  · next hnone =>
    rw [boldText?_append hne hstar hline] at hnone
    cases hnone

theorem markBold_writeAll
    (h : ∀ p ∈ ps, ∀ rest, markBold (write .markdown p ++ rest) = write .halfway p ++ markBold rest)
    (rest : List Char) :
    markBold (writeAll .markdown ps ++ rest) = writeAll .halfway ps ++ markBold rest := by
  induction ps with
  | nil => rfl
  | cons p ps ih =>
    obtain ⟨hp, hps⟩ := List.forall_mem_cons.1 h
    rw [writeAll, writeAll, List.append_assoc, hp, ih hps, List.append_assoc]

/-- What the first pass does with a phrase that is not in bold text. -/
theorem IsPhrase.markBold_write (h : IsPhrase bold linked p) (hb : bold = false)
    (rest : List Char) :
    markBold (write .markdown p ++ rest) = write .halfway p ++ markBold rest := by
  induction h generalizing rest with
  | plain htext => exact markBold_append htext.star
  | @bold linked inner hne hinner hapart ih =>
    have hsame : writeAll .markdown inner = writeAll .halfway inner :=
      writeAll_congr fun p hp => (hinner p hp).write_congr_of_bold rfl rfl
    have hmem (c : Char) (hc : c = '*' ∨ c = '\n') : c ∉ writeAll .markdown inner :=
      not_mem_writeAll fun p hp => (hinner p hp).not_mem_write_of_bold rfl hc
    have hwritten : writeAll .markdown inner ≠ [] :=
      writeAll_ne_nil (fun _ => List.cons_ne_nil _ _) (fun _ _ => List.cons_ne_nil _ _) hne hinner
    rw [write, write, ← hsame]
    exact markBold_bold hwritten (hmem '*' (.inl rfl)) (hmem '\n' (.inr rfl))
  | @link bold label address hne hlabel hapart haddress ih =>
    have hlabels := markBold_writeAll fun p hp => ih p hp hb
    have hend : '*' ∉ ']' :: '(' :: (address ++ [')']) := by simp [haddress.star]
    calc markBold (write .markdown (.link label address) ++ rest)
        = markBold ('[' ::
            (writeAll .markdown label ++ (']' :: '(' :: (address ++ [')']) ++ rest))) := by
          simp [write]
      _ = '[' ::
            (writeAll .halfway label ++ (']' :: '(' :: (address ++ [')']) ++ markBold rest)) := by
          rw [markBold_cons_of_ne (by decide), hlabels, markBold_append hend]
      _ = write .halfway (.link label address) ++ markBold rest := by
          simp [write]

/-! ## Inside the text of a link -/

/-- The text of a link is written alike if bold text is. -/
theorem IsPhrase.write_congr_of_linked (h : IsPhrase bold linked p) (hl : linked = true)
    (hbold : m.bold = m'.bold) : write m p = write m' p := by
  induction h with
  | plain => rfl
  | bold hne hinner hapart ih => rw [write, write, hbold, writeAll_congr fun p hp => ih p hp hl]
  | link => cases hl

/-- The text of a link has no brackets. -/
theorem IsPhrase.not_mem_write_of_linked (h : IsPhrase bold linked p) (hl : linked = true)
    (hc : c = '[' ∨ c = ']') : c ∉ write .halfway p := by
  induction h with
  | plain htext =>
    rcases hc with rfl | rfl
    · exact (htext.brackets hl).1
    · exact (htext.brackets hl).2
  | bold hne hinner hapart ih =>
    have hinner := not_mem_writeAll fun p hp => ih p hp hl
    rcases hc with rfl | rfl <;> simp [write, hinner]
  | link => cases hl

/-! ## The second pass -/

/-- A bracket in front of the text opens no link: there is no further bracket, or the next one does
not close the text of a link. -/
def OpensNoLink (cs : List Char) : Prop := ¬ [']', '('] <+: cs.dropWhile isLinkText

theorem opensNoLink_nil : OpensNoLink [] := by
  simp [OpensNoLink]

theorem opensNoLink_open : OpensNoLink ('[' :: cs) := by
  simp [OpensNoLink, isLinkText]

theorem opensNoLink_close (h : cs.head? ≠ some '(') : OpensNoLink (']' :: cs) := by
  cases cs with
  | nil => simp [OpensNoLink, isLinkText]
  | cons c cs =>
    have hc : '(' ≠ c := fun heq => h (congrArg some heq.symm)
    simp [OpensNoLink, isLinkText, hc]

theorem opensNoLink_cons (hc : isLinkText c) (h : OpensNoLink cs) : OpensNoLink (c :: cs) := by
  rwa [OpensNoLink, List.dropWhile_cons_of_pos hc]

theorem OpensNoLink.link?_eq_none (h : OpensNoLink cs) : link? isLinkText cs = none := by
  rw [Option.eq_none_iff_forall_ne_some]
  rintro ⟨label, address, rest⟩ hlink
  obtain ⟨-, hlabel, -, -, rfl⟩ := (link?_eq_some_iff (by decide)).1 hlink
  apply h
  rw [List.dropWhile_append_of_pos hlabel, List.dropWhile_cons_of_neg (by decide)]
  exact List.prefix_append [']', '('] _

theorem markLinks_nil : markLinks [] = [] := by simp [markLinks]

theorem markLinks_cons_of_ne (h : c ≠ '[') : markLinks (c :: cs) = c :: markLinks cs := by
  rw [markLinks, if_neg h]

theorem markLinks_open (h : OpensNoLink cs) : markLinks ('[' :: cs) = '[' :: markLinks cs := by
  rw [markLinks, if_pos rfl]
  split
  · next label address rest hlink =>
    rw [h.link?_eq_none] at hlink
    cases hlink
  · rfl

/-- A link is written in Slack's way. -/
theorem markLinks_link {label : List Char} (hne : label ≠ [])
    (hbracket : ∀ c, c = '[' ∨ c = ']' → c ∉ label) (haddress : address ≠ [])
    (hclose : ')' ∉ address) :
    markLinks (Marks.markdown.link label address ++ rest) =
      Marks.slack.link label address ++ markLinks rest := by
  have htext : Marks.markdown.link label address ++ rest =
      '[' :: (label ++ ']' :: '(' :: (address ++ ')' :: rest)) := by
    simp
  have hlabel : ∀ c ∈ label, isLinkText c := by
    intro c hc
    have hopen : c ≠ '[' := fun heq => hbracket c (.inl heq) hc
    have hclosed : c ≠ ']' := fun heq => hbracket c (.inr heq) hc
    simp [isLinkText, hopen, hclosed]
  have hlink : link? isLinkText (label ++ ']' :: '(' :: (address ++ ')' :: rest)) =
      some (label, address, rest) :=
    (link?_eq_some_iff (by decide)).2 ⟨hne, hlabel, haddress, hclose, rfl⟩
  rw [htext, markLinks, if_pos rfl]
  split
  · next found there after hfound =>
    rw [hlink] at hfound
    obtain ⟨rfl, rfl, rfl⟩ : label = found ∧ address = there ∧ rest = after := by
      simpa using hfound
    simp
  · next hnone =>
    rw [hlink] at hnone
    cases hnone

/-- Plain text is left as it is, and opens no link. -/
theorem opensNoLink_and_markLinks_append (hpair : ¬ [']', '('] <:+: text) (hrest : OpensNoLink rest)
    (hhead : rest.head? ≠ some '(') :
    OpensNoLink (text ++ rest) ∧ markLinks (text ++ rest) = text ++ markLinks rest := by
  induction text with
  | nil => exact ⟨hrest, rfl⟩
  | cons c text ih =>
    obtain ⟨hopens, hmarks⟩ := ih fun hinfix => hpair (List.infix_cons hinfix)
    rw [List.cons_append, List.cons_append]
    by_cases hopen : c = '['
    · subst hopen
      exact ⟨opensNoLink_open, by rw [markLinks_open hopens, hmarks]⟩
    · refine ⟨?_, by rw [markLinks_cons_of_ne hopen, hmarks]⟩
      by_cases hclose : c = ']'
      · subst hclose
        apply opensNoLink_close
        cases text with
        | nil => exact hhead
        | cons d text =>
          intro hd
          obtain rfl : d = '(' := Option.some.inj hd
          exact hpair (List.prefix_append [']', '('] text).isInfix
      · exact opensNoLink_cons (by simp [isLinkText, hopen, hclose]) hopens

/-- What follows a plain phrase does not begin with a parenthesis. -/
theorem head_writeAll_ne (hplain : ∀ q ∈ ps.head?, ¬ q.isPlain) (hhead : rest.head? ≠ some '(') :
    (writeAll .halfway ps ++ rest).head? ≠ some '(' := by
  cases ps with
  | nil => exact hhead
  | cons q ps =>
    cases q with
    | plain text => exact absurd rfl (hplain _ rfl)
    | bold inner => simp [writeAll, write]
    | link label address => simp [writeAll, write]

theorem markLinks_writeAll (hapart : Apart ps)
    (h : ∀ p ∈ ps, ∀ rest, OpensNoLink rest → (p.isPlain → rest.head? ≠ some '(') →
      OpensNoLink (write .halfway p ++ rest) ∧
        markLinks (write .halfway p ++ rest) = write .slack p ++ markLinks rest)
    (hrest : OpensNoLink rest) (hhead : rest.head? ≠ some '(') :
    OpensNoLink (writeAll .halfway ps ++ rest) ∧
      markLinks (writeAll .halfway ps ++ rest) = writeAll .slack ps ++ markLinks rest := by
  induction ps with
  | nil => exact ⟨hrest, rfl⟩
  | cons p ps ih =>
    obtain ⟨hp, hps⟩ := List.forall_mem_cons.1 h
    obtain ⟨hnext, hapart⟩ := List.isChain_cons.1 hapart
    obtain ⟨hopens, hmarks⟩ := ih hapart hps
    have hplain : p.isPlain → (writeAll .halfway ps ++ rest).head? ≠ some '(' := fun hisPlain =>
      head_writeAll_ne (fun q hq hqPlain => hnext q hq ⟨hisPlain, hqPlain⟩) hhead
    rw [writeAll, writeAll, List.append_assoc, List.append_assoc, ← hmarks]
    exact hp _ hopens hplain

/-- What the second pass does with a phrase that is not in the text of a link. -/
theorem IsPhrase.markLinks_write (h : IsPhrase bold linked p) (hl : linked = false)
    (hrest : OpensNoLink rest) (hhead : p.isPlain → rest.head? ≠ some '(') :
    OpensNoLink (write .halfway p ++ rest) ∧
      markLinks (write .halfway p ++ rest) = write .slack p ++ markLinks rest := by
  induction h generalizing rest with
  | plain htext => exact opensNoLink_and_markLinks_append htext.pair hrest (hhead rfl)
  | @bold linked inner hne hinner hapart ih =>
    have hstar : isLinkText '*' := by decide
    obtain ⟨hopens, hmarks⟩ := markLinks_writeAll hapart
      (fun p hp rest hrest hhead => ih p hp hl hrest hhead)
      (opensNoLink_cons hstar hrest) (show ('*' :: rest).head? ≠ some '(' by simp)
    have htext : write .halfway (.bold inner) ++ rest =
        '*' :: (writeAll .halfway inner ++ '*' :: rest) := by
      simp [write]
    rw [htext]
    refine ⟨opensNoLink_cons hstar hopens, ?_⟩
    rw [markLinks_cons_of_ne (by decide), hmarks, markLinks_cons_of_ne (by decide)]
    simp [write]
  | @link bold label address hne hlabel hapart haddress ih =>
    have hsame : writeAll .halfway label = writeAll .slack label :=
      writeAll_congr fun p hp => (hlabel p hp).write_congr_of_linked rfl rfl
    have hmem (c : Char) (hc : c = '[' ∨ c = ']') : c ∉ writeAll .halfway label :=
      not_mem_writeAll fun p hp => (hlabel p hp).not_mem_write_of_linked rfl hc
    have hwritten : writeAll .halfway label ≠ [] :=
      writeAll_ne_nil (fun _ => List.cons_ne_nil _ _) (fun _ _ => List.cons_ne_nil _ _) hne hlabel
    rw [write, write, ← hsame]
    refine ⟨?_, markLinks_link hwritten hmem haddress.ne_nil haddress.close⟩
    rw [Marks.link_halfway, Marks.link_markdown]
    exact opensNoLink_open

/-! ## Both passes -/

/-- **Slack's markup of phrases**: a text in Markdown comes out as the same phrases with the marks
of Slack, and nothing else in it is changed. -/
theorem ofValue?_writeAll (h : ∀ p ∈ ps, IsPhrase false false p) (hapart : Apart ps) :
    ofValue? (.str (String.ofList (writeAll .markdown ps))) =
      .ok (String.ofList (writeAll .slack ps)) := by
  have hfirst : markBold (writeAll .markdown ps) = writeAll .halfway ps := by
    have hpass := markBold_writeAll (fun p hp => (h p hp).markBold_write rfl) []
    rwa [markBold_nil, List.append_nil, List.append_nil] at hpass
  have hsecond : markLinks (writeAll .halfway ps) = writeAll .slack ps := by
    have hpass := (markLinks_writeAll hapart
      (fun p hp rest hrest hhead => (h p hp).markLinks_write rfl hrest hhead)
      opensNoLink_nil (show [].head? ≠ some '(' by simp)).2
    rwa [markLinks_nil, List.append_nil, List.append_nil] at hpass
  have hmarkup : ofMarkdown (String.ofList (writeAll .markdown ps)) =
      String.ofList (writeAll .slack ps) := by
    rw [ofMarkdown, String.toList_ofList, hfirst, hsecond]
  rw [ofValue?]
  split
  · exact congrArg Except.ok hmarkup
  · next hempty =>
    have hnone : String.ofList (writeAll .markdown ps) = "" := by
      simpa [Json.truthy] using hempty
    rw [← hmarkup, hnone]
    simp [ofMarkdown, markBold_nil, markLinks_nil]

/-- A link within brackets whose address looks like a part of a link, a link in bold text, and bold
texts side by side. -/
def ticketPhrases : List Phrase :=
  [.plain "Ticket [".toList, .link [.plain "12".toList, .bold [.plain "34".toList]] "u](v".toList,
    .plain "]\n(see) ".toList, .bold [.plain "a".toList, .link [.plain "b".toList] "c".toList],
    .bold [.plain "d".toList], .link [.plain "e".toList] "f".toList]

theorem isPhrase_of_mem_ticketPhrases : ∀ p ∈ ticketPhrases, IsPhrase false false p := by
  have single {bold linked : Bool} {text : List Char} (htext : IsPlainText bold linked text) :
      ∀ p ∈ [Phrase.plain text], IsPhrase bold linked p :=
    List.forall_mem_singleton.2 (.plain htext)
  have hlabel : ∀ p ∈ [Phrase.plain "12".toList, .bold [.plain "34".toList]],
      IsPhrase false true p :=
    List.forall_mem_cons.2 ⟨.plain (by decide), List.forall_mem_singleton.2
      (.bold (List.cons_ne_nil _ _) (single (by decide)) (List.isChain_singleton _))⟩
  have hinner : ∀ p ∈ [Phrase.plain "a".toList, .link [.plain "b".toList] "c".toList],
      IsPhrase true false p :=
    List.forall_mem_cons.2 ⟨.plain (by decide), List.forall_mem_singleton.2
      (.link (List.cons_ne_nil _ _) (single (by decide)) (List.isChain_singleton _) (by decide))⟩
  simp only [ticketPhrases, List.forall_mem_cons]
  refine ⟨.plain (by decide), ?link, .plain (by decide), ?bold, ?next, ?last, List.forall_mem_nil _⟩
  case link => exact .link (List.cons_ne_nil _ _) hlabel (by simp [Apart, isPlain]) (by decide)
  case bold => exact .bold (List.cons_ne_nil _ _) hinner (by simp [Apart, isPlain])
  case next => exact .bold (List.cons_ne_nil _ _) (single (by decide)) (List.isChain_singleton _)
  case last =>
    exact .link (List.cons_ne_nil _ _) (single (by decide)) (List.isChain_singleton _) (by decide)

theorem ofValue?_writeAll_ticketPhrases :
    (∀ p ∈ ticketPhrases, IsPhrase false false p) ∧ Apart ticketPhrases ∧
      ofValue? (.str "Ticket [[12**34**](u](v)]\n(see) **a[b](c)****d**[e](f)") =
        .ok "Ticket [<u](v|12*34*>]\n(see) *a<c|b>**d*<f|e>" := by
  have hapart : Apart ticketPhrases := by simp [Apart, ticketPhrases, isPlain]
  have hwritten : String.ofList (writeAll .markdown ticketPhrases) =
      "Ticket [[12**34**](u](v)]\n(see) **a[b](c)****d**[e](f)" := by decide
  have hmarked : String.ofList (writeAll .slack ticketPhrases) =
      "Ticket [<u](v|12*34*>]\n(see) *a<c|b>**d*<f|e>" := by decide
  refine ⟨isPhrase_of_mem_ticketPhrases, hapart, ?_⟩
  rw [← hwritten, ← hmarked]
  exact ofValue?_writeAll isPhrase_of_mem_ticketPhrases hapart

end AlertBridge.Mrkdwn
