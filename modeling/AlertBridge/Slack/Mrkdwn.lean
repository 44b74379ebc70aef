import AlertBridge.Json.Access

/-!
# Slack's markup from Markdown

Slack marks bold text with one asterisk on either side, and writes a link as its address and its
text between angle brackets. `Mrkdwn.ofMarkdown` turns the two constructs of Markdown into these
and leaves all else as it is: first bold text, then links, each from left to right and without
looking again at what was written.
-/

namespace AlertBridge

/-- The address of a link whose text has been read: some characters up to a closing parenthesis.
The result is the address and what follows the parenthesis. -/
def linkAddress? (cs : List Char) : Option (List Char × List Char) :=
  match cs.takeWhile (· ≠ ')'), cs.dropWhile (· ≠ ')') with
  | c :: address, ')' :: rest => some (c :: address, rest)
  | _, _ => none

/-- A link whose opening bracket has been read: its text, all of whose characters satisfy
`isLabel`, its address, and what follows. -/
def link? (isLabel : Char → Bool) (cs : List Char) :
    Option (List Char × List Char × List Char) :=
  match cs.takeWhile isLabel, cs.dropWhile isLabel with
  | c :: label, ']' :: '(' :: rest =>
    (linkAddress? rest).map fun (address, after) => (c :: label, address, after)
  | _, _ => none

theorem length_dropWhile_le (p : Char → Bool) (cs : List Char) :
    (cs.dropWhile p).length ≤ cs.length :=
  (List.dropWhile_suffix p).length_le

/-- What follows an address is shorter than what it was read from. -/
theorem length_of_linkAddress? {cs address rest : List Char}
    (h : linkAddress? cs = some (address, rest)) : rest.length < cs.length := by
  unfold linkAddress? at h
  split at h
  · rename_i hd
    simp only [Option.some.injEq, Prod.mk.injEq] at h
    have := length_dropWhile_le (· ≠ ')') cs
    rw [hd] at this
    rw [← h.2]
    simp only [List.length_cons] at this
    omega
  · simp at h

/-- What follows a link is shorter than what it was read from. -/
theorem length_of_link? {p : Char → Bool} {cs label address rest : List Char}
    (h : link? p cs = some (label, address, rest)) : rest.length < cs.length := by
  unfold link? at h
  split at h
  · rename_i hd
    obtain ⟨⟨a, r⟩, hr, he⟩ := Option.map_eq_some_iff.1 h
    simp only [Prod.mk.injEq] at he
    have h₁ := length_dropWhile_le p cs
    rw [hd] at h₁
    have h₂ := length_of_linkAddress? hr
    rw [← he.2.2]
    simp only [List.length_cons] at h₁
    omega
  · simp at h

namespace Mrkdwn

/-- Bold text whose opening mark has been read: at least one character and no line end, up to the
nearest closing mark, and what follows that. -/
def boldText? : List Char → Option (List Char × List Char)
  | [] => none
  | c :: cs =>
    if c = '\n' then none
    else match cs with
      | '*' :: '*' :: rest => some ([c], rest)
      | cs => (boldText? cs).map fun (text, rest) => (c :: text, rest)

theorem length_of_boldText? {cs text rest : List Char} (h : boldText? cs = some (text, rest)) :
    rest.length < cs.length := by
  induction cs generalizing text with
  | nil => simp [boldText?] at h
  | cons c cs ih =>
    unfold boldText? at h
    split at h
    · simp at h
    · split at h
      · simp only [Option.some.injEq, Prod.mk.injEq] at h
        rw [← h.2]
        simp only [List.length_cons]
        omega
      · obtain ⟨⟨t, r⟩, hr, he⟩ := Option.map_eq_some_iff.1 h
        simp only [Prod.mk.injEq] at he
        rw [he.2] at hr
        have := ih hr
        simp only [List.length_cons]
        omega

/-- The text with its bold parts marked in Slack's way. -/
def markBold : List Char → List Char
  | [] => []
  | c :: cs =>
    match c, cs with
    | '*', '*' :: inner =>
      match _h : boldText? inner with
      | some (text, rest) => '*' :: text ++ '*' :: markBold rest
      | none => '*' :: markBold ('*' :: inner)
    | c, cs => c :: markBold cs
termination_by cs => cs.length
decreasing_by
  · have := length_of_boldText? _h
    simp only [List.length_cons]; omega
  all_goals simp only [List.length_cons]; omega

/-- A bracket cannot stand in the text of a link. -/
def isLinkText (c : Char) : Bool := c ≠ '[' && c ≠ ']'

/-- The text with its links written in Slack's way. -/
def markLinks : List Char → List Char
  | [] => []
  | c :: cs =>
    if c = '[' then
      match _h : link? isLinkText cs with
      | some (label, address, rest) => '<' :: address ++ '|' :: label ++ '>' :: markLinks rest
      | none => c :: markLinks cs
    else c :: markLinks cs
termination_by cs => cs.length
decreasing_by
  · have := length_of_link? _h
    simp only [List.length_cons]; omega
  all_goals simp only [List.length_cons]; omega

/-- Slack's markup for a text in Markdown. -/
def ofMarkdown (text : String) : String :=
  String.ofList (markLinks (markBold text.toList))

/-- Slack's markup for a value: nothing for one that does not count as present. -/
def ofValue? (v : Json) : Except Fault String :=
  if v.truthy then v.searchable.map ofMarkdown else .ok ""

end Mrkdwn

end AlertBridge
