import AlertBridge.Json.Shown
import AlertBridge.Slack.Mrkdwn

/-!
# Cells of a table

The text of a cell is cut into plain, bold and linked parts. First the text is cut into tokens, one
wherever a bold part or a link starts, and the gaps between them; then each token is read for
itself. Nothing is lost: the parts, written back with their marks, are the text.
-/

namespace AlertBridge

/-- A part of a cell's text. -/
inductive CellElement where
  | plain (text : List Char)
  | bold (text : List Char)
  | link (text address : List Char)
  deriving DecidableEq, Inhabited

namespace Cell

/-- A bold part whose opening mark has been read: some characters other than asterisks, the
closing mark, and what follows. -/
def bold? (cs : List Char) : Option (List Char × List Char) :=
  match cs.takeWhile (· ≠ '*'), cs.dropWhile (· ≠ '*') with
  | c :: text, '*' :: '*' :: rest => some (c :: text, rest)
  | _, _ => none

theorem length_of_bold? {cs text rest : List Char} (h : bold? cs = some (text, rest)) :
    rest.length < cs.length := by
  unfold bold? at h
  split at h
  · rename_i hd
    simp only [Option.some.injEq, Prod.mk.injEq] at h
    have := length_dropWhile_le (· ≠ '*') cs
    rw [hd] at this
    rw [← h.2]
    simp only [List.length_cons] at this
    omega
  · simp at h

/-- The bold part or the link that starts a text, with all its marks, and what follows it. -/
def token? : List Char → Option (List Char × List Char)
  | '*' :: '*' :: cs => (bold? cs).map fun (text, rest) =>
      ('*' :: '*' :: text ++ ['*', '*'], rest)
  | '[' :: cs => (link? (· ≠ ']') cs).map fun (text, address, rest) =>
      ('[' :: text ++ ']' :: '(' :: address ++ [')'], rest)
  | _ => none

theorem length_of_token? {cs token rest : List Char} (h : token? cs = some (token, rest)) :
    rest.length < cs.length := by
  unfold token? at h
  split at h
  · obtain ⟨⟨t, r⟩, hr, he⟩ := Option.map_eq_some_iff.1 h
    simp only [Prod.mk.injEq] at he
    have := length_of_bold? hr
    rw [← he.2]
    simp only [List.length_cons]
    omega
  · obtain ⟨⟨t, a, r⟩, hr, he⟩ := Option.map_eq_some_iff.1 h
    simp only [Prod.mk.injEq] at he
    have := length_of_link? hr
    rw [← he.2]
    simp only [List.length_cons]
    omega
  · simp at h

/-- A piece of a text: a token, or what stands between two tokens. -/
inductive Piece where
  | gap (text : List Char)
  | token (text : List Char)

/-- The pieces with a character in front of them that belongs to no token. -/
def consGap (c : Char) : List Piece → List Piece
  | .gap text :: rest => .gap (c :: text) :: rest
  | pieces => .gap [c] :: pieces

/-- The pieces of a text. -/
def pieces : List Char → List Piece
  | [] => []
  | c :: cs =>
    match _h : token? (c :: cs) with
    | some (token, rest) => .token token :: pieces rest
    | none => consGap c (pieces cs)
termination_by cs => cs.length
decreasing_by
  · have := length_of_token? _h
    simp only [List.length_cons] at this ⊢
    omega
  · simp

/-- The text and the address of a link that reaches up to the end, where a line end may follow. -/
def fullLink? : List Char → Option (List Char × List Char)
  | '[' :: cs => (link? (· ≠ ']') cs).bind fun (text, address, rest) =>
      if rest = [] || rest = ['\n'] then some (text, address) else none
  | _ => none

/-- The part that a token stands for. What is neither a bold part nor a link is shown as it is. -/
def ofToken : List Char → CellElement
  | '*' :: '*' :: cs => .bold (cs.take (cs.length - 2))
  | token =>
    ((fullLink? token).map fun (text, address) => .link text address).getD (.plain token)

/-- The part that a piece stands for. -/
def Piece.element : Piece → CellElement
  | .gap text => .plain text
  | .token text => ofToken text

/-- The parts of a text. -/
def elements (cs : List Char) : List CellElement := (pieces cs).map Piece.element

/-- The parts of a cell, of which an empty cell has one. -/
def ofText (text : String) : List CellElement :=
  match elements text.toList with
  | [] => [.plain []]
  | parts => parts

/-- The parts of the cell that shows a value. -/
def ofValue (v : Json) : List CellElement := ofText (v.orElse (.str "")).shown

end Cell

/-- A part of a cell as data. -/
def CellElement.toJson : CellElement → Json
  | .plain text => .obj [("type", .str "text"), ("text", .str (String.ofList text))]
  | .bold text => .obj [("type", .str "text"), ("text", .str (String.ofList text)),
      ("style", .obj [("bold", .bool true)])]
  | .link text address => .obj [("type", .str "link"), ("url", .str (String.ofList address)),
      ("text", .str (String.ofList text))]

end AlertBridge
