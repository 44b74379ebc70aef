import AlertBridge.Markdown.Node
import AlertBridge.Text.Alphanumeric
import AlertBridge.Text.Blank

/-!
# Emphasis

After the other inline constructs are known, runs of stars and underscores are matched: a run
that may close looks back for the nearest run of its mark that may open, two marks of each make
strong emphasis and one makes emphasis, and what lies between becomes the children. Whether a run
may open or close depends on the characters at its two sides. A run that found no partner leaves
a floor below which later runs like it do not look. Emphasis that would nest deeper than a limit
is left as it is written.
-/

namespace AlertBridge.Markdown

/-- A piece of inline content before emphasis is resolved. In live text, stars and underscores
may be marks of emphasis. An autolink keeps the text it was written as. -/
inductive Piece where
  | text (raw : List Char) (live : Bool)
  | node (node : Node)
  | autolink (node : Node) (source : List Char)

/-- A part of inline content while emphasis is resolved. -/
inductive Part where
  | text (raw : List Char)
  | node (node : Node)

/-- A run of equal marks, at its place among the parts. -/
structure Run where
  place : Nat
  mark : Char
  /-- How many of its marks are not used yet. -/
  length : Nat
  /-- How many marks it was written with. -/
  written : Nat
  canOpen : Bool
  canClose : Bool

namespace Emphasis

/-- Texts of one liveness that follow each other become one. -/
def coalesce : List Piece → List Piece
  | [] => []
  | .text raw live :: rest =>
    match coalesce rest with
    | .text more live' :: rest' =>
      if live = live' then .text (raw ++ more) live :: rest'
      else .text raw live :: .text more live' :: rest'
    | rest' => .text raw live :: rest'
  | p :: rest => p :: coalesce rest

/-- The characters that a piece shows to the marks beside it: a line end for a break, and an
object sign for any other node. -/
def Piece.shadow : Piece → List Char
  | .text raw _ => raw
  | .node .softbreak => ['\n']
  | .node .linebreak => ['\n']
  | _ => [Char.ofNat 0xFFFC]

/-- A character that is neither blank nor alphanumeric. -/
def isMark (c : Char) : Bool := !isBlank c && !isAlphanumeric c

/-- A run between two characters may open emphasis. -/
def opens (mark before after : Char) : Bool :=
  !(mark = '_' && isAlphanumeric before && isAlphanumeric after) && !isBlank after &&
    !(isMark after && !isBlank before && !isMark before)

/-- A run between two characters may close emphasis: it may open it when read backwards. -/
def closes (mark before after : Char) : Bool := opens mark after before

/-- A star or an underscore. -/
def isDelimiter (c : Char) : Bool := c = '*' || c = '_'

/-- The parts of live text, and its runs of marks; `before` is the character in front of the
text, `after` the characters behind it, and `place` the place of the first part. -/
def splitText (after : List Char) (before : Char) (place : Nat) (text : List Char) :
    List Part × List Run :=
  match text with
  | [] => ([], [])
  | c :: cs =>
    let same := if isDelimiter c then cs.takeWhile (· = c) else cs.takeWhile (!isDelimiter ·)
    let rest := cs.drop same.length
    let next := (rest ++ after).headD '\n'
    let (parts, runs) := splitText after (same.getLastD c) (place + 1) rest
    let length := same.length + 1
    let canOpen := opens c before next
    let canClose := closes c before next
    let here := if isDelimiter c && (canOpen || canClose) then
      [⟨place, c, length, length, canOpen, canClose⟩] else []
    (.text (c :: same) :: parts, here ++ runs)
termination_by text.length
decreasing_by simp only [List.length_cons, List.length_drop]; omega

/-- The parts of pieces and the runs of marks in them. -/
def split (before : Char) (place : Nat) : List Piece → List Part × List Run
  | [] => ([], [])
  | p :: rest =>
    let after := rest.flatMap Piece.shadow
    let (parts, runs) := match p with
      | .text raw true => splitText after before place raw
      | .text raw false => ([.text raw], [])
      | .node n => ([.node n], [])
      | .autolink n _ => ([.node n], [])
    let (parts', runs') := split ((Piece.shadow p).getLastD before) (place + parts.length) rest
    (parts ++ parts', runs ++ runs')

/-- Two runs may belong together: if one of them may both open and close, their lengths must not
add up to a multiple of three, unless both are multiples of three. -/
def compatible (opener closer : Run) : Bool :=
  !(opener.canClose || closer.canOpen) ||
    (opener.written + closer.written) % 3 ≠ 0 ||
    (opener.written % 3 = 0 && closer.written % 3 = 0)

/-- The nearest run before place `n` of the list, and not below the floor, that opens for a
closing run. -/
def findOpener? (runs : List Run) (closer : Run) (floor : Nat) : Nat → Option (Nat × Run)
  | 0 => none
  | i + 1 =>
    if i < floor then none
    else match runs[i]? with
      | none => none
      | some o =>
        if o.mark = closer.mark && o.canOpen && o.length > 0 && compatible o closer then
          some (i, o)
        else findOpener? runs closer floor i

/-- The text of a part. -/
def Part.raw : Part → List Char
  | .text raw => raw
  | .node _ => []

/-- The part is not an empty text. -/
def Part.hasContent : Part → Bool
  | .text raw => !raw.isEmpty
  | .node _ => true

/-- The node of a part. -/
def Part.toNode : Part → Node
  | .text raw => .text (String.ofList raw)
  | .node n => n

/-- What floors are kept by: the mark of a closing run, its length up to threes, and whether it
may open too. -/
def floorKey (r : Run) : Char × Nat × Bool := (r.mark, r.length % 3, r.canOpen)

/-- The floors that failed searches left. -/
abbrev Floors := List ((Char × Nat × Bool) × Nat)

/-- The floor for a closing run. -/
def Floors.get (floors : Floors) (r : Run) : Nat := (floors.lookup (floorKey r)).getD 0

/-- The state of the resolution. -/
structure State where
  parts : List Part
  runs : List Run
  floors : Floors

/-- Two runs that belong together. -/
structure Match where
  openerAt : Nat
  opener : Run
  closerAt : Nat
  closer : Run
  /-- How many marks of each are used. -/
  used : Nat
  children : List Part
  floors : Floors

/-- How many marks of two runs are used for the emphasis between them, and its children, if
there is something between them that is not nested too deep. -/
def bind? (limit : Nat) (parts : List Part) (opener closer : Run) : Option (Nat × List Part) :=
  match parts[opener.place]?, parts[closer.place]? with
  | some (.text a), some (.text b) =>
    let used := if opener.length ≥ 2 && closer.length ≥ 2 && a.length ≥ 2 && b.length ≥ 2
      then 2 else 1
    let children := (parts.take closer.place).drop (opener.place + 1)
    if a.isEmpty || b.isEmpty || !children.any Part.hasContent then none
    else if limit > 0 && Node.heights (children.map Part.toNode) ≥ limit then none
    else some (used, children)
  | _, _ => none

/-- The next run from place `n` of the list that closes emphasis, with its opener. -/
def next? (limit : Nat) (parts : List Part) (runs : List Run) (floors : Floors) (n : Nat) :
    Option Match :=
  if h : n < runs.length then
    let closer := runs[n]
    if !closer.canClose || closer.length = 0 then next? limit parts runs floors (n + 1)
    else match findOpener? runs closer (floors.get closer) n with
      | none => next? limit parts runs ((floorKey closer, n) :: floors) (n + 1)
      | some (i, opener) =>
        match bind? limit parts opener closer with
        | some (used, children) => some ⟨i, opener, n, closer, used, children, floors⟩
        | none => next? limit parts runs floors (n + 1)
  else none
termination_by runs.length - n

/-- A run with some of its marks used. -/
def Run.use (r : Run) (n : Nat) : Run :=
  { r with length := r.length - n }

/-- The parts and runs after a match: the emphasis is one part, runs inside it are used up, and
runs behind it move to the front by as many places as were joined. -/
def apply (parts : List Part) (runs : List Run) (m : Match) : List Part × List Run :=
  let o := m.opener.place
  let c := m.closer.place
  let nodes := m.children.map Part.toNode
  let node := if m.used = 2 then Node.strong nodes else Node.emphasis nodes
  let a := (parts[o]?.map Part.raw).getD []
  let b := (parts[c]?.map Part.raw).getD []
  let parts' := parts.take o ++ [.text (a.take (a.length - m.used)), .node node,
    .text (b.drop m.used)] ++ parts.drop (c + 1)
  let joined := c - o - 2
  let runs' := runs.mapIdx fun i r =>
    let r := if r.place ≥ c then { r with place := r.place - joined } else r
    if i = m.openerAt then
      let r := Run.use r m.used
      { r with canOpen := r.canOpen && r.length > 0 }
    else if i = m.closerAt then
      let r := Run.use r m.used
      { r with canClose := r.canClose && r.length > 0 }
    else if joined > 0 && m.openerAt < i && i < m.closerAt then { r with length := 0 }
    else r
  (parts', runs')

/-- The parts after at most `budget` matches, each of which uses up marks, from place `n` of the
list of runs on. -/
def resolve (limit : Nat) (parts : List Part) (runs : List Run) (floors : Floors) (n : Nat) :
    Nat → List Part
  | 0 => parts
  | budget + 1 =>
    match next? limit parts runs floors n with
    | none => parts
    | some m =>
      let (parts', runs') := apply parts runs m
      let spent := m.opener.length = m.used && m.closer.length = m.used
      let n' := if spent then m.closerAt + 1 else max m.openerAt (Floors.get m.floors m.closer)
      resolve limit parts' runs' m.floors n' budget

/-- Parts as nodes: texts that follow each other are one, and empty texts are dropped. -/
def merge : List Part → List Node
  | [] => []
  | .node n :: rest => n :: merge rest
  | .text raw :: rest =>
    if raw.isEmpty then merge rest
    else match merge rest with
      | .text more :: nodes => .text (String.ofList raw ++ more) :: nodes
      | nodes => .text (String.ofList raw) :: nodes

/-- A piece as it is. -/
def Piece.toNode : Piece → Node
  | .text raw _ => .text (String.ofList raw)
  | .node n => n
  | .autolink n _ => n

/-- A mark of emphasis stands in the piece. -/
def Piece.hasMark : Piece → Bool
  | .text raw true => raw.any isDelimiter
  | _ => false

/-- Pieces as nodes, where emphasis may nest `limit` levels deep. -/
def finish (limit : Nat) (pieces : List Piece) : List Node :=
  let pieces := coalesce pieces
  if limit = 0 || !pieces.any Piece.hasMark then pieces.map Piece.toNode
  else
    let (parts, runs) := split '\n' 0 pieces
    merge (resolve limit parts runs [] 0 (runs.foldl (fun n r => n + r.length) 0))

end Emphasis

end AlertBridge.Markdown
