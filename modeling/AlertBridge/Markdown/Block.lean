import AlertBridge.Markdown.BlockStart

/-!
# Blocks without blocks inside

The blocks of a document before inline content is read, and the scan that collects them. A line
that starts no block goes on with the paragraph before it; some starts give way to such a
paragraph.
-/

namespace AlertBridge.Markdown

/-- A block, with its text as it is written. -/
inductive Block where
  | paragraph (text : List Char)
  | heading (level : Nat) (text : List Char)
  | code (raw : List Char)
  | html (raw : List Char)
  | quote (blocks : List Block)
  | list (ordered tight : Bool) (items : List (List Block))
  | blank
  | thematicBreak
  deriving Inhabited

/-- What a scan of blocks has found. -/
structure BlockScan where
  /-- The source from the next line on. -/
  rest : List Char
  /-- The blocks, the last one first. -/
  out : List Block
  /-- The definitions of the document so far. -/
  refs : References

namespace BlockScan

/-- The scan with one more block, and the source behind it. -/
def push (s : BlockScan) (b : Block) (rest : List Char) : BlockScan :=
  { s with out := b :: s.out, rest }

/-- The scan with the next line added to a paragraph, a new one if there is none. -/
def addLine (s : BlockScan) : BlockScan :=
  let (line, rest) := takeLine s.rest
  match s.out with
  | .paragraph text :: before => { s with out := .paragraph (text ++ line) :: before, rest }
  | out => { s with out := .paragraph line :: out, rest }

/-- The scan with the next line added to the paragraph before it, if there is one. -/
def continueParagraph? (s : BlockScan) : Option BlockScan :=
  match s.out with
  | .paragraph _ :: _ => some s.addLine
  | _ => none

/-- The code between a fence and the line that closes it, and what follows. -/
def readFenced (mark : Char) (count : Nat) (cs : List Char) : List Char × List Char :=
  match cs with
  | [] => ([], [])
  | c :: rest =>
    let (line, after) := ((takeLine (c :: rest)).1, (takeLine (c :: rest)).2)
    let body := lineText (line.drop (leadingSpaces line))
    let run := (body.takeWhile (· = mark)).length
    if leadingSpaces line ≤ 3 && run ≥ count && (body.drop run).all isIndent then ([], after)
    else
      let (more, after) := readFenced mark count (takeLine (c :: rest)).2
      (line ++ more, after)
termination_by cs.length
decreasing_by exact length_rest_takeLine ..

/-- Fenced code. The info of a backtick fence holds no backtick. -/
def fence? (s : BlockScan) (indent : Nat) (mark : Char) (count : Nat) (info : List Char) :
    Option BlockScan :=
  if mark = '`' && info.contains '`' then none
  else
    let (code, rest) := readFenced mark count (afterLine s.rest)
    let unindent (line : List Char) : List Char := line.drop (min indent (leadingSpaces line))
    some (s.push (.code (mapLines unindent code)) rest)

/-- The end of a line: spaces, tabs and a line end; what follows it. -/
def readLineEnd? (cs : List Char) : Option (List Char) :=
  match cs.dropWhile isIndent with
  | '\n' :: rest => some rest
  | _ => none

/-- A link definition: the destination and the title may each stand on a line of their own, and
nothing but they may stand on their lines. The first definition of a label counts. -/
def definition? (s : BlockScan) (label after : List Char) : Option BlockScan :=
  match s.continueParagraph? with
  | some s' => some s'
  | none => do
    let key := labelKey label
    if key = "" then none
    else
      let (href, rest) ← readDestination? true after
      let region := (untilBlankLine rest).1
      let titled := match readTitle? region with
        | some (title, left) =>
          (readLineEnd? (rest.drop (region.length - left.length))).map fun r => (some title, r)
        | none => none
      let (title, rest) ← titled.orElse fun _ => (readLineEnd? rest).map fun r => (none, r)
      let target : Target := ⟨toAddress (unescape href), presentTitle title⟩
      let refs := if (s.refs.lookup key).isSome then s.refs else s.refs ++ [(key, target)]
      some { s with rest, refs }

/-- Raw HTML up to the end of the line on which its end marker stands. -/
def htmlThrough (s : BlockScan) (marker : String) (after : List Char) : BlockScan :=
  match splitFirst? marker.toList after with
  | none => s.push (.html s.rest) []
  | some (before, _) =>
    let opening := s.rest.take (s.rest.length - after.length + before.length)
    let (line, rest) := takeLine (s.rest.drop opening.length)
    s.push (.html (opening ++ line)) rest

/-- Raw HTML up to the next blank line. -/
def htmlToBlank (s : BlockScan) : BlockScan :=
  let (raw, rest) := untilBlankLine s.rest
  s.push (.html raw) rest

/-- The end of a tag that stands alone on its line. -/
def closeAlone (cs : List Char) : Option (List Char) :=
  match cs.dropWhile isIndent with
  | '>' :: rest =>
    match rest.dropWhile isIndent with
    | [] => some []
    | '\n' :: rest => some rest
    | _ => none
  | _ => none

/-- Raw HTML. What is neither a block tag nor a literal tag has to be a whole tag alone on its
line, and gives way to a paragraph. -/
def html? (s : BlockScan) (opening after : List Char) : Option BlockScan :=
  let alone (ok : List Char → Bool) : Option BlockScan :=
    match s.continueParagraph? with
    | some s' => some s'
    | none =>
      let line := (takeLine s.rest).1
      let used := s.rest.length - after.length
      if used ≤ line.length && ok (line.drop used) then some s.htmlToBlank else none
  let small (name : List Char) : String := String.ofList (name.map Char.toLower)
  match opening with
  | '<' :: '!' :: '-' :: _ => some (s.htmlThrough "-->" after)
  | '<' :: '?' :: _ => some (s.htmlThrough "?>" after)
  | '<' :: '!' :: '[' :: _ => some (s.htmlThrough "]]>" after)
  | '<' :: '!' :: _ => some (s.htmlThrough ">" after)
  | '<' :: '/' :: name =>
    if Start.blockTags.contains (small name) then some s.htmlToBlank
    else alone fun cs => (closeAlone cs).isSome
  | _ :: name =>
    if Start.literalTags.contains (small name) then
      some (s.htmlThrough ("</" ++ small name ++ ">") after)
    else if Start.blockTags.contains (small name) then some s.htmlToBlank
    else alone fun cs => (Tag.attributes closeAlone cs).isSome
  | [] => none

/-- A block without blocks inside that starts at the next line; none where what the line seemed
to start is no block after all. -/
def leaf? (s : BlockScan) : Start → Option BlockScan
  | .fence indent mark count info => s.fence? indent mark count info
  | .heading level text => some (s.push (.heading level text) (afterLine s.rest))
  | .thematicBreak => some (s.push .thematicBreak (afterLine s.rest))
  | .definition label after => s.definition? label after
  | .html opening after => s.html? opening after
  | .blank => some (s.push .blank (skipBlankLines s.rest))
  | .underline _ => none
  | .quote => none
  | .list _ => none

end BlockScan

end AlertBridge.Markdown
