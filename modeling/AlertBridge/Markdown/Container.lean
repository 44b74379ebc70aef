import AlertBridge.Markdown.Block

/-!
# Quotes and lists

A quote and a list item first collect their lines, with the marks taken off; the lines are then
scanned on their own. A line without a mark still belongs to the container if it goes on with a
paragraph; such a line is lazy, and the underline of a heading may not stand on it.

A block that ends a container is scanned before the lines of the container are. A container that
was ended waits in the list of `Pending` ones, and takes its place among the blocks once the block
that ended it is there.
-/

namespace AlertBridge.Markdown

/-- A container whose lines are known but not scanned yet. -/
inductive Pending where
  /-- The text of a quote, and where in it lazy lines start. -/
  | quote (text : List Char) (lazy : List Nat)
  /-- A list with its items before the last one, the text of the last one, and the number of
  blocks in front of the list. -/
  | list (ordered tight : Bool) (items : List (List Block)) (last : List Char) (place : Nat)

/-- What a scan needs to know of the source it is in. -/
structure Place where
  /-- The number of containers around. -/
  depth : Nat
  /-- The length of the source. -/
  length : Nat
  /-- Where lazy lines start. -/
  lazy : List Nat

/-- How the lines of a container are scanned: the depth, where lazy lines start, the text, and the
definitions so far. -/
abbrev InnerScan := Nat → List Nat → List Char → References → List Block × References

/-- The text of a line behind its quotation mark and one space. -/
def quoteLine? (line : List Char) : Option (List Char) :=
  match dedent? Start.maxIndent line with
  | some (_, '>' :: rest) =>
    match fillTab 3 rest with
    | ' ' :: text => some text
    | text => some text
  | _ => none

namespace Container

/-- What a line ends a container with, if the block really starts there. -/
def ended? (s : BlockScan) (cs : List Char) (start : Option Start) : Option Start :=
  start.filter fun b => match b with
    | .quote => true
    | .list _ => true
    | b => ({ s with rest := cs }.leaf? b).isSome

/-- The lines of a quote that all have marks. -/
def markedLines (text cs : List Char) : List Char × List Char :=
  match cs with
  | [] => (text, [])
  | c :: rest =>
    match quoteLine? (takeLine (c :: rest)).1 with
    | some line => markedLines (text ++ line) (takeLine (c :: rest)).2
    | none => (text, c :: rest)
termination_by cs.length
decreasing_by exact length_rest_takeLine ..

/-- The text of a quote with its lazy lines, the places of these, the rest of the source, and
the block that ends the quote. A lazy line may not follow a blank one. -/
def quoteLines (s : BlockScan) (text : List Char) (lazy : List Nat) (afterBlank : Bool)
    (cs : List Char) : List Char × List Nat × List Char × Option Start :=
  match cs with
  | [] => (text, lazy, [], none)
  | c :: rest =>
    let line := (takeLine (c :: rest)).1
    match quoteLine? line with
    | some inner =>
      quoteLines s (text ++ inner) lazy (allBlank inner) (takeLine (c :: rest)).2
    | none =>
      if afterBlank then (text, lazy, c :: rest, none)
      else match ended? s (c :: rest) (Start.endingQuote? (c :: rest)) with
        | some start => (text, lazy, c :: rest, some start)
        | none =>
          quoteLines s (text ++ fillTab 3 line) (text.length :: lazy) false
            (takeLine (c :: rest)).2
termination_by cs.length
decreasing_by all_goals exact length_rest_takeLine ..

/-- The text of a quote, where lazy lines start in it, the rest of the source, and the block that
ends the quote. A quote that starts with code or a blank line has no lazy lines. -/
def readQuote (s : BlockScan) : List Char × List Nat × List Char × Option Start :=
  let (line, cs) := takeLine s.rest
  let text := (quoteLine? line).getD []
  let strict := (afterBlankLine? text).isSome || isIndentedCode text ||
    (Start.fence? Start.maxIndent text).isSome
  let (text, lazy, rest, start) :=
    if strict then
      let (text, rest) := markedLines text cs
      (text, [], rest, none)
    else quoteLines s text [] false cs
  (mapLines widenTab text, lazy, rest, start)

/-- How the lines of an item end. -/
inductive ItemEnd where
  /-- With the next item, after a blank line or not. -/
  | next (marker : ListMarker) (loose : Bool)
  /-- With another block. -/
  | block (start : Start)
  /-- With the list. -/
  | done

/-- The text behind a marker, and the column that the item's lines have to reach. -/
def itemText (m : ListMarker) : List Char × Nat :=
  let width := m.indent + m.width
  let text := expandIndent width m.text
  if allBlank text then ([], width + 1)
  else
    let indent := leadingSpaces text
    let space := if indent ≥ 5 then 1 else indent
    (text.drop space ++ ['\n'], width + space)

/-- The further lines of an item, the rest of the source, and how they end. -/
def itemLines (s : BlockScan) (m : ListMarker) (lines : List Char) (afterBlank : Bool)
    (cs : List Char) : List Char × List Char × ItemEnd :=
  match cs with
  | [] => (lines, [], .done)
  | c :: rest =>
    let line := (takeLine (c :: rest)).1
    let width := m.indent + m.width
    let (text, column) := itemText m
    if (afterBlankLine? line).isSome then
      itemLines s m (lines ++ ['\n']) true (takeLine (c :: rest)).2
    else if reaches column line then
      if afterBlank && text.isEmpty && allBlank lines then (lines, c :: rest, .done)
      else itemLines s m (lines ++ line) false (takeLine (c :: rest)).2
    else
      let most := min width Start.maxIndent
      let found : Option ItemEnd :=
        if let some start := Start.thematicBreak? most (c :: rest) then some (.block start)
        else match Start.marker? most (expandIndent 0 line) with
          | some next =>
            if next.bullet = m.bullet then some (.next next afterBlank)
            else (ended? s (c :: rest) (Start.endingItem? most (c :: rest))).map .block
          | none => (ended? s (c :: rest) (Start.endingItem? most (c :: rest))).map .block
      match found with
      | some (.next next loose) => (lines, (takeLine (c :: rest)).2, .next next loose)
      | some (.block (.list _)) => (lines, c :: rest, .done)
      | some ending => (lines, c :: rest, ending)
      | none =>
        if afterBlank then (lines, c :: rest, .done)
        else itemLines s m (lines ++ line) afterBlank (takeLine (c :: rest)).2
termination_by cs.length
decreasing_by all_goals exact length_rest_takeLine ..

/-- A line of an item without the item's indentation. -/
def itemLine (column : Nat) (line : List Char) : List Char :=
  if reaches column line then stripIndent column line else expandIndent 0 line

/-- The source of an item. -/
def itemSource (m : ListMarker) (lines : List Char) : List Char :=
  let (text, column) := itemText m
  trimLineEnds (text ++ mapLines (itemLine column) lines)

/-- Blank lines or two paragraphs among the blocks of an item make the list loose. -/
def isLoose (blocks : List Block) : Bool :=
  blocks.any (fun b => match b with | .blank => true | _ => false) ||
    (blocks.countP fun b => match b with | .paragraph _ => true | _ => false) > 1

/-- A block set before the block that was found last. -/
def setBeforeLast (b : Block) : List Block → List Block
  | [] => [b]
  | last :: before => last :: b :: before

/-- A block set behind the first `place` blocks. -/
def setAt (b : Block) (place : Nat) (out : List Block) : List Block :=
  out.take (out.length - place) ++ b :: out.drop (out.length - place)

/-- The scan with a container that waited at its place among the blocks. -/
def settle (inner : InnerScan) (depth : Nat) (s : BlockScan) : Pending → BlockScan
  | .quote text lazy =>
    let (blocks, refs) := inner (depth + 1) lazy text s.refs
    { s with out := setBeforeLast (.quote blocks) s.out, refs }
  | .list ordered tight items last place =>
    let (blocks, refs) := inner (depth + 1) [] last s.refs
    let list := Block.list ordered (tight && !isLoose blocks) (items ++ [blocks])
    { s with out := setAt list place s.out, refs }

/-- The state of a scan between two blocks: containers that wait, the innermost first, and the
block that the next line is known to start. -/
structure Step where
  pending : List Pending
  forced : Option Start
  scan : BlockScan

/-- A step after which no container waits. -/
def settled (inner : InnerScan) (depth : Nat) (pending : List Pending) (s : BlockScan) : Step :=
  ⟨[], none, pending.foldl (settle inner depth) s⟩

/-- The scan of a list from behind the first line of an item on. -/
def readItems (inner : InnerScan) (place : Place) (pending : List Pending) (ordered tight : Bool)
    (items : List (List Block)) (m : ListMarker) (s : BlockScan) : Step :=
  let (lines, rest, ending) := itemLines s m [] false s.rest
  let source := itemSource m lines
  match ending with
  | .block start =>
    ⟨.list ordered tight items source s.out.length :: pending, some start, { s with rest }⟩
  | .done =>
    let (blocks, refs) := inner (place.depth + 1) [] source s.refs
    let list := Block.list ordered (tight && !isLoose blocks) (items ++ [blocks])
    settled inner place.depth pending { s with rest, refs, out := list :: s.out }
  | .next m' loose =>
    let (blocks, refs) := inner (place.depth + 1) [] source s.refs
    let tight := tight && !loose && !isLoose blocks
    if rest.length < s.rest.length then
      readItems inner place pending ordered tight (items ++ [blocks]) m' { s with rest, refs }
    else settled inner place.depth pending { s with rest, refs }
termination_by s.rest.length

/-- A list at the next line. An item without text, or with a number other than one, gives way to a
paragraph. -/
def readList (inner : InnerScan) (place : Place) (pending : List Pending) (m : ListMarker)
    (s : BlockScan) : Step :=
  let weak := allBlank m.text || (m.number.any (· ≠ 1))
  match if weak then s.continueParagraph? else none with
  | some s' => settled inner place.depth pending s'
  | none =>
    readItems inner place pending m.number.isSome true [] m { s with rest := afterLine s.rest }

/-- What a line of equals signs or hyphens is: the underline of the paragraph before it, unless
the line is lazy, or else a thematic break or a list. -/
def underline (inner : InnerScan) (place : Place) (mark : Char) (s : BlockScan) : Step :=
  if place.lazy.contains (place.length - s.rest.length) then ⟨[], none, s.addLine⟩
  else match s.out with
    | .paragraph text :: before =>
      let heading := Block.heading (if mark = '=' then 1 else 2) text
      ⟨[], none, { s with out := heading :: before, rest := afterLine s.rest }⟩
    | _ =>
      match Start.thematicBreak? Start.maxIndent s.rest with
      | some _ => ⟨[], none, s.push .thematicBreak (afterLine s.rest)⟩
      | none => match Start.marker? Start.maxIndent s.rest with
        | some m => readList inner place [] m s
        | none => ⟨[], none, s.addLine⟩

/-- One step of the scan, at a line that starts `start`, or goes on with a paragraph. -/
def step (inner : InnerScan) (place : Place) (pending : List Pending) (start : Option Start)
    (s : BlockScan) : Step :=
  match start with
  | some .quote =>
    let (text, lazy, rest, ending) := readQuote s
    match ending with
    | some start => ⟨.quote text lazy :: pending, some start, { s with rest }⟩
    | none =>
      let (blocks, refs) := inner (place.depth + 1) lazy text s.refs
      settled inner place.depth pending { s with rest, refs, out := .quote blocks :: s.out }
  | some (.list m) => readList inner place pending m s
  | some (.underline mark) => underline inner place mark s
  | some start => settled inner place.depth pending ((s.leaf? start).getD s.addLine)
  | none => ⟨[], none, s.addLine⟩

/-- The next step where nothing is known of the line: indented code first, which goes on with a
paragraph before it, then what the line starts. -/
def nextStep (inner : InnerScan) (place : Place) (s : BlockScan) : Step :=
  if isIndentedCode (takeLine s.rest).1 then
    match s.continueParagraph? with
    | some s' => ⟨[], none, s'⟩
    | none =>
      let (code, rest) := takeIndentedCode s.rest
      ⟨[], none, s.push (.code (indentedCode code)) rest⟩
  else step inner place [] (Start.first? (place.depth < maxNesting) s.rest) s

/-- All steps to the end of the source. Each takes at least one line. -/
def scan (inner : InnerScan) (place : Place) (now : Step) : BlockScan :=
  if now.scan.rest.isEmpty then (settled inner place.depth now.pending now.scan).scan
  else
    let then_ := match now.forced with
      | some start => step inner place now.pending (some start) now.scan
      | none => nextStep inner place now.scan
    if then_.scan.rest.length < now.scan.rest.length then scan inner place then_ else then_.scan
termination_by now.scan.rest.length

/-- The blocks of a source inside `depth` containers, with at most `levels` levels below. Each
level takes a mark off its lines, so that a source has no more levels than characters. -/
def blocks : (levels : Nat) → InnerScan
  | 0, _, _, _, refs => ([], refs)
  | levels + 1, depth, lazy, cs, refs =>
    let s := scan (blocks levels) ⟨depth, cs.length, lazy⟩ ⟨[], none, ⟨cs, [], refs⟩⟩
    (s.out.reverse, s.refs)

end Container

end AlertBridge.Markdown
