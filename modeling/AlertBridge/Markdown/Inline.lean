import AlertBridge.Markdown.Emphasis
import AlertBridge.Markdown.Link
import AlertBridge.Markdown.Tag

/-!
# Inline content

One pass over the text of a paragraph or a heading finds escapes, code spans, struck-through text,
links and images, automatic links, raw HTML and line breaks. A square bracket that may open a link
starts a frame, which collects pieces until a closing bracket makes a link of them or gives them
back to the frame around. Emphasis is resolved last, in each link's text and in the whole.
-/

namespace AlertBridge.Markdown

/-- A bracket that may open a link or an image, and the pieces in front of it. -/
structure Frame where
  image : Bool
  /-- The source after the bracket. -/
  start : List Char
  /-- The pieces in front of the bracket, the last one first. -/
  outer : List Piece
  /-- No link has been made after the bracket. -/
  active : Bool
  /-- Another bracket has been opened after it. -/
  nested : Bool
  /-- The greatest height of the nodes since the bracket. -/
  height : Nat

/-- What the pass has found: the pieces since the innermost open bracket, the last one first. -/
structure Scan where
  pieces : List Piece
  frames : List Frame
  /-- Inside an HTML link. -/
  inLink : Bool

namespace Scan

/-- The text of an opening bracket. -/
def Frame.mark (f : Frame) : List Char := if f.image then ['!', '['] else ['[']

/-- The scan with a node's height noted at the innermost bracket. -/
def note (s : Scan) (height : Nat) : Scan :=
  match s.frames with
  | [] => s
  | f :: rest => { s with frames := { f with height := max f.height height } :: rest }

/-- The scan with one more piece. -/
def push (s : Scan) (p : Piece) : Scan :=
  let s' := { s with pieces := p :: s.pieces }
  match p with
  | .text .. => s'
  | .node n => s'.note n.height
  | .autolink n _ =>
    match s.frames with
    | f :: _ => if f.image then s'.note n.height else s'
    | [] => s'

/-- The scan with live text added. -/
def pushText (s : Scan) (raw : List Char) : Scan := s.push (.text raw true)

/-- The scan with a bracket opened before `start`. -/
def openBracket (s : Scan) (image : Bool) (start : List Char) : Scan :=
  let frames := match s.frames with
    | f :: rest => { f with nested := true } :: rest
    | [] => []
  { s with pieces := [], frames := ⟨image, start, s.pieces, true, false, 0⟩ :: frames }

/-- The pieces of a frame as plain text and what follows it. -/
def Frame.flatten (f : Frame) (inner : List Piece) : List Piece :=
  inner ++ .text (Frame.mark f) true :: f.outer

/-- All pieces, those of open brackets included, in order. -/
def allPieces (s : Scan) : List Piece :=
  (s.frames.foldl (fun inner f => Frame.flatten f inner) s.pieces).reverse

/-- An autolink inside the text of a link is text. -/
def Piece.unlinked : Piece → Piece
  | .autolink _ source => .text source false
  | p => p

/-- The innermost bracket and the scan without it; its height counts for the one around. -/
def pop (s : Scan) : Option (Frame × Scan) :=
  match s.frames with
  | [] => none
  | f :: rest => some (f, { s with frames := rest }.note f.height)

/-- The innermost bracket is text after all, and so is its closing bracket. -/
def closeAsText (s : Scan) : Scan :=
  match s.pop with
  | none => s.pushText [']']
  | some (f, s') => { s' with pieces := Frame.flatten f s.pieces }.pushText [']']

/-- The definition that a closing bracket refers to, and the rest after its label. The label in
brackets may follow; else the text between the brackets is the label, if no other bracket was
opened in it. -/
def readReference? (refs : References) (f : Frame) (close rest : List Char) :
    Option (Target × List Char) :=
  let explicit := match rest with
    | '[' :: after =>
      (readLabel? (after.take (maxLabel + 1))).map fun (label, _) =>
        (label, after.drop (label.length + 1))
    | _ => none
  let length := f.start.length - close.length
  let implicit := fun (after : List Char) =>
    if f.nested || length > maxLabel then none else some (f.start.take length, after)
  let found := match explicit with
    | some ([], after) => implicit after
    | some (label, after) => some (label, after)
    | none => implicit rest
  found.bind fun (label, after) => (refs.lookup (labelKey label)).map fun t => (t, after)

/-- What a closing bracket at `close` links to: a target in parentheses, or else a definition. -/
def readTarget? (refs : References) (f : Frame) (close rest : List Char) :
    Option (Target × List Char) :=
  let inline := match rest with
    | '(' :: after => readInlineTarget? after
    | _ => none
  inline.orElse fun _ => readReference? refs f close rest

/-- The scan after a closing bracket, whose source starts at `close`, and the rest of the
source. -/
def closeBracket (refs : References) (depth : Nat) (s : Scan) (close rest : List Char) :
    Scan × List Char :=
  match s.pop with
  | none => (s.closeAsText, rest)
  | some (f, s') =>
    if !f.active || (s.inLink && !f.image) || depth + f.height ≥ maxNesting then
      (s.closeAsText, rest)
    else match readTarget? refs f close rest with
      | none => (s.closeAsText, rest)
      | some (t, after) =>
        let inner := s.pieces.reverse
        let inner := if f.image then inner else inner.map Piece.unlinked
        let children := Emphasis.finish (maxNesting - (depth + 1)) inner
        let node := if f.image then Node.image t.url t.title children
          else Node.link t.url t.title children
        let s' := { s' with pieces := f.outer }.push (.node node)
        let frames := if f.image then s'.frames
          else s'.frames.map fun g => if g.image then g else { g with active := false }
        ({ s' with frames }, after)

end Scan

/-- The code up to the next run of exactly `n` backticks, and what follows that run. -/
def readCode? (n : Nat) (done : List Char) (cs : List Char) : Option (List Char × List Char) :=
  match cs with
  | [] => none
  | c :: rest =>
    if c = '`' then
      let ticks := rest.takeWhile (· = '`')
      let after := rest.drop ticks.length
      if ticks.length + 1 = n then some (done.reverse, after)
      else readCode? n (ticks ++ c :: done) after
    else readCode? n (c :: done) rest
termination_by cs.length
decreasing_by all_goals simp only [List.length_cons, List.length_drop]; omega

/-- The text of a code span: line ends are spaces, and one space is dropped at each end where both
ends have one and there is more. -/
def codeText (code : List Char) : List Char :=
  let code := code.map fun c => if c = '\n' then ' ' else c
  match code, code.getLast? with
  | ' ' :: rest, some ' ' => if rest.any (· ≠ ' ') then rest.dropLast else code
  | _, _ => code

/-- Two tildes close struck-through text after the characters `before`, the nearest first. -/
def closesStrike (before after : List Char) : Bool :=
  let lone := match after with
    | '~' :: '~' :: _ => false
    | '~' :: _ => true
    | _ => false
  !lone && match before with
    | [] => false
    | '~' :: rest => (rest.takeWhile (· = '\\')).length % 2 = 1
    | c :: _ => !isBlank c

/-- Struck-through text after its opening tildes, and what follows its closing ones. -/
def readStrike? (before : List Char) : List Char → Option (List Char × List Char)
  | [] => none
  | '~' :: rest =>
    match rest with
    | '~' :: after =>
      if !before.isEmpty && closesStrike before after then some (before.reverse, after)
      else readStrike? ('~' :: before) rest
    | _ => readStrike? ('~' :: before) rest
  | c :: rest => readStrike? (c :: before) rest

/-- The text can be struck through: it starts with neither a blank nor a tilde. -/
def opensStrike : List Char → Bool
  | [] => false
  | c :: _ => !isBlank c && c ≠ '~'

/-- An address in angle brackets, after the opening one: a scheme of 2 to 32 characters, a colon,
and no blank, control character or bracket. -/
def readAutoLink? (cs : List Char) : Option (List Char × List Char) :=
  let isSchemeChar (c : Char) : Bool := c.isAlphanum || c = '.' || c = '+' || c = '-'
  match cs with
  | [] => none
  | c :: rest =>
    let scheme := rest.takeWhile isSchemeChar
    if !c.isAlpha || scheme.length < 1 || scheme.length > 31 then none
    else match rest.drop scheme.length with
      | ':' :: more =>
        let path := more.takeWhile fun c => c ≠ '<' && c ≠ '>' && c.toNat > 32
        match more.drop path.length with
        | '>' :: after => some (c :: scheme ++ ':' :: path, after)
        | _ => none
      | _ => none

/-- A part of a host name: 1 to 63 letters, digits and hyphens, with a hyphen at neither end. -/
def isHostLabel (label : List Char) : Bool :=
  label.length ≤ 63 && label.all (fun c => c.isAlphanum || c = '-') &&
    label.head?.any Char.isAlphanum && label.getLast?.any Char.isAlphanum

/-- A mail address in angle brackets, after the opening one. -/
def readAutoMail? (cs : List Char) : Option (List Char × List Char) :=
  let isLocalChar (c : Char) : Bool :=
    c.isAlphanum || ".!#$%&'*+/=?^_`\x7b|\x7d~-".toList.contains c
  let name := cs.takeWhile isLocalChar
  if name.isEmpty then none
  else match cs.drop name.length with
    | '@' :: more =>
      let host := more.takeWhile fun c => c.isAlphanum || c = '-' || c = '.'
      match more.drop host.length with
      | '>' :: after =>
        if (splitChars '.' host).all isHostLabel then some (name ++ '@' :: host, after) else none
      | _ => none
    | _ => none

/-- The text up to and with a marker, and what follows. -/
def readThrough? (marker : String) (cs : List Char) : Option (List Char × List Char) :=
  (splitFirst? marker.toList cs).map fun (before, after) => (before ++ marker.toList, after)

/-- Raw HTML at the start of the text, which stands after its opening bracket: a comment, an
instruction, a section of character data, a declaration or a tag. -/
def readInlineHtml? (cs : List Char) : Option (List Char × List Char) :=
  let from? (opening : String) : Option (List Char) := stripStart? opening.toList cs
  let upTo (opening marker : String) (rest : List Char) : Option (List Char × List Char) :=
    (readThrough? marker rest).map fun (raw, after) => (opening.toList ++ raw, after)
  if let some rest := from? "!-->" then some ("!-->".toList, rest)
  else if let some rest := from? "!--->" then some ("!--->".toList, rest)
  else if let some rest := from? "!--" then upTo "!--" "-->" rest
  else if let some rest := from? "?" then upTo "?" "?>" rest
  else if let some rest := from? "![CDATA[" then upTo "![CDATA[" "]]>" rest
  else if let some rest := from? "!" then
    let name := rest.takeWhile fun c => 'A' ≤ c && c ≤ 'Z'
    match rest.drop name.length with
    | c :: more =>
      if !name.isEmpty && isLinkSpace c then
        (readThrough? ">" more).map fun (raw, after) => ('!' :: name ++ c :: raw, after)
      else none
    | [] => none
  else (Tag.read? cs).map fun after => (cs.take (cs.length - after.length), after)

/-- What raw HTML says about being inside a link: it opens one, closes one, or neither. -/
def linkChange? (html : List Char) : Option Bool :=
  let starts (openings : List String) : Bool := openings.any fun o => o.toList.isPrefixOf html
  if starts ["<a ", "<a>", "<A ", "<A>"] then some true
  else if starts ["</a ", "</a>", "</A ", "</A>"] then some false
  else none

/-- A character that may start something other than text. -/
def isTrigger (c : Char) : Bool :=
  c = '\\' || c = '`' || c = '~' || c = '!' || c = '[' || c = ']' || c = '<' || c = '\n' || c = ' '

/-- One construct at the start of the text that needs no pass of its own: the scan after it and
the rest of the text. -/
def scanOne (refs : References) (depth : Nat) (s : Scan) (c : Char) (cs : List Char) :
    Scan × List Char :=
  match c with
  | '\\' =>
    match cs with
    | p :: rest =>
      if isPunctuation p then (s.push (.text [p] false), rest)
      else if p = '\n' then (s.push (.node .linebreak), rest.dropWhile isBlank)
      else (s.pushText [c], cs)
    | [] => (s.pushText [c], cs)
  | ' ' =>
    let spaces := cs.takeWhile (· = ' ')
    match cs.drop spaces.length with
    | '\n' :: rest =>
      let node := if spaces.isEmpty then Node.softbreak else Node.linebreak
      (s.push (.node node), rest.dropWhile isBlank)
    | rest => (s.pushText (c :: spaces), rest)
  | '\n' => (s.push (.node .softbreak), cs.dropWhile isBlank)
  | '`' =>
    let ticks := cs.takeWhile (· = '`')
    let rest := cs.drop ticks.length
    match readCode? (ticks.length + 1) [] rest with
    | some (code, after) => (s.push (.node (.codespan (String.ofList (codeText code)))), after)
    | none => (s.pushText (c :: ticks), rest)
  | '!' =>
    match cs with
    | '[' :: rest => (s.openBracket true rest, rest)
    | _ => (s.pushText [c], cs)
  | '[' => (s.openBracket false cs, cs)
  | ']' => s.closeBracket refs depth (c :: cs) cs
  | '<' =>
    let blocked := s.inLink || depth ≥ maxNesting
    let auto (address text : List Char) : Scan :=
      let source := '<' :: text ++ ['>']
      if blocked then s.pushText source
      else
        let node := Node.link (toAddress address) none [.text (String.ofList text)]
        s.push (.autolink node source)
    match readAutoLink? cs with
    | some (text, after) => (auto text text, after)
    | none =>
      match readAutoMail? cs with
      | some (text, after) => (auto ("mailto:".toList ++ text) text, after)
      | none =>
        match readInlineHtml? cs with
        | some (raw, after) =>
          let html := '<' :: raw
          let s' := s.push (.node (.inlineHtml (String.ofList html)))
          ({ s' with inLink := (linkChange? html).getD s.inLink }, after)
        | none => (s.pushText [c], cs)
  | _ =>
    let more := cs.takeWhile (!isTrigger ·)
    (s.pushText (c :: more), cs.drop more.length)

theorem length_of_readStrike? {before cs inner after : List Char}
    (h : readStrike? before cs = some (inner, after)) :
    inner.length + after.length < before.length + cs.length := by
  fun_induction readStrike? before cs with
  | case1 => simp at h
  | case2 before after' =>
    simp only [Option.some.injEq, Prod.mk.injEq] at h
    obtain ⟨rfl, rfl⟩ := h
    simp only [List.length_reverse, List.length_cons]; omega
  | case3 _ _ _ ih => have := ih h; simp_all; omega
  | case4 _ _ _ ih => have := ih h; simp_all; omega
  | case5 _ _ _ _ ih => have := ih h; simp_all; omega

/-- The pass over a text, `depth` levels down, from what has been found before. Each construct
takes at least one character. -/
def scan (refs : References) (depth : Nat) (s : Scan) (cs : List Char) : Scan :=
  match cs with
  | [] => s
  | '~' :: '~' :: text =>
    if opensStrike text && depth < maxNesting then
      match _h : readStrike? [] text with
      | some (inner, after) =>
        let found := scan refs (depth + 1) ⟨[], [], s.inLink⟩ inner
        let children := Emphasis.finish (maxNesting - (depth + 1)) found.allPieces
        scan refs depth (s.push (.node (.strikethrough children))) after
      | none => scan refs depth (s.pushText ['~']) ('~' :: text)
    else scan refs depth (s.pushText ['~']) ('~' :: text)
  | '~' :: rest => scan refs depth (s.pushText ['~']) rest
  | c :: rest =>
    let (s', after) := scanOne refs depth s c rest
    if after.length ≤ rest.length then scan refs depth s' after else s'
termination_by cs.length
decreasing_by
  · have := length_of_readStrike? (by assumption)
    simp_all; omega
  · have := length_of_readStrike? (by assumption)
    simp_all; omega
  all_goals simp only [List.length_cons]; omega

/-- The inline nodes of a text. -/
def inlines (refs : References) (cs : List Char) : List Node :=
  if cs.isEmpty then [.text ""]
  else Emphasis.finish maxNesting (scan refs 0 ⟨[], [], false⟩ cs).allPieces

end AlertBridge.Markdown
