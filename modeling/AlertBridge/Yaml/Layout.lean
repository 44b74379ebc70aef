import AlertBridge.Yaml.Token

/-!
# Layout

Outside of flow collections the indentation of a YAML text tells where a collection starts and
ends. `tokens?` reads a text from left to right and adds the tokens that only the layout shows. A
key is known as one when the colon behind it is found: until then it is a candidate, which has to
be on one line and not too long.
-/

namespace AlertBridge.Yaml

/-- What the layout adds in front of a token. -/
inductive Lead where
  | nothing
  /-- The token starts a key. -/
  | key
  /-- The token starts the first key of a block mapping. -/
  | mapping
  deriving DecidableEq

/-- The tokens that the layout adds. -/
def Lead.tokens : Lead → List Token
  | nothing => []
  | key => [.key]
  | mapping => [.blockMappingStart, .key]

/-- A token that may turn out to start a key. -/
structure KeyCandidate where
  /-- The number of tokens in front. -/
  position : Nat
  /-- Nothing but a key can stand here. -/
  required : Bool
  index : Nat
  line : Nat
  column : Nat

/-- The longest candidate for a key. -/
def maxKeyLength : Nat := 1024

/-- The state of reading: the position, the tokens so far with what the layout adds in front of
each, the indentations of the collections that are open, the number of open flow collections,
whether a key may start here, and the candidates by the number of open flow collections. -/
structure Layout where
  cursor : Cursor
  tokens : Array (Lead × Token)
  indent : Int
  outer : List Int
  flow : Nat
  keyAllowed : Bool
  candidates : List (Nat × KeyCandidate)

namespace Layout

/-- The start of a text. -/
def start (cs : List Char) : Layout := ⟨.start cs, #[], -1, [], 0, true, []⟩

/-- A token is added. -/
def push (s : Layout) (t : Token) : Layout := { s with tokens := s.tokens.push (.nothing, t) }

/-- A token is added, and a cursor takes the place of the one from before. -/
def pushAt (s : Layout) (t : Token) (c : Cursor) : Layout := { s.push t with cursor := c }

/-- A flow collection is open. -/
def inFlow (s : Layout) : Bool := 0 < s.flow

/-- Collections that are indented by more than a column end. -/
def unwindFrom (column indent : Int) (tokens : Array (Lead × Token)) :
    List Int → Int × List Int × Array (Lead × Token)
  | [] => (indent, [], tokens)
  | i :: outer =>
    if indent > column then unwindFrom column i (tokens.push (.nothing, .blockEnd)) outer
    else (indent, i :: outer, tokens)

/-- Collections that are indented by more than a column end, unless a flow collection is open. -/
def unwind (s : Layout) (column : Int) : Layout :=
  if s.inFlow then s
  else
    let (indent, outer, tokens) := unwindFrom column s.indent s.tokens s.outer
    { s with indent, outer, tokens }

/-- The state with a collection at a column, and whether that is a new one. -/
def addIndent (s : Layout) (column : Int) : Bool × Layout :=
  if s.indent < column then (true, { s with indent := column, outer := s.indent :: s.outer })
  else (false, s)

/-! ### Candidates for keys -/

/-- A candidate cannot become a key any more. -/
def isStale (s : Layout) (k : KeyCandidate) : Bool :=
  k.line ≠ s.cursor.line || s.cursor.index - k.index > maxKeyLength

/-- Candidates that cannot become keys are dropped, none of which may be required. -/
def dropStale? (s : Layout) : Option Layout :=
  if s.candidates.any fun (_, k) => s.isStale k && k.required then none
  else some { s with candidates := s.candidates.filter fun (_, k) => !s.isStale k }

/-- The candidate at the number of open flow collections is dropped; it must not be required. -/
def dropCandidate? (s : Layout) : Option Layout :=
  match s.candidates.lookup s.flow with
  | some k =>
    if k.required then none
    else some { s with candidates := s.candidates.filter (·.1 ≠ s.flow) }
  | none => some s

/-- The next token becomes a candidate, if a key may start here. -/
def saveCandidate? (s : Layout) : Option Layout := do
  if !s.keyAllowed then return s
  let s ← s.dropCandidate?
  let c := s.cursor
  let required := !s.inFlow && s.indent = c.column
  return { s with
    candidates := (s.flow, ⟨s.tokens.size, required, c.index, c.line, c.column⟩) :: s.candidates }

/-! ### The ways of reading one token -/

/-- All block collections end, and the candidate is dropped. -/
def close? (s : Layout) : Option Layout :=
  ((s.unwind (-1)).dropCandidate?).map fun s => { s with keyAllowed := false }

/-- The mark of a document's start or end. -/
def documentMark? (s : Layout) (t : Token) : Option Layout :=
  s.close?.map fun s => s.pushAt t (s.cursor.skip 3)

/-- A flow collection starts. -/
def openFlow? (s : Layout) (t : Token) : Option Layout := do
  let s ← s.saveCandidate?
  return { s.pushAt t s.cursor.advance with flow := s.flow + 1, keyAllowed := true }

/-- A flow collection ends; one has to be open. -/
def closeFlow? (s : Layout) (t : Token) : Option Layout := do
  if !s.inFlow then none
  let s ← s.dropCandidate?
  return { s.pushAt t s.cursor.advance with flow := s.flow - 1, keyAllowed := false }

/-- A comma in a flow collection. -/
def flowEntry? (s : Layout) : Option Layout := do
  let s ← s.dropCandidate?
  return { s.pushAt .flowEntry s.cursor.advance with keyAllowed := true }

/-- A block collection starts at the column, if there is none yet. -/
def startBlock? (s : Layout) (t : Token) : Option Layout :=
  if s.inFlow then some s
  else if !s.keyAllowed then none
  else
    let (new, s) := s.addIndent s.cursor.column
    some (if new then s.push t else s)

/-- An entry of a block sequence. -/
def blockEntry? (s : Layout) : Option Layout := do
  let s ← (← s.startBlock? .blockSequenceStart).dropCandidate?
  return { s.pushAt .blockEntry s.cursor.advance with keyAllowed := true }

/-- The indicator of a key. -/
def key? (s : Layout) : Option Layout := do
  let s ← (← s.startBlock? .blockMappingStart).dropCandidate?
  return { s.pushAt .key s.cursor.advance with keyAllowed := !s.inFlow }

/-- The state with a candidate known to be a key. -/
def acceptKey (s : Layout) (k : KeyCandidate) : Layout :=
  let s := { s with candidates := s.candidates.filter (·.1 ≠ s.flow), keyAllowed := false }
  let (new, s) := if s.inFlow then (false, s) else s.addIndent k.column
  { s with tokens := s.tokens.modify k.position fun (_, t) =>
      (if new then .mapping else .key, t) }

/-- The indicator of a value: behind a candidate, which then is a key, or by itself. -/
def value? (s : Layout) : Option Layout := do
  let s ← match s.candidates.lookup s.flow with
    | some k => some (s.acceptKey k)
    | none =>
      (s.startBlock? .blockMappingStart).map fun s => { s with keyAllowed := !s.inFlow }
  return s.pushAt .value s.cursor.advance

/-- A token that may start a key. -/
def atom? (s : Layout) (read : Cursor → Option (Token × Cursor)) : Option Layout := do
  let s ← s.saveCandidate?
  let (t, c) ← read s.cursor
  return { s.pushAt t c with keyAllowed := false }

/-- A plain scalar; a key may start behind it if a line end follows. -/
def plain? (s : Layout) : Option Layout := do
  let s ← s.saveCandidate?
  let scalar := readPlain s.inFlow (s.indent + 1) [] false s.cursor
  return { s.pushAt (.scalar true (String.ofList scalar.text)) scalar.cursor with
    keyAllowed := scalar.broken }

/-- A block scalar. -/
def block? (s : Layout) (folded : Bool) : Option Layout := do
  let s ← s.dropCandidate?
  let (text, c) ← readBlock? folded s.indent s.cursor.advance
  return { s.pushAt (.scalar false (String.ofList text)) c with keyAllowed := true }

/-- A quoted scalar. -/
def quoted? (double : Bool) (c : Cursor) : Option (Token × Cursor) :=
  (readQuoted? double c.advance).map fun (text, c) => (.scalar false (String.ofList text), c)

/-- The character cannot start a plain scalar by itself. -/
def isIndicator (c : Char) : Bool := "-?:,[]\x7b\x7d#&*!|>'\"%@\x60".toList.contains c

/-- A plain scalar starts at the position. -/
def startsPlain (s : Layout) (x : Char) : Bool :=
  !(isSpace x || isBreak x || isIndicator x)
    || (!s.cursor.isFree 1 && (x = '-' || (!s.inFlow && (x = '?' || x = ':'))))

/-- A directive with its line. -/
def directiveLine? (s : Layout) : Option Layout := do
  let s ← s.close?
  let (directive, c) ← Piece.directive? s.cursor.advance
  return s.pushAt (.directive directive) c

/-- The token whose first character is given. -/
def read? (s : Layout) (x : Char) : Option Layout :=
  let c := s.cursor
  let first := c.column = 0
  if x = '%' && first then s.directiveLine?
  else if first && c.isMark '-' then s.documentMark? .documentStart
  else if first && c.isMark '.' then s.documentMark? .documentEnd
  else if x = '[' then s.openFlow? .flowSequenceStart
  else if x = '\x7b' then s.openFlow? .flowMappingStart
  else if x = ']' then s.closeFlow? .flowSequenceEnd
  else if x = '\x7d' then s.closeFlow? .flowMappingEnd
  else if x = ',' then s.flowEntry?
  else if x = '-' && c.isFree 1 then s.blockEntry?
  else if x = '?' && (s.inFlow || c.isFree 1) then s.key?
  else if x = ':' && (s.inFlow || c.isFree 1) then s.value?
  else if x = '*' then
    s.atom? fun c => (Piece.anchorName? c.advance).map fun (name, c) => (.alias name, c)
  else if x = '&' then
    s.atom? fun c => (Piece.anchorName? c.advance).map fun (name, c) => (.anchor name, c)
  else if x = '!' then s.atom? fun c => (Piece.tag? c).map fun (tag, c) => (.tag tag, c)
  else if x = '|' && !s.inFlow then s.block? false
  else if x = '>' && !s.inFlow then s.block? true
  else if x = '\'' then s.atom? (quoted? false)
  else if x = '"' then s.atom? (quoted? true)
  else if s.startsPlain x then s.plain?
  else none

/-! ### The whole text -/

/-- The state behind blanks, comments and line ends. -/
def skipToToken (s : Layout) : Layout :=
  let c := (s.cursor.skipWhile (· = ' ')).skipComment
  match c.break? with
  | none => { s with cursor := c }
  | some (_, c') =>
    if c'.rest.length < s.cursor.rest.length then
      skipToToken { s with cursor := c', keyAllowed := s.keyAllowed || !s.inFlow }
    else { s with cursor := c' }
termination_by s.cursor.rest.length

/-- The tokens with what the layout adds. -/
def allTokens (s : Layout) : List Token :=
  s.tokens.toList.flatMap fun (lead, t) => lead.tokens ++ [t]

/-- The tokens of the text, from a state on. -/
def run? (s : Layout) : Option (List Token) :=
  match s.skipToToken.dropStale? with
  | none => none
  | some s' =>
    let s' := s'.unwind s'.cursor.column
    match s'.cursor.next? with
    | none => s'.close?.map allTokens
    | some x =>
      match s'.read? x with
      | none => none
      | some next =>
        if next.cursor.rest.length < s.cursor.rest.length then run? next else none
termination_by s.cursor.rest.length

end Layout

/-- A byte order mark in front of a text is no part of it. -/
def skipMark (c : Cursor) : Cursor := if c.isAt byteOrderMark then c.advance else c

/-- The character may stand in a YAML text. -/
def isAllowed (c : Char) : Bool :=
  let n := c.toNat
  n = 9 || n = 10 || n = 13 || (0x20 ≤ n && n ≤ 0x7E) || n = 0x85 || (0xA0 ≤ n && n ≤ 0xD7FF)
    || (0xE000 ≤ n && n ≤ 0xFFFD) || 0x10000 ≤ n

/-- The tokens of a text, none if it is not well-formed. -/
def tokens? (cs : List Char) : Option (List Token) :=
  if cs.all isAllowed then
    let s := Layout.start cs
    Layout.run? { s with cursor := skipMark s.cursor }
  else none

end AlertBridge.Yaml
