import AlertBridge.RichText.Compile

/-!
# Where the compilation of inline content stops

Compiling an inline token goes down through styled and transparent tokens and stops at all others,
and wherever it is deeper than the ceiling. `stops` lists from left to right where it stops, each
time with the kinds of the tokens on the way. `Stop.run?` is the run that is made there, if any:
its styles are the inherited ones and those of the kinds on the way, whatever their order and
number, and nothing that stands beside the way has a part in them.

## Main definitions

* `stops`: where the compilation of a token stops
* `StyleSet.along`: styles with those of the kinds on a way
* `Stop.run?`: the run that is made at a stop
* `runJson`: a run as data
-/

namespace AlertBridge

/-- The styles of a set and of the kinds on a way. -/
def StyleSet.along (styles : StyleSet) (path : List TokenKind) : StyleSet where
  bold := styles.bold || path.contains .strong
  italic := styles.italic || path.contains .em
  strike := styles.strike || path.contains .del
  code := styles.code || path.contains .codespan

namespace RichText

/-- Inline content is reached through tokens of these kinds. -/
def openKinds : List TokenKind :=
  [.strong, .em, .del, .paragraph, .listitem, .heading, .blockquote]

/-- A token at which the compilation stops. -/
structure Stop where
  /-- The kinds from the root to the token, both included. -/
  path : List TokenKind
  token : Token
  /-- The token lies deeper than the ceiling. -/
  cut : Bool

mutual

/-- Where the compilation of a token stops that has some kinds above it. -/
def stops (ceiling : Int) (path : List TokenKind) (depth : Int) : Token → List Stop
  | ⟨kind, text, children, href, title, ordered, level, foreign⟩ =>
    if depth > ceiling then
      [⟨path ++ [kind], ⟨kind, text, children, href, title, ordered, level, foreign⟩, true⟩]
    else if openKinds.contains kind then
      stopsAll ceiling (path ++ [kind]) (depth + 1) children
    else [⟨path ++ [kind], ⟨kind, text, children, href, title, ordered, level, foreign⟩, false⟩]

/-- Where the compilation of tokens stops, one after the other. -/
def stopsAll (ceiling : Int) (path : List TokenKind) (depth : Int) : List Token → List Stop
  | [] => []
  | t :: rest => stops ceiling path depth t ++ stopsAll ceiling path depth rest

end

/-- A run of text that is not empty. -/
def textRun? (text : String) (styles : StyleSet) : Option TextRun :=
  if text = "" then none else some (.text text styles)

/-- The run that is made at a stop, with inherited styles. -/
def Stop.run? (styles : StyleSet) (stop : Stop) : Option TextRun :=
  if stop.cut then textRun? stop.token.plainText (styles.along stop.path)
  else match stop.token.kind with
    | .text => textRun? stop.token.text (styles.along stop.path)
    | .escape => textRun? stop.token.text (styles.along stop.path)
    | .codespan => some (.text (unescapeHtml stop.token.text) (styles.along stop.path))
    | .link => some (.link (stop.token.href.getD "") stop.token.text (styles.along stop.path))
    | _ => none

/-- A set of styles as data: an object that says true of each style, in the order of the
vocabulary, and nothing for the empty set. -/
def styleJson (styles : StyleSet) : List (String × Json) :=
  if styles = .empty then []
  else [("style", .obj (
    (if styles.bold then [("bold", .bool true)] else [])
      ++ (if styles.italic then [("italic", .bool true)] else [])
      ++ (if styles.strike then [("strike", .bool true)] else [])
      ++ (if styles.code then [("code", .bool true)] else [])))]

/-- A run as data. -/
def runJson : TextRun → Json
  | .text text styles => .obj ([("type", .str "text"), ("text", .str text)] ++ styleJson styles)
  | .link url text styles =>
    .obj ([("type", .str "link"), ("url", .str url), ("text", .str text)] ++ styleJson styles)

/-! ## Forests in chains of styles -/

/-- All of the tokens are styled. -/
def IsChain (chain : List Token) : Prop :=
  ∀ w ∈ chain, w.kind = .strong ∨ w.kind = .em ∨ w.kind = .del

/-- A forest inside of a chain of tokens, the first of which is the outermost. -/
def wrap : List Token → List Token → List Token
  | [], ts => ts
  | w :: chain, ts => [{ w with children := wrap chain ts }]

/-- The part of a chain that the compilation sees: up to the first token that is too deep. -/
def reached (ceiling depth : Int) : List Token → List Token
  | [] => []
  | w :: chain => if depth > ceiling then [w] else w :: reached ceiling (depth + 1) chain

/-- Nothing in a forest is too deep. -/
def Uncut (ceiling depth : Int) (ts : List Token) : Prop :=
  ∀ stop ∈ stopsAll ceiling [] depth ts, stop.cut = false

end RichText

end AlertBridge
