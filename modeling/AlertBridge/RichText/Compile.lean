import AlertBridge.RichText.Style
import AlertBridge.Token.OfNodes

/-!
# Rich text from tokens

A document becomes a list of elements: sections, preformatted text, quotes and lists, all of them
made of runs of text and links with a set of styles each. Styles add up from the root of an inline
tree to its leaves. Lists never nest: a nested list is an element of its own behind the items in
front of it, with one more level of indentation.

Below a ceiling of nesting the text is kept and its structure is not: an inline tree becomes one
run, and a list has one unstyled section for each item.
-/

namespace AlertBridge

/-- A piece of text or a link, with its styles. -/
inductive TextRun where
  | text (text : String) (styles : StyleSet)
  | link (url text : String) (styles : StyleSet)
  deriving DecidableEq, Inhabited

/-- An element of a rich text. -/
inductive RichElement where
  | paragraph (runs : List TextRun)
  | preformatted (runs : List TextRun)
  | quote (runs : List TextRun)
  | list (ordered : Bool) (indent : Int) (items : List (List TextRun))
  deriving DecidableEq, Inhabited

namespace RichText

/-- The style that a kind of token gives its content. -/
def styleOf : TokenKind → Option TextStyle
  | .strong => some .bold
  | .em => some .italic
  | .del => some .strike
  | .codespan => some .code
  | _ => none

/-- Inline content is compiled through these kinds. -/
def isTransparent : TokenKind → Bool
  | .strong | .em | .del | .paragraph | .listitem | .heading | .blockquote => true
  | _ => false

/-- A run of text, none if it would be empty. -/
def textRuns (text : String) (styles : StyleSet) : List TextRun :=
  if text = "" then [] else [.text text styles]

mutual

/-- The runs of an inline token, `depth` levels down, with the styles that it inherits. -/
def compileInline (ceiling : Int) (styles : StyleSet) (depth : Int) : Token → List TextRun
  | ⟨kind, text, children, href, title, ordered, level, foreign⟩ =>
    let inner := styles.add (styleOf kind)
    if depth > ceiling then
      textRuns (Token.plainText ⟨kind, text, children, href, title, ordered, level, foreign⟩) inner
    else match kind with
      | .text => textRuns text styles
      | .escape => textRuns text styles
      | .codespan => [.text (unescapeHtml text) inner]
      | .link => [.link (href.getD "") text styles]
      | kind => if isTransparent kind then compileAll ceiling inner (depth + 1) children else []

/-- The runs of inline tokens, one after the other. -/
def compileAll (ceiling : Int) (styles : StyleSet) (depth : Int) : List Token → List TextRun
  | [] => []
  | t :: rest => compileInline ceiling styles depth t ++ compileAll ceiling styles depth rest

end

/-- The runs of tokens without inherited styles. -/
def runsOf (ceiling : Int) (tokens : List Token) : List TextRun :=
  compileAll ceiling .empty 0 tokens

/-- A list that lies too deep: a section with the text of each item that has any. -/
def flattenedList (ordered : Bool) (indent : Int) (items : List Token) : List RichElement :=
  let texts := (items.map Token.plainText).filter (· ≠ "")
  if texts.isEmpty then [] else [.list ordered indent (texts.map fun t => [.text t .empty])]

/-- The items collected so far as a list, none if there are none. -/
def flush (ordered : Bool) (indent : Int) (items : List (List TextRun)) : List RichElement :=
  if items.isEmpty then [] else [.list ordered indent items]

/-- The token is a list. -/
def isList (t : Token) : Bool := t.kind = .list

mutual

/-- The elements of a list at a level of indentation. -/
def compileList (ceiling : Int) (indent : Int) : Token → List RichElement
  | ⟨_, _, children, _, _, ordered, _, _⟩ =>
    if indent ≥ ceiling then flattenedList ordered indent children
    else compileItems ceiling indent ordered [] children

/-- The elements of a list's items, behind those that are collected. -/
def compileItems (ceiling : Int) (indent : Int) (ordered : Bool) (collected : List (List TextRun)) :
    List Token → List RichElement
  | [] => flush ordered indent collected
  | ⟨_, _, children, _, _, _, _, _⟩ :: rest =>
    let other := children.filter (!isList ·)
    let collected := if other.isEmpty then collected else collected ++ [runsOf ceiling other]
    if children.any isList then
      flush ordered indent collected ++ compileNested ceiling (indent + 1) children ++
        compileItems ceiling indent ordered [] rest
    else compileItems ceiling indent ordered collected rest

/-- The elements of the lists among an item's children. -/
def compileNested (ceiling : Int) (indent : Int) : List Token → List RichElement
  | [] => []
  | t :: rest =>
    (if isList t then compileList ceiling indent t else []) ++ compileNested ceiling indent rest

end

/-- The runs of a quote: those of its paragraphs. -/
def quoteRuns (ceiling : Int) (children : List Token) : List TextRun :=
  (children.filter fun t => t.kind = .paragraph).flatMap fun t => runsOf ceiling t.children

/-- The elements of a token at the top of a document. -/
def dispatch (ceiling : Int) (t : Token) : List RichElement :=
  match t.kind with
  | .heading => [.paragraph [.text (Token.headingText t) (StyleSet.empty.insert .bold)]]
  | .paragraph => [.paragraph (runsOf ceiling t.children)]
  | .code => [.preformatted [.text t.text .empty]]
  | .blockquote => [.quote (quoteRuns ceiling t.children)]
  | .list => compileList ceiling 0 t
  | _ => []

/-- The elements of a document. -/
def compileDocument (ceiling : Int) (tokens : List Token) : List RichElement :=
  tokens.flatMap (dispatch ceiling)

end RichText

/-! ## As data -/

/-- A run as data. -/
def TextRun.toJson : TextRun → Json
  | .text shown styles => .obj (("type", .str "text") :: ("text", .str shown) :: styles.toFields)
  | .link url shown styles =>
    .obj (("type", .str "link") :: ("url", .str url) :: ("text", .str shown) :: styles.toFields)

/-- An object of a type that holds runs. -/
def runsJson (type : String) (runs : List TextRun) : Json :=
  .obj [("type", .str type), ("elements", .arr (runs.map TextRun.toJson))]

/-- An element as data. -/
def RichElement.toJson : RichElement → Json
  | .paragraph runs => runsJson "rich_text_section" runs
  | .preformatted runs => runsJson "rich_text_preformatted" runs
  | .quote runs => runsJson "rich_text_quote" runs
  | .list ordered indent items =>
    .obj [("type", .str "rich_text_list"),
      ("style", .str (if ordered then "ordered" else "bullet")), ("indent", .int indent),
      ("offset", .int 0), ("border", .int 0),
      ("elements", .arr (items.map (runsJson "rich_text_section")))]

/-- A document as a rich text block. -/
def richTextBlock (elements : List RichElement) : Json :=
  .obj [("type", .str "rich_text"), ("elements", .arr (elements.map RichElement.toJson))]

/-- The rich text block of a Markdown text. -/
def markdownToRich? (markdown : Json) (ceiling : Int) : Except Fault Json :=
  (Token.lex? markdown ceiling).map fun tokens =>
    richTextBlock (RichText.compileDocument ceiling tokens)

end AlertBridge
