import AlertBridge.Markdown.Container
import AlertBridge.Markdown.Inline

/-!
# Markdown documents

`Markdown.document` reads a text in two passes: the blocks with all link definitions, then the
inline content of paragraphs and headings.
-/

namespace AlertBridge.Markdown

/-- White space at the ends of a paragraph's text, which is not part of it. -/
def isEdgeSpace (c : Char) : Bool :=
  c = ' ' || c = '\r' || c = '\n' || c = '\t' || c = '\x0c'

/-- The inline nodes of a paragraph's text. -/
def paragraphInlines (refs : References) (text : List Char) : List Node :=
  inlines refs (trimBoth isEdgeSpace text)

mutual

/-- A block with its inline content read. In a tight list a paragraph is mere text. -/
def Block.toNode (refs : References) (tight : Bool) : Block → Node
  | .paragraph text =>
    if tight then .blockText (paragraphInlines refs text)
    else .paragraph (paragraphInlines refs text)
  | .heading level text => .heading level (paragraphInlines refs text)
  | .code raw => .blockCode (String.ofList raw)
  | .html raw => .blockHtml (String.ofList raw)
  | .quote blocks => .blockQuote (Block.toNodes refs false blocks)
  | .list ordered tight items => .list ordered (Block.toItems refs tight items)
  | .blank => .blankLine
  | .thematicBreak => .thematicBreak

/-- Blocks with their inline content read. -/
def Block.toNodes (refs : References) (tight : Bool) : List Block → List Node
  | [] => []
  | b :: rest => Block.toNode refs tight b :: Block.toNodes refs tight rest

/-- The items of a list with their inline content read. -/
def Block.toItems (refs : References) (tight : Bool) : List (List Block) → List Node
  | [] => []
  | item :: rest => .listItem (Block.toNodes refs tight item) :: Block.toItems refs tight rest

end

/-- The text with every line end as a line feed. -/
def lineFeeds : List Char → List Char
  | '\r' :: '\n' :: rest => '\n' :: lineFeeds rest
  | '\r' :: rest => '\n' :: lineFeeds rest
  | c :: rest => c :: lineFeeds rest
  | [] => []

/-- The text with every line end as a line feed, one of them at the end. -/
def normalizeLines (cs : List Char) : List Char :=
  let cs := lineFeeds cs
  if cs.getLast? = some '\n' then cs else cs ++ ['\n']

/-- The nodes of a document. -/
def document (text : String) : List Node :=
  let cs := normalizeLines text.toList
  let (blocks, refs) := Container.blocks (cs.length + 1) 0 [] cs []
  Block.toNodes refs false blocks

end AlertBridge.Markdown
