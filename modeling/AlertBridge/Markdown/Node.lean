import AlertBridge.Json.Basic

/-!
# The tree of a Markdown document

A document is a list of block nodes, whose leaves hold inline nodes. `Node.toJson` is the tree as
data: a type, the literal text of a leaf, the children of the others, and the attributes.
-/

namespace AlertBridge.Markdown

/-- A node of the tree, block or inline. -/
inductive Node where
  | text (raw : String)
  | softbreak
  | linebreak
  | codespan (raw : String)
  | inlineHtml (raw : String)
  | strong (children : List Node)
  | emphasis (children : List Node)
  | strikethrough (children : List Node)
  | link (url : String) (title : Option String) (children : List Node)
  | image (url : String) (title : Option String) (children : List Node)
  | heading (level : Nat) (children : List Node)
  | paragraph (children : List Node)
  | blockText (children : List Node)
  | blockQuote (children : List Node)
  | blockCode (raw : String)
  | blockHtml (raw : String)
  | list (ordered : Bool) (items : List Node)
  | listItem (children : List Node)
  | blankLine
  | thematicBreak
  deriving Inhabited

namespace Node

/-- The word for a node's type. -/
def type : Node → String
  | text _ => "text"
  | softbreak => "softbreak"
  | linebreak => "linebreak"
  | codespan _ => "codespan"
  | inlineHtml _ => "inline_html"
  | strong _ => "strong"
  | emphasis _ => "emphasis"
  | strikethrough _ => "strikethrough"
  | link .. => "link"
  | image .. => "image"
  | heading .. => "heading"
  | paragraph _ => "paragraph"
  | blockText _ => "block_text"
  | blockQuote _ => "block_quote"
  | blockCode _ => "block_code"
  | blockHtml _ => "block_html"
  | list .. => "list"
  | listItem _ => "list_item"
  | blankLine => "blank_line"
  | thematicBreak => "thematic_break"

/-- The nodes below a node. -/
def children : Node → List Node
  | strong ns | emphasis ns | strikethrough ns | link _ _ ns | image _ _ ns | heading _ ns
  | paragraph ns | blockText ns | blockQuote ns | list _ ns | listItem ns => ns
  | _ => []

/-- An object for a leaf with its literal text. -/
def leaf (type raw : String) : Json := .obj [("type", .str type), ("raw", .str raw)]

/-- The attributes of a link or an image. -/
def target (url : String) (title : Option String) : Json :=
  .obj [("url", .str url), ("title", .ofOption title)]

mutual

/-- The number of levels of inline nodes with children, the node itself included. -/
def height : Node → Nat
  | strong ns | emphasis ns | strikethrough ns | link _ _ ns | image _ _ ns => heights ns + 1
  | _ => 0

/-- The greatest height among nodes. -/
def heights : List Node → Nat
  | [] => 0
  | n :: rest => max (height n) (heights rest)

end

mutual

/-- A node as data. -/
def toJson : Node → Json
  | text raw => leaf "text" raw
  | codespan raw => leaf "codespan" raw
  | inlineHtml raw => leaf "inline_html" raw
  | blockCode raw => leaf "block_code" raw
  | blockHtml raw => leaf "block_html" raw
  | softbreak => .obj [("type", .str "softbreak")]
  | linebreak => .obj [("type", .str "linebreak")]
  | blankLine => .obj [("type", .str "blank_line")]
  | thematicBreak => .obj [("type", .str "thematic_break")]
  | strong ns => .obj [("type", .str "strong"), ("children", .arr (toJsons ns))]
  | emphasis ns => .obj [("type", .str "emphasis"), ("children", .arr (toJsons ns))]
  | strikethrough ns => .obj [("type", .str "strikethrough"), ("children", .arr (toJsons ns))]
  | link url title ns =>
    .obj [("type", .str "link"), ("children", .arr (toJsons ns)), ("attrs", target url title)]
  | image url title ns =>
    .obj [("type", .str "image"), ("children", .arr (toJsons ns)), ("attrs", target url title)]
  | heading level ns =>
    .obj [("type", .str "heading"), ("children", .arr (toJsons ns)),
      ("attrs", .obj [("level", .int level)])]
  | paragraph ns => .obj [("type", .str "paragraph"), ("children", .arr (toJsons ns))]
  | blockText ns => .obj [("type", .str "block_text"), ("children", .arr (toJsons ns))]
  | blockQuote ns => .obj [("type", .str "block_quote"), ("children", .arr (toJsons ns))]
  | list ordered ns =>
    .obj [("type", .str "list"), ("children", .arr (toJsons ns)),
      ("attrs", .obj [("ordered", .bool ordered)])]
  | listItem ns => .obj [("type", .str "list_item"), ("children", .arr (toJsons ns))]

/-- Nodes as data. -/
def toJsons : List Node → List Json
  | [] => []
  | n :: rest => toJson n :: toJsons rest

end

end Node

end AlertBridge.Markdown
