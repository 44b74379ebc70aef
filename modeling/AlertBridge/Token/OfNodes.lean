import AlertBridge.Markdown.Document
import AlertBridge.Token.Text

/-!
# Tokens from a Markdown tree

`Token.ofNodes?` turns the nodes of a Markdown tree, given as data, into tokens in normal form.
Texts and soft line breaks become text; blank lines, thematic breaks, raw blocks of HTML and nodes
of unknown type have no token. A node with children more than `limit` levels down becomes the text
that it holds.

`Token.flatten` is the text of a node: that of its children, or a line end, or its literal text.
The tree may be malformed; what it lacks is told by the fault.
-/

namespace AlertBridge

namespace Token

/-- The nodes that a value holds: those of an array, none of what is absent. -/
def nodesOf : Json → Except Fault (List Json)
  | .arr vs => .ok vs
  | .obj [] => .ok []
  | .obj _ => .error .notAnObject
  | .str s => if s = "" then .ok [] else .error .notAnObject
  | v => if v.truthy then .error .notIterable else .ok []

/-- The children of a node. -/
def childrenOf (node : Json) : Except Fault (List Json) :=
  (node.get "children").bind nodesOf

theorem weight_nodesOf {v : Json} {vs : List Json} (h : nodesOf v = .ok vs) :
    Json.weightItems vs < v.weight := by
  unfold nodesOf at h
  split at h <;> (try split at h) <;> simp at h <;> subst h <;>
    simp [Json.weight, Json.weightItems]

/-- The children of a node weigh less than the node. -/
theorem weight_childrenOf {node : Json} {vs : List Json} (h : childrenOf node = .ok vs) :
    Json.weightItems vs < node.weight := by
  unfold childrenOf Json.get at h
  split at h
  · rename_i fields
    cases hf : Json.fieldOf? fields "children" with
    | none =>
      simp only [hf, Except.bind, Option.getD, nodesOf, Json.truthy, Bool.false_eq_true,
        if_false, Except.ok.injEq] at h
      subst h
      simp [Json.weight, Json.weightItems]
    | some v =>
      simp only [hf, Except.bind, Option.getD] at h
      have h₁ := weight_nodesOf h
      have h₂ := Json.weight_fieldOf? hf
      simp only [Json.weight]
      omega
  · simp [Except.bind] at h

/-- The node is of a type. -/
def isType (kind : Json) (type : String) : Bool :=
  match kind with
  | .str s => s = type
  | _ => false

/-- A value of a node, an empty text if the node does not have it. -/
def valueOf (node : Json) (name : String) : Except Fault Json :=
  match node with
  | .obj fields => .ok ((Json.fieldOf? fields name).getD (.str ""))
  | _ => .error .notAnObject

/-- The leaf values of the nodes to be read, from left to right. -/
def flattenParts (todo : List Json) : Except Fault (List Json) :=
  match todo with
  | [] => .ok []
  | node :: rest =>
    match _h : childrenOf node with
    | .error fault => .error fault
    | .ok [] => do
      let kind ← node.get "type"
      let part ← if isType kind "softbreak" then .ok (Json.str "\n") else valueOf node "raw"
      let parts ← flattenParts rest
      return part :: parts
    | .ok (child :: children) => flattenParts (child :: children ++ rest)
termination_by Json.weightItems todo
decreasing_by
  · have := node.weight_pos
    simp only [Json.weightItems]
    omega
  · have := weight_childrenOf _h
    simp only [Json.weightItems, Json.weightItems_append, List.cons_append] at this ⊢
    omega

/-- The text of a node. -/
def flatten (node : Json) : Except Fault String := do
  return concat (← Json.joinable (← flattenParts [node]))

/-- The attributes of a node. -/
def attributesOf (node : Json) : Except Fault Json :=
  return (← node.get "attrs").orElse (.obj [])

/-- A text token of any value. -/
def ofValue : Json → Token
  | .str s => ofText s
  | v => { kind := .text, foreign := [("text", v)] }

/-- The value that a text token holds. -/
def value (t : Token) : Json := (t.foreign.lookup "text").getD (.str t.text)

/-- A text token of a value that is not a text. -/
def isForeignText (t : Token) : Bool := t.kind = .text && !t.foreign.isEmpty

/-- The tokens with values of text tokens in a row added up, where they are not all texts. -/
def addForeign : List Token → Except Fault (List Token)
  | t :: u :: rest =>
    if t.kind = .text && u.kind = .text then do
      let sum ← (value t).plus (value u)
      addForeign (ofValue sum :: rest)
    else return t :: (← addForeign (u :: rest))
  | ts => .ok ts
termination_by ts => ts.length

/-- The tokens in normal form. -/
def normalize (ts : List Token) : Except Fault (List Token) :=
  if ts.any isForeignText then
    (addForeign (ts.filter fun t => !(t.isText && t.text = ""))).map mergeText
  else .ok (mergeText ts)

/-- A text field of a token from a value: the text, or the value itself as a foreign one. -/
def textField (name : String) : Json → Option String × List (String × Json)
  | .str s => (some s, [])
  | .null => (none, [])
  | v => (none, [(name, v)])

/-- A link or an image with its children, the text that it holds, and its attributes. -/
def ofReference (kind : TokenKind) (children : List Token) (node : Json) :
    Except Fault Token := do
  let attributes ← attributesOf node
  let text ← flatten node
  let (href, foreign) := textField "href" (← valueOf attributes "url")
  let (title, foreign') := textField "title" (← attributes.get "title")
  return { kind, text, children := if kind = .link then children else [], href, title,
           foreign := foreign ++ foreign' }

/-- A block of code without its last line end. -/
def ofCode (raw : String) : Token :=
  let cs := raw.toList
  { kind := .code, text := if cs.getLast? = some '\n' then String.ofList cs.dropLast else raw }

/-- The tokens of leaves: the literal text, escaped in a code span; none for what has no token. -/
def ofLeaf (kind node : Json) : Except Fault (Option Token) := do
  if isType kind "text" then
    let raw ← valueOf node "raw"
    return if raw.truthy then some (ofValue raw) else none
  else if isType kind "softbreak" then return some (ofText "\n")
  else if isType kind "linebreak" then return some { kind := .br }
  else if isType kind "inline_html" then
    match ← valueOf node "raw" with
    | .str s => return some { kind := .html, text := s }
    | v => return some { kind := .html, foreign := [("text", v)] }
  else if isType kind "codespan" then
    return some { kind := .codespan, text := escapeHtml (← (← valueOf node "raw").text) }
  else if isType kind "block_code" then
    return some (ofCode (← (← valueOf node "raw").text))
  else return none

/-- The kinds of tokens that hold the tokens of a node's children. -/
def containerKind? (kind : Json) : Option TokenKind :=
  match kind with
  | .str s => [("strong", TokenKind.strong), ("emphasis", .em), ("strikethrough", .del),
      ("link", .link), ("image", .image), ("heading", .heading), ("paragraph", .paragraph),
      ("block_text", .paragraph), ("block_quote", .blockquote), ("list_item", .listitem),
      ("list", .list)].lookup s
  | _ => none

/-- The level of a heading, one if its node does not tell. -/
def levelOf (node : Json) : Except Fault Int := do
  match ← attributesOf node with
  | .obj fields => ((Json.fieldOf? fields "level").getD (.int 1)).toInt
  | _ => .error .notAnObject

/-- A token with children, from the tokens of the children. -/
def ofContainer (kind : TokenKind) (children : List Token) (node : Json) : Except Fault Token :=
  match kind with
  | .link => ofReference .link children node
  | .image => ofReference .image children node
  | .heading => return { kind, children, level := ← levelOf node }
  | .list => return { kind, children, ordered := (← (← attributesOf node).get "ordered").truthy }
  | kind => return { kind, children }

/-- What becomes of a node: a token or none, or a token of a kind that holds the tokens of the
node's children. -/
inductive Reading where
  | token (token : Option Token)
  | container (kind : TokenKind)

/-- The types of leaves whose node is looked at before its type is asked to name a container. -/
def leafTypes : List String :=
  ["text", "softbreak", "linebreak", "inline_html", "codespan"]

/-- What becomes of a node `depth` levels down. -/
def readingOf (limit depth : Int) (node : Json) : Except Fault Reading := do
  let kind ← node.get "type"
  let children ← node.get "children"
  if depth > limit && children.truthy then return .token (some (ofText (← flatten node)))
  else if leafTypes.any (isType kind) then return .token (← ofLeaf kind node)
  else if !kind.isKey then .error .notAKey
  else match containerKind? kind with
    | some k => return .container k
    | none => return .token (← ofLeaf kind node)

/-- The tokens of nodes `depth` levels down, before normal form. -/
def ofEach (limit : Int) (nodes : List Json) (depth : Int) : Except Fault (List Token) :=
  match nodes with
  | [] => .ok []
  | node :: rest =>
    match readingOf limit depth node with
    | .error fault => .error fault
    | .ok (.token token) => return token.toList ++ (← ofEach limit rest depth)
    | .ok (.container kind) =>
      match _h : childrenOf node with
      | .error fault => .error fault
      | .ok children => do
        let tokens ← normalize (← ofEach limit children (depth + 1))
        let token ← ofContainer kind tokens node
        return token :: (← ofEach limit rest depth)
termination_by Json.weightItems nodes
decreasing_by
  all_goals have := node.weight_pos
  all_goals simp only [Json.weightItems]
  · omega
  · have := weight_childrenOf _h
    omega
  · omega

/-- The tokens of nodes that lie `depth` levels down, where those with children more than `limit`
levels down become text. -/
def ofNodes? (nodes : List Json) (depth limit : Int) : Except Fault (List Token) :=
  (ofEach limit nodes depth).bind normalize

/-- The tokens of a value that holds nodes. -/
def ofTree? (tree : Json) (depth limit : Int) : Except Fault (List Token) :=
  (nodesOf tree).bind fun nodes => ofNodes? nodes depth limit

/-- The tokens of a Markdown text. What is absent counts as an empty text. -/
def lex? (markdown : Json) (limit : Int) : Except Fault (List Token) := do
  let text ← if markdown.truthy then markdown.text else .ok ""
  ofNodes? (Markdown.Node.toJsons (Markdown.document text)) 0 limit

end Token

mutual

/-- The types of the nodes that become text because they lie too deep, in reading order. -/
def Markdown.Node.cuts (limit depth : Int) : Markdown.Node → List String
  | .strong ns => cutOr "strong" ns (cutsAll limit (depth + 1) ns)
  | .emphasis ns => cutOr "emphasis" ns (cutsAll limit (depth + 1) ns)
  | .strikethrough ns => cutOr "strikethrough" ns (cutsAll limit (depth + 1) ns)
  | .link _ _ ns => cutOr "link" ns (cutsAll limit (depth + 1) ns)
  | .image _ _ ns => cutOr "image" ns (cutsAll limit (depth + 1) ns)
  | .heading _ ns => cutOr "heading" ns (cutsAll limit (depth + 1) ns)
  | .paragraph ns => cutOr "paragraph" ns (cutsAll limit (depth + 1) ns)
  | .blockText ns => cutOr "block_text" ns (cutsAll limit (depth + 1) ns)
  | .blockQuote ns => cutOr "block_quote" ns (cutsAll limit (depth + 1) ns)
  | .list _ ns => cutOr "list" ns (cutsAll limit (depth + 1) ns)
  | .listItem ns => cutOr "list_item" ns (cutsAll limit (depth + 1) ns)
  | _ => []
where
  /-- The node itself where it lies too deep and has children, else the cuts below it. -/
  cutOr (type : String) (children : List Markdown.Node) (below : List String) : List String :=
    if depth > limit && !children.isEmpty then [type] else below

/-- The types of nodes that become text, in a list of nodes. -/
def Markdown.Node.cutsAll (limit depth : Int) : List Markdown.Node → List String
  | [] => []
  | n :: rest => Markdown.Node.cuts limit depth n ++ cutsAll limit depth rest

end

end AlertBridge
