import AlertBridge.Token.Basic
import AlertBridge.Token.Escape

/-!
# The text of tokens

Three readings of a tree of tokens: `plainText`, what is seen of it; `headingText`, what a heading
says, where an image stands for its title and raw HTML is literal; and `markdownSource`, the
Markdown that it was made of. The first two walk the tree with a list of the tokens that are still
to be read, so that no tree is too deep for them.
-/

namespace AlertBridge.Token

/-- A link or an image. -/
def isReference (t : Token) : Bool := t.kind = .link || t.kind = .image

/-- The visible texts of the tokens to be read, from left to right. -/
def visibleTexts (todo : List Token) : List String :=
  match todo with
  | [] => []
  | t :: rest =>
    if t.isReference && t.children.isEmpty then t.text :: visibleTexts rest
    else if !t.children.isEmpty then visibleTexts (t.children ++ rest)
    else if t.kind = .codespan then unescapeHtml t.text :: visibleTexts rest
    else if t.kind = .br then visibleTexts rest
    else t.text :: visibleTexts rest
termination_by weights todo
decreasing_by all_goals simp only [weights, weights_append, weight_eq]; omega

/-- What is seen of a token. -/
def plainText (t : Token) : String := concat (visibleTexts [t])

/-- The texts that a heading shows of the tokens to be read, from left to right. -/
def headingTexts (todo : List Token) : List String :=
  match todo with
  | [] => []
  | t :: rest =>
    match t.kind with
    | .image => (match t.title with
        | some title => if title = "" then t.text else title
        | none => t.text) :: headingTexts rest
    | .link => t.text :: headingTexts rest
    | .codespan => unescapeHtml t.text :: headingTexts rest
    | .text => t.text :: headingTexts rest
    | .escape => t.text :: headingTexts rest
    | .html => t.text :: headingTexts rest
    | _ => headingTexts (t.children ++ rest)
termination_by weights todo
decreasing_by all_goals simp only [weights, weights_append, weight_eq]; omega

/-- What a heading says. -/
def headingText (t : Token) : String := concat (headingTexts [t])

/-- The marker around the children of a styled token. -/
def marker? : TokenKind → Option String
  | .strong => some "**"
  | .em => some "_"
  | .del => some "~~"
  | _ => none

/-- The address of a link in its Markdown. -/
def shownHref (href : Option String) : String := href.getD "None"

mutual

/-- The Markdown that a token was made of. -/
def markdownSource : Token → String
  | ⟨kind, text, children, href, _, _, _, _⟩ =>
    match marker? kind with
    | some marker => marker ++ markdownSources children ++ marker
    | none =>
      match kind with
      | .codespan => "`" ++ unescapeHtml text ++ "`"
      | .link => "[" ++ text ++ "](" ++ shownHref href ++ ")"
      | .image => "![" ++ text ++ "](" ++ shownHref href ++ ")"
      | .br => "\n"
      | _ => if children.isEmpty then text else markdownSources children

/-- The Markdown that tokens were made of, one after the other. -/
def markdownSources : List Token → String
  | [] => ""
  | t :: rest => markdownSource t ++ markdownSources rest

end

end AlertBridge.Token
