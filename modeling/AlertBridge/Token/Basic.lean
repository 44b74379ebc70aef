import AlertBridge.Json.Access

/-!
# Tokens

The closed tree that messages are compiled from. Every token has the same fields, of which its
kind decides the use: texts, escapes, raw HTML and code hold their literal text, a code span its
text with the special characters of HTML escaped, a link its address, title, shown text and
children, an image its address, title and alternative text, a heading its level, and a list
whether it is ordered.

`Token.mergeText` is the normal form of a list of tokens: no empty text, and no two texts in a row.
-/

namespace AlertBridge

/-- What a token stands for. -/
inductive TokenKind where
  | text | escape | strong | em | del | codespan | link | image | br | html | heading | paragraph
  | code | blockquote | list | listitem
  deriving DecidableEq, Inhabited

/-- The kinds with the words that name them. -/
def TokenKind.words : List (TokenKind × String) := [
  (.text, "text"), (.escape, "escape"), (.strong, "strong"), (.em, "em"), (.del, "del"),
  (.codespan, "codespan"), (.link, "link"), (.image, "image"), (.br, "br"), (.html, "html"),
  (.heading, "heading"), (.paragraph, "paragraph"), (.code, "code"),
  (.blockquote, "blockquote"), (.list, "list"), (.listitem, "listitem")]

/-- The word for a kind. -/
def TokenKind.word (k : TokenKind) : String := (words.lookup k).getD ""

/-- The kind that a word names. -/
def TokenKind.ofWord? (word : String) : Option TokenKind :=
  (words.find? fun e => e.2 = word).map (·.1)

/-- A node of the tree. -/
structure Token where
  kind : TokenKind
  text : String := ""
  children : List Token := []
  href : Option String := none
  title : Option String := none
  ordered : Bool := false
  level : Int := 0
  /-- Values that stand where a text should, by the field's name. Only the tokens of a malformed
  tree have any. -/
  foreign : List (String × Json) := []
  deriving Inhabited

namespace Token

/-- A text token. -/
def ofText (s : String) : Token := { kind := .text, text := s }

/-- A text token that holds nothing else. -/
def isText (t : Token) : Bool := t.kind = .text && t.foreign.isEmpty

/-- One token in front of a list in normal form. -/
def consMerged (t : Token) (merged : List Token) : List Token :=
  if t.isText then
    if t.text = "" then merged
    else match merged with
      | u :: rest => if u.isText then ofText (t.text ++ u.text) :: rest else t :: merged
      | [] => [t]
  else t :: merged

/-- The tokens without empty texts, and with texts that follow each other as one. -/
def mergeText : List Token → List Token
  | [] => []
  | t :: rest => consMerged t (mergeText rest)

mutual

/-- The number of tokens in a tree. -/
def weight : Token → Nat
  | ⟨_, _, children, _, _, _, _, _⟩ => weights children + 1

/-- The number of tokens in a list of trees. -/
def weights : List Token → Nat
  | [] => 0
  | t :: rest => weight t + weights rest

end

theorem weight_eq (t : Token) : t.weight = weights t.children + 1 := by
  cases t; rfl

theorem weights_append (ts us : List Token) : weights (ts ++ us) = weights ts + weights us := by
  induction ts with
  | nil => simp [weights]
  | cons t ts ih => simp [weights, ih, Nat.add_assoc]

end Token

end AlertBridge
