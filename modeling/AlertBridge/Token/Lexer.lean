import AlertBridge.Log.Record
import AlertBridge.Token.OfNodes

/-!
# Readers of Markdown

What builds messages takes the reader of Markdown as an argument. A reader yields the tokens of a
text, or the fault for which there are none, and writes records on the way: `lexer` writes one for
each part of the text that lies too deep to keep its structure.
-/

namespace AlertBridge

/-- A reader of Markdown. -/
abbrev Lexer := Json → Logged (Except Fault (List Token))

/-- The record about a node that became text. -/
def cutRecord (ceiling : Int) (type : String) : LogRecord :=
  ⟨.debug, "relay.lexer", "Markdown nesting above " ++ toString ceiling ++
    " levels, flattening '" ++ type ++ "' to text", none⟩

/-- The reader of Markdown with a ceiling of nesting. -/
def lexer (ceiling : Int) : Lexer := fun markdown =>
  match (if markdown.truthy then markdown.text else .ok "") with
  | .error fault => ⟨.error fault, []⟩
  | .ok text =>
    let nodes := Markdown.document text
    ⟨Token.ofNodes? (Markdown.Node.toJsons nodes) 0 ceiling,
      (Markdown.Node.cutsAll ceiling 0 nodes).map (cutRecord ceiling)⟩

end AlertBridge
