import AlertBridge.Text.Substring

/-!
# HTML escapes

The text of a code span has the five special characters of HTML escaped. Escaping replaces the
ampersand first, so that it does not touch the escapes themselves, and unescaping replaces it
last, so that nothing is decoded twice.
-/

namespace AlertBridge

/-- The special characters and their escapes, in the order of escaping. -/
def htmlEscapes : List (String × String) :=
  [("&", "&amp;"), ("<", "&lt;"), (">", "&gt;"), ("\"", "&quot;"), ("'", "&#39;")]

/-- The text with its special characters escaped, one character after the other. -/
def escapeHtml (s : String) : String :=
  htmlEscapes.foldl (fun s e => replaceAll e.1 e.2 s) s

/-- The text with its escapes decoded, one escape after the other. -/
def unescapeHtml (s : String) : String :=
  htmlEscapes.reverse.foldl (fun s e => replaceAll e.2 e.1 s) s

end AlertBridge
