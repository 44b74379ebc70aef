import AlertBridge.Markdown.Line
import AlertBridge.Markdown.Tag
import AlertBridge.Text.Digit
import AlertBridge.Text.Integer

/-!
# How blocks start

What a line may start besides going on with a paragraph: a fence, a heading, the underline of a
heading, a thematic break, a quote, a list, a link definition, raw HTML or a blank line. Each
reader takes the source from the start of the line; the greatest indentation is three spaces,
except inside a list item, where `most` may be less.
-/

namespace AlertBridge.Markdown

/-- The marker of a list item and the text behind it. -/
structure ListMarker where
  indent : Nat
  /-- The length of the marker itself. -/
  width : Nat
  /-- The last character of the marker, which all items of a list share. -/
  bullet : Char
  /-- The number of an ordered item. -/
  number : Option Nat
  text : List Char

/-- What a line starts. -/
inductive Start where
  | fence (indent : Nat) (mark : Char) (count : Nat) (info : List Char)
  | heading (level : Nat) (text : List Char)
  | underline (mark : Char)
  | thematicBreak
  | quote
  | list (marker : ListMarker)
  /-- The label of a definition, and the source behind its colon. -/
  | definition (label after : List Char)
  /-- The opening of raw HTML without indentation, and the source behind it. -/
  | html (opening after : List Char)
  | blank

namespace Start

/-- The greatest indentation of a block's first line. -/
def maxIndent : Nat := 3

/-- A fence of three or more backticks or tildes. -/
def fence? (most : Nat) (cs : List Char) : Option Start := do
  let (indent, cs) ← dedent? most cs
  let mark ← cs.head?
  let run := cs.takeWhile (· = mark)
  if (mark = '`' || mark = '~') && run.length ≥ 3 then
    some (.fence indent mark run.length ((lineText (cs.drop run.length)).dropWhile isIndent))
  else none

/-- A heading without its closing number signs. -/
def headingText (cs : List Char) : List Char :=
  let isSpace (c : Char) : Bool :=
    c = ' ' || c = '\t' || c = '\n' || c = '\r' || c = '\x0b' || c = '\x0c'
  let text := trimBoth isSpace cs
  let body := dropTail isBlank text
  let front := dropTail (· = '#') body
  let closed := front.length < body.length && (front.getLast?.all isBlank)
  if closed then dropTail isBlank front else text

/-- A heading: one to six number signs, and nothing or a space or tab behind them. -/
def heading? (most : Nat) (cs : List Char) : Option Start := do
  let (_, cs) ← dedent? most cs
  let level := (cs.takeWhile (· = '#')).length
  let text := lineText (cs.drop level)
  if 1 ≤ level && level ≤ 6 && (text.head?.all isIndent) then
    some (.heading level (headingText text))
  else none

/-- The underline of a heading: equals signs or hyphens. -/
def underline? (cs : List Char) : Option Start := do
  let (_, cs) ← dedent? maxIndent cs
  let run := cs.takeWhile fun c => c = '=' || c = '-'
  let mark ← run.getLast?
  if (lineText (cs.drop run.length)).all isIndent then some (.underline mark) else none

/-- A thematic break: three or more equal marks with spaces and tabs between them. -/
def thematicBreak? (most : Nat) (cs : List Char) : Option Start := do
  let (_, cs) ← dedent? most cs
  let line := lineText cs
  let mark ← line.head?
  if (mark = '-' || mark = '_' || mark = '*') && line.all (fun c => c = mark || isIndent c) &&
      line.count mark ≥ 3 then
    some .thematicBreak
  else none

/-- A quotation mark. -/
def quote? (most : Nat) (cs : List Char) : Option Start := do
  let (_, cs) ← dedent? most cs
  if cs.head? = some '>' then some .quote else none

/-- The marker of a list item: a bullet, or at most nine digits with a period or a parenthesis,
and behind it nothing or a space or tab. -/
def marker? (most : Nat) (cs : List Char) : Option ListMarker := do
  let (indent, cs) ← dedent? most cs
  let bullet ← cs.head?
  let digits := cs.takeWhile fun c => (decimalDigit? c).isSome
  let fits (text : List Char) : Bool := text.all isIndent || (text.head?.any isIndent)
  if bullet = '*' || bullet = '+' || bullet = '-' then
    let text := lineText (cs.drop 1)
    if fits text then some ⟨indent, 1, bullet, none, text⟩ else none
  else if 1 ≤ digits.length && digits.length ≤ 9 then
    let bullet ← (cs.drop digits.length).head?
    let text := lineText (cs.drop (digits.length + 1))
    if (bullet = '.' || bullet = ')') && fits text then
      let number := ofDigits 10 (digits.filterMap decimalDigit?)
      some ⟨indent, digits.length + 1, bullet, some number, text⟩
    else none
  else none

/-- A list. -/
def list? (most : Nat) (cs : List Char) : Option Start := (marker? most cs).map .list

/-- A link definition: a label in brackets and a colon. -/
def definition? (cs : List Char) : Option Start := do
  let (_, cs) ← dedent? maxIndent cs
  match cs with
  | '[' :: rest =>
    let (label, after) ← readLabel? rest
    match after with
    | ':' :: after => some (.definition label after)
    | _ => none
  | _ => none

/-- Raw HTML: a tag's beginning, a comment, an instruction, a declaration or character data. -/
def html? (cs : List Char) : Option Start := do
  let (_, cs) ← dedent? maxIndent cs
  let other (opening : String) : Option Start :=
    (stripStart? opening.toList cs).map fun after => .html opening.toList after
  match cs with
  | '<' :: rest =>
    let slash := rest.head? = some '/'
    match Tag.readName? (if slash then rest.drop 1 else rest) with
    | some (name, after) => some (.html ('<' :: (if slash then '/' :: name else name)) after)
    | none =>
      match rest with
      | '!' :: c :: after =>
        if 'A' ≤ c && c ≤ 'Z' then some (.html ['<', '!', c] after)
        else (other "<!--").orElse fun _ => other "<![CDATA["
      | _ => other "<?"
  | _ => none

/-- The names of block tags. -/
def blockTags : List String := [
  "address", "article", "aside", "base", "basefont", "blockquote", "body", "caption", "center",
  "col", "colgroup", "dd", "details", "dialog", "dir", "div", "dl", "dt", "fieldset",
  "figcaption", "figure", "footer", "form", "frame", "frameset", "h1", "h2", "h3", "h4", "h5",
  "h6", "head", "header", "hr", "html", "iframe", "legend", "li", "link", "main", "menu",
  "menuitem", "meta", "nav", "noframes", "ol", "optgroup", "option", "p", "param", "section",
  "source", "summary", "table", "tbody", "td", "tfoot", "th", "thead", "title", "tr", "track",
  "ul"]

/-- The names of tags whose content is kept as it is. -/
def literalTags : List String := ["pre", "script", "style", "textarea"]

/-- Raw HTML that ends a quote or a list item: the name of a block or literal tag, in small
letters and with nothing or white space behind it, or what starts with no tag. -/
def blockHtml? (most : Nat) (cs : List Char) : Option Start := do
  let (n, rest) ← dedent? most cs
  match html? (spaces (min n maxIndent) ++ rest) with
  | some (.html opening after) =>
    match opening with
    | '<' :: '!' :: _ => some (.html opening after)
    | '<' :: '?' :: _ => some (.html opening after)
    | _ =>
      let name := String.ofList (opening.filter fun c => c ≠ '<' && c ≠ '/')
      if !(blockTags.contains name || literalTags.contains name) then none
      else match after with
        | [] => some (.html opening [])
        | '\n' :: more => some (.html opening more)
        | c :: _ => if isIndent c then some (.html opening (after.dropWhile isIndent)) else none
  | _ => none

/-- A blank line. -/
def blank? (cs : List Char) : Option Start := (afterBlankLine? cs).map fun _ => .blank

/-- What the line starts. Where containers may nest no deeper, it starts neither a quote nor a
list. -/
def first? (containers : Bool) (cs : List Char) : Option Start :=
  let inner := if containers then (quote? maxIndent cs).orElse fun _ => list? maxIndent cs else none
  (fence? maxIndent cs).orElse fun _ => (heading? maxIndent cs).orElse fun _ =>
    (underline? cs).orElse fun _ => (thematicBreak? maxIndent cs).orElse fun _ =>
    inner.orElse fun _ => (definition? cs).orElse fun _ => (html? cs).orElse fun _ => blank? cs

/-- What ends a quote at a line without a quotation mark. -/
def endingQuote? (cs : List Char) : Option Start :=
  (blank? cs).orElse fun _ => (thematicBreak? maxIndent cs).orElse fun _ =>
    (fence? maxIndent cs).orElse fun _ => (list? maxIndent cs).orElse fun _ =>
    blockHtml? maxIndent cs

/-- What ends a list item other than the next item, at a line that is indented by at most
`most` spaces. -/
def endingItem? (most : Nat) (cs : List Char) : Option Start :=
  (fence? most cs).orElse fun _ => (heading? most cs).orElse fun _ =>
    (quote? most cs).orElse fun _ => (blockHtml? most cs).orElse fun _ => list? most cs

end Start

end AlertBridge.Markdown
