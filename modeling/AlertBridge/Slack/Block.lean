import AlertBridge.RichText.Schema
import AlertBridge.Slack.Cell

/-!
# Blocks of Slack messages

Sections, contexts and tables built out of an alert's annotations, whose values may be of any
kind.
-/

namespace AlertBridge.Slack

/-- A section of marked-up text, none for a text that does not count as present. -/
def sectionBlock? (text : Json) : Option Json :=
  if text.truthy then
    some (Schema.typed "section" [("text", Schema.textObject "mrkdwn" text)])
  else none

/-- The section of a text that is not empty, none for the empty one. -/
def textSection? (text : String) : Option Json := sectionBlock? (.str text)

/-- A context with an icon and a text, of which at least one has to count as present. -/
def contextBlock? (text icon : Json) : Except Fault (Option Json) := do
  if !text.truthy && !icon.truthy then return none
  let image := if icon.truthy then
      [Schema.typed "image" [("image_url", icon), ("alt_text", .str "footer icon")]]
    else []
  let caption ← if text.truthy then do
      pure [Schema.textObject "mrkdwn" (.str (← Mrkdwn.ofValue? text))]
    else pure []
  return some (Schema.typed "context" [("elements", .arr (image ++ caption))])

/-- A cell with the parts of a value's text. -/
def richCell (value : Json) : Json :=
  Schema.typed "rich_text" [("elements", .arr [Schema.typed "rich_text_section"
    [("elements", .arr ((Cell.ofValue value).map CellElement.toJson))]])]

/-- A row of a table: its number, counted from one, a name and a value. -/
def tableRow (number : Nat) (name value : Json) : Json :=
  Schema.typed "table_row" [("cells", .arr [
    Schema.textObject "raw_text" (.str (toString number)),
    Schema.textObject "raw_text" (name.orElse (.str "")),
    richCell (value.orElse (.str ""))])]

/-- A table with a row for each name and value. -/
def tableBlock (rows : List (Json × Json)) : Json :=
  Schema.typed "table" [("rows", .arr (rows.mapIdx fun i (name, value) =>
    tableRow (i + 1) name value))]

/-- A table whose rows are given as objects. -/
def tableOf? (rows : Json) : Except Fault Json := do
  let pairs ← (← rows.items).mapM fun row => do
    return (← row.get "field_name", ← row.get "field_value")
  return tableBlock pairs

end AlertBridge.Slack
