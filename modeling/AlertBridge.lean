import AlertBridge.Alert.Basic
import AlertBridge.Alert.Group
import AlertBridge.Binary64
import AlertBridge.Binary64.Rounded
import AlertBridge.Chunk
import AlertBridge.Config.Basic
import AlertBridge.Config.File
import AlertBridge.Config.Secret
import AlertBridge.Delivery.Basic
import AlertBridge.Discord.Delivery
import AlertBridge.Discord.Embed
import AlertBridge.Discord.Field
import AlertBridge.Discord.Message
import AlertBridge.Endpoint.Basic
import AlertBridge.Endpoint.Handler
import AlertBridge.Endpoint.Target
import AlertBridge.Fault
import AlertBridge.Json.Access
import AlertBridge.Json.Basic
import AlertBridge.Json.Order
import AlertBridge.Json.Reader
import AlertBridge.Json.Shown
import AlertBridge.Json.Writable
import AlertBridge.Json.Written
import AlertBridge.Log.Line
import AlertBridge.Log.Mark
import AlertBridge.Log.Mask
import AlertBridge.Log.Message
import AlertBridge.Log.Record
import AlertBridge.Log.Root
import AlertBridge.Log.Value
import AlertBridge.Markdown.Block
import AlertBridge.Markdown.BlockStart
import AlertBridge.Markdown.Container
import AlertBridge.Markdown.Document
import AlertBridge.Markdown.Emphasis
import AlertBridge.Markdown.Inline
import AlertBridge.Markdown.Line
import AlertBridge.Markdown.Link
import AlertBridge.Markdown.Node
import AlertBridge.Markdown.Tag
import AlertBridge.RichText.Compile
import AlertBridge.RichText.Schema
import AlertBridge.RichText.Style
import AlertBridge.Settings
import AlertBridge.Slack.Block
import AlertBridge.Slack.Cell
import AlertBridge.Slack.Delivery
import AlertBridge.Slack.Mention
import AlertBridge.Slack.Mrkdwn
import AlertBridge.Slack.Packing
import AlertBridge.Slack.Report
import AlertBridge.Slack.Rich
import AlertBridge.Slack.Title
import AlertBridge.Slack.Unit
import AlertBridge.Text.Alphanumeric
import AlertBridge.Text.Blank
import AlertBridge.Text.Casing
import AlertBridge.Text.CharRef
import AlertBridge.Text.CharRef.Names
import AlertBridge.Text.Digit
import AlertBridge.Text.Integer
import AlertBridge.Text.Percent
import AlertBridge.Text.Printable
import AlertBridge.Text.Ranges
import AlertBridge.Text.Substring
import AlertBridge.Text.Utf
import AlertBridge.Token.Basic
import AlertBridge.Token.Escape
import AlertBridge.Token.Lexer
import AlertBridge.Token.OfNodes
import AlertBridge.Token.Text
import AlertBridge.Webhook.Address
import AlertBridge.Webhook.Request
import AlertBridge.Yaml.Cursor
import AlertBridge.Yaml.Layout
import AlertBridge.Yaml.Node
import AlertBridge.Yaml.Quoted
import AlertBridge.Yaml.Scalar
import AlertBridge.Yaml.Token
import AlertBridge.Yaml.Unquoted
import AlertBridge.Yaml.Value
import AlertBridge.Proofs.Fault.Sequence
import AlertBridge.Proofs.FirstOccurrence
import AlertBridge.Proofs.Slack.Packing
import AlertBridge.Proofs.Log.Masking
import AlertBridge.Proofs.Config.Secrecy
import AlertBridge.Proofs.RichText.ListLayout
import AlertBridge.Proofs.RichText.InlineStop
import AlertBridge.Proofs.RichText.InlineStyles
import AlertBridge.Proofs.Token.Escape
import AlertBridge.Proofs.Token.Conversion
import AlertBridge.Proofs.Token.NormalForm
import AlertBridge.Proofs.Token.Shape
import AlertBridge.Proofs.Token.NodeTree
import AlertBridge.Proofs.Token.VisibleText
import AlertBridge.Proofs.RichText.Ceiling
import AlertBridge.Proofs.RichText.RunText
import AlertBridge.Proofs.Token.NestedList
import AlertBridge.Proofs.RichText.ListText
import AlertBridge.Proofs.RichText.EmptyRuns
import AlertBridge.Proofs.RichText.Rebuilding
import AlertBridge.Proofs.RichText.Conformance
import AlertBridge.Proofs.Markdown.Prose
import AlertBridge.Proofs.Json.Key
import AlertBridge.Proofs.Alert.Form
import AlertBridge.Proofs.Alert.Grouping
import AlertBridge.Proofs.Chunk
import AlertBridge.Proofs.Slack.Heading
import AlertBridge.Proofs.Slack.GroupUnits
import AlertBridge.Proofs.Slack.Units
import AlertBridge.Proofs.Slack.StatusGroups
import AlertBridge.Proofs.Slack.ShownAlerts
import AlertBridge.Proofs.Slack.EmptyMessages
import AlertBridge.Proofs.Delivery.Isolation
import AlertBridge.Proofs.Alert.ByStatus
import AlertBridge.Proofs.Delivery.Sending
import AlertBridge.Proofs.Slack.GroupFaults
import AlertBridge.Proofs.Slack.MalformedAlert
import AlertBridge.Proofs.Config.Token
import AlertBridge.Proofs.Config.Entries
import AlertBridge.Proofs.Delivery.Requests
import AlertBridge.Proofs.Endpoint.Routing
import AlertBridge.Proofs.Json.Numeral
import AlertBridge.Proofs.Json.WrittenLine
import AlertBridge.Proofs.Json.Rereading
import AlertBridge.Proofs.Binary64.Shortest
import AlertBridge.Proofs.Json.Double
import AlertBridge.Proofs.Log.Line
import AlertBridge.Proofs.Log.Run
import AlertBridge.Proofs.Discord.InlineFields
import AlertBridge.Proofs.Discord.Limits
import AlertBridge.Proofs.Discord.Agreement
import AlertBridge.Proofs.Slack.FewestMessages
import AlertBridge.Proofs.Token.EscapedText
import AlertBridge.Proofs.RichText.InlineText
import AlertBridge.Proofs.Log.WholeSecret
import AlertBridge.Proofs.Slack.Marks
import AlertBridge.Proofs.Slack.CellParts
import AlertBridge.Proofs.Slack.Phrases
import AlertBridge.Proofs.Discord.Packing
import AlertBridge.Proofs.Token.TreeText
import AlertBridge.Proofs.Token.MarkdownSource
import AlertBridge.Proofs.RichText.Validation
import AlertBridge.Proofs.Token.TextForm
import AlertBridge.Proofs.Alert.Partition
import AlertBridge.Proofs.Slack.ResolvedFirst
import AlertBridge.Proofs.Settings
