import FormMarkup.Form.Builder
import FormMarkup.Form.Definition
import FormMarkup.Settings.Load
import FormMarkup.Settings.Path
import FormMarkup.Proofs.Text.Trim
import FormMarkup.Proofs.Text.Letters
import FormMarkup.Proofs.Text.Words
import FormMarkup.Proofs.Text.Tokens
import FormMarkup.Proofs.Decimal.Signed
import FormMarkup.Proofs.Decimal.Written
import FormMarkup.Proofs.Pairs.Lookup
import FormMarkup.Proofs.Settings.Merging
import FormMarkup.Proofs.Settings.Layers
import FormMarkup.Proofs.Settings.Precedence
import FormMarkup.Proofs.Settings.Variable
import FormMarkup.Proofs.Settings.Environment
import FormMarkup.Proofs.Json.Normal
import FormMarkup.Proofs.Json.Numeral
import FormMarkup.Proofs.Markup.Entity
import FormMarkup.Proofs.Markup.Escaping
import FormMarkup.Proofs.Markup.Scan
import FormMarkup.Proofs.Markup.Tame
import FormMarkup.Proofs.Markup.Extra
import FormMarkup.Proofs.Markup.Nesting
import FormMarkup.Proofs.Markup.InputView
import FormMarkup.Proofs.Markup.TagView
import FormMarkup.Proofs.Markup.Content
import FormMarkup.Proofs.Markup.RawText
import FormMarkup.Proofs.Decode.Lookup
import FormMarkup.Proofs.Decode.WrittenKeys
import FormMarkup.Proofs.Decode.Members
import FormMarkup.Proofs.Decode.Agreement
import FormMarkup.Proofs.Decode.Rereading
import FormMarkup.Proofs.Decode.SingleNames
import FormMarkup.Proofs.Decode.Placed
import FormMarkup.Proofs.Decode.Integers
import FormMarkup.Proofs.Decode.Flags
import FormMarkup.Proofs.Decode.Entry
import FormMarkup.Proofs.Decode.KnownMembers
import FormMarkup.Proofs.Decode.Respelling
import FormMarkup.Proofs.Field.Quiet
import FormMarkup.Proofs.Field.Ordering
import FormMarkup.Proofs.Field.StableOrder
import FormMarkup.Proofs.Field.MapKeys
import FormMarkup.Proofs.Field.Alike
import FormMarkup.Proofs.Field.TextAndTree
import FormMarkup.Proofs.Field.Writing
import FormMarkup.Proofs.Field.WrittenForm
import FormMarkup.Proofs.Field.ReadBack
import FormMarkup.Proofs.Field.ByType
import FormMarkup.Proofs.Field.Items
import FormMarkup.Proofs.Field.HiddenPairs
import FormMarkup.Proofs.Field.UnknownMembers
import FormMarkup.Proofs.Field.OtherNames
import FormMarkup.Proofs.Field.Placed
import FormMarkup.Proofs.Field.Integers
import FormMarkup.Proofs.Field.Flags
import FormMarkup.Proofs.Field.Tables
import FormMarkup.Proofs.Render.Sound
import FormMarkup.Proofs.Render.Safety
import FormMarkup.Proofs.Render.Starts
import FormMarkup.Proofs.Render.Inputs
import FormMarkup.Proofs.Render.Options
import FormMarkup.Proofs.Render.Silent
import FormMarkup.Proofs.Render.Notices
import FormMarkup.Proofs.Render.Reordering
import FormMarkup.Proofs.Render.Completion
import FormMarkup.Proofs.Render.TagViews
import FormMarkup.Proofs.Render.Outline
import FormMarkup.Proofs.Render.Namespace
import FormMarkup.Proofs.Render.Marks
import FormMarkup.Proofs.Render.Ids
import FormMarkup.Proofs.Render.References
import FormMarkup.Proofs.Render.Constraints
import FormMarkup.Proofs.Render.Selection
import FormMarkup.Proofs.Render.HiddenPairs
import FormMarkup.Proofs.Render.InitialContent
import FormMarkup.Proofs.Render.Numbering
import FormMarkup.Proofs.Render.Wiring
import FormMarkup.Proofs.Render.Respacing
import FormMarkup.Proofs.Render.Classes
import FormMarkup.Proofs.Form.WrittenOrder
import FormMarkup.Proofs.Form.Ingestion
import FormMarkup.Proofs.Form.Calls
import FormMarkup.Proofs.Form.Steps
import FormMarkup.Proofs.Form.Grouping
import FormMarkup.Proofs.Form.Fragment
import FormMarkup.Proofs.Form.Description
