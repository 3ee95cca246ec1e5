import GrammarRules.Command.Arguments
import GrammarRules.Command.Help
import GrammarRules.Command.Log
import GrammarRules.Command.Run
import GrammarRules.Config.Basic
import GrammarRules.Config.Load
import GrammarRules.Config.Reader
import GrammarRules.Document.Compiler
import GrammarRules.Document.File
import GrammarRules.Document.Scope
import GrammarRules.Document.Tag
import GrammarRules.Files.Access
import GrammarRules.Files.Disk
import GrammarRules.Main
import GrammarRules.Markup.Entity
import GrammarRules.Markup.Event
import GrammarRules.Markup.Reader
import GrammarRules.Markup.Stream
import GrammarRules.Markup.Tag
import GrammarRules.Message.Draft
import GrammarRules.Output.Datum
import GrammarRules.Output.Json
import GrammarRules.Output.Ron
import GrammarRules.Output.Summary
import GrammarRules.Pattern.Draft
import GrammarRules.Pattern.Marker
import GrammarRules.Pattern.Numbering
import GrammarRules.Pattern.Phrase
import GrammarRules.Proofs.Document.Bookkeeping
import GrammarRules.Proofs.Document.Chunks
import GrammarRules.Proofs.Document.Closing
import GrammarRules.Proofs.Document.Delivery
import GrammarRules.Proofs.Document.Emission
import GrammarRules.Proofs.Document.Frame
import GrammarRules.Proofs.Document.Gain
import GrammarRules.Proofs.Document.Group
import GrammarRules.Proofs.Document.Idle
import GrammarRules.Proofs.Document.Isolation
import GrammarRules.Proofs.Document.Manuscript
import GrammarRules.Proofs.Document.Marker
import GrammarRules.Proofs.Document.Message
import GrammarRules.Proofs.Document.Naming
import GrammarRules.Proofs.Document.Nesting
import GrammarRules.Proofs.Document.Opening
import GrammarRules.Proofs.Document.Origin
import GrammarRules.Proofs.Document.Path
import GrammarRules.Proofs.Document.Phrases
import GrammarRules.Proofs.Document.Quotation
import GrammarRules.Proofs.Document.Reachable
import GrammarRules.Proofs.Document.Recording
import GrammarRules.Proofs.Document.Refusal
import GrammarRules.Proofs.Document.Slots
import GrammarRules.Proofs.Document.Sound
import GrammarRules.Proofs.Document.Token
import GrammarRules.Proofs.Document.Transition
import GrammarRules.Proofs.Document.Unification
import GrammarRules.Proofs.Document.Validation
import GrammarRules.Proofs.Markup.Content
import GrammarRules.Proofs.Markup.Nesting
import GrammarRules.Proofs.Message.Placeholder
import GrammarRules.Proofs.Message.Reading
import GrammarRules.Proofs.Output.Summary
import GrammarRules.Proofs.Pattern.Correction
import GrammarRules.Proofs.Pattern.Layout
import GrammarRules.Proofs.Pattern.Open
import GrammarRules.Proofs.Pattern.Renumbering
import GrammarRules.Proofs.Pattern.Script
import GrammarRules.Proofs.Pattern.Slot
import GrammarRules.Proofs.Pattern.Sound
import GrammarRules.Proofs.Pattern.Unification
import GrammarRules.Proofs.Report.Headline
import GrammarRules.Proofs.Report.Snippet
import GrammarRules.Proofs.Result
import GrammarRules.Proofs.Rule.Family
import GrammarRules.Proofs.Rule.Fault
import GrammarRules.Proofs.Rule.Finish
import GrammarRules.Proofs.Rule.Name
import GrammarRules.Proofs.Source.Position
import GrammarRules.Proofs.Source.Scan
import GrammarRules.Proofs.Table
import GrammarRules.Proofs.Text.Collapse
import GrammarRules.Proofs.Text.Lines
import GrammarRules.Proofs.Text.Numeral
import GrammarRules.Proofs.Text.Passage
import GrammarRules.Proofs.Text.Renumber
import GrammarRules.Proofs.Text.Spelling
import GrammarRules.Proofs.Text.Words
import GrammarRules.Proofs.Token.Reading
import GrammarRules.Proofs.Token.Reference
import GrammarRules.Proofs.Token.Script
import GrammarRules.Proofs.Token.Written
import GrammarRules.Regex.Parser
import GrammarRules.Regex.Property
import GrammarRules.Regex.Syntax
import GrammarRules.Regex.Validity
import GrammarRules.Report.Diagnostic
import GrammarRules.Report.Renderer
import GrammarRules.Rule.Attribute
import GrammarRules.Rule.Basic
import GrammarRules.Rule.Datum
import GrammarRules.Rule.Draft
import GrammarRules.Rule.Error
import GrammarRules.Rule.Options
import GrammarRules.Source.File
import GrammarRules.Source.Position
import GrammarRules.Table
import GrammarRules.Text.Blank
import GrammarRules.Text.Digit
import GrammarRules.Text.Letter
import GrammarRules.Text.Numeral
import GrammarRules.Text.Printable
import GrammarRules.Text.Reference
import GrammarRules.Token.Draft
import GrammarRules.Token.Reference
import GrammarRules.Toml.Number
import GrammarRules.Toml.Quoted
import GrammarRules.Toml.Reader
import GrammarRules.Toml.Value
