import InputPanel.Command
import InputPanel.Condition
import InputPanel.Config
import InputPanel.Config.Holder
import InputPanel.Document
import InputPanel.EnvironmentFile
import InputPanel.Expansion
import InputPanel.Family
import InputPanel.Field.Compile
import InputPanel.FileTree
import InputPanel.Invocation
import InputPanel.Json.Printer
import InputPanel.Json.Reader
import InputPanel.Layout
import InputPanel.Main
import InputPanel.Node
import InputPanel.Pattern
import InputPanel.Plugin.Validators
import InputPanel.Preset
import InputPanel.Proofs.Plugin.Verdicts
import InputPanel.Proofs.Properties.RoundTrip
import InputPanel.Proofs.Session.Answers
import InputPanel.Proofs.Session.Containment
import InputPanel.Properties
import InputPanel.Report
import InputPanel.Session.Interview
import InputPanel.Store
import InputPanel.Store.Operation
import InputPanel.Xml
import InputPanel.Yaml
import InputPanel.Proofs.Dialogue.Writing
import InputPanel.Proofs.Session.Passes
import InputPanel.Proofs.Session.Frame
import InputPanel.Proofs.Session.Passwords
import InputPanel.Proofs.Session.Confirmation
import InputPanel.Proofs.Session.Selections
import InputPanel.Proofs.Session.Replay
import InputPanel.Proofs.Field.Recompiling
import InputPanel.Proofs.Session.Keeping
import InputPanel.Proofs.Session.Templates
import InputPanel.Proofs.Session.Texts
import InputPanel.Proofs.Session.Failing
import InputPanel.Proofs.Session.Concealment
import InputPanel.Proofs.Expansion
import InputPanel.Proofs.Dialogue.InStep
import InputPanel.Proofs.Condition.Sandbox
import InputPanel.Proofs.Session.Isolation
import InputPanel.Proofs.Node.DataForm
import InputPanel.Proofs.Session.DataForm
import InputPanel.Proofs.Dialogue.Sources
import InputPanel.Proofs.Dialogue.FirstAccepted
import InputPanel.Proofs.Dialogue.Margins
import InputPanel.Proofs.Session.Scripted
import InputPanel.Proofs.Registry
import InputPanel.Proofs.Failure
import InputPanel.Proofs.Json.Faults
import InputPanel.Proofs.Json.RoundTrip
import InputPanel.Proofs.Config.Layers
import InputPanel.Proofs.Config.Saving
import InputPanel.Proofs.Command.Configure
import InputPanel.Proofs.Document.Loading
import InputPanel.Proofs.Session.Widening
import InputPanel.Proofs.Store.History
import InputPanel.Proofs.Condition.Locality
import InputPanel.Proofs.Number.Integer
import InputPanel.Proofs.Text.Words
import InputPanel.Proofs.Layout.Reconstruction
import InputPanel.Proofs.Layout.Shown
import InputPanel.Proofs.Pattern.Repetition
import InputPanel.Proofs.Expansion.Matching
import InputPanel.Proofs.Condition.Logic
import InputPanel.Proofs.Condition.Negation
import InputPanel.Proofs.Field.Choices
import InputPanel.Proofs.Properties.Concatenation
import InputPanel.Proofs.Properties.Separator
import InputPanel.Proofs.Field.WellFormed
import InputPanel.Proofs.Session.Procedures
import InputPanel.Proofs.Layout.RoundTrip
import InputPanel.Proofs.Plugin.Componentwise
import InputPanel.Proofs.Properties.Structured
import InputPanel.Proofs.Command.Failing
