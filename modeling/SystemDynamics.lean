import SystemDynamics.Text.Blank
import SystemDynamics.Text.Alphanumeric
import SystemDynamics.Text.DecimalDigit
import SystemDynamics.Text.Quoted
import SystemDynamics.Number.Decimal
import SystemDynamics.Number.Reading
import SystemDynamics.Expr.Parser
import SystemDynamics.Depth
import SystemDynamics.Table
import SystemDynamics.Scalar
import SystemDynamics.Fault
import SystemDynamics.Expr.Descent
import SystemDynamics.Diagnostics
import SystemDynamics.Surface
import SystemDynamics.Delay.Kernel
import SystemDynamics.Expr.Value
import SystemDynamics.Expr.Function
import SystemDynamics.Delay.Arena
import SystemDynamics.Expr.Code
import SystemDynamics.Expr.Limited
import SystemDynamics.Expr.Evaluation
import SystemDynamics.Expr.Formula
import SystemDynamics.Notice
import SystemDynamics.Observers
import SystemDynamics.Declaration.Basic
import SystemDynamics.Declaration.Line
import SystemDynamics.Declaration.Reader
import SystemDynamics.History
import SystemDynamics.Model.Transfer
import SystemDynamics.Model.Basic
import SystemDynamics.Model.Build
import SystemDynamics.Model.Step
import SystemDynamics.Model.Batch
import SystemDynamics.Model.Summary
import SystemDynamics.Model.Load
import SystemDynamics.Model.Limited
import SystemDynamics.Model.Data
import SystemDynamics.Model.Calls
import SystemDynamics.Lookup
import SystemDynamics.Settings.Basic
import SystemDynamics.Settings.Yaml
import SystemDynamics.Settings.Load
import SystemDynamics.Report.Json
import SystemDynamics.Report.Markup
import SystemDynamics.Command.Arguments
import SystemDynamics.Command.Execute
import SystemDynamics.Main
import SystemDynamics.Report.Layout
import SystemDynamics.Delay.Mixed
import SystemDynamics.Proofs.Grammar
import SystemDynamics.Proofs.Parsing
import SystemDynamics.Proofs.Requests
import SystemDynamics.Proofs.Runs
import SystemDynamics.Proofs.Batches
import SystemDynamics.Proofs.Outcome
import SystemDynamics.Proofs.Evaluating
import SystemDynamics.Proofs.Frame
import SystemDynamics.Proofs.Places
import SystemDynamics.Proofs.Claims
import SystemDynamics.Proofs.OpenCalls
import SystemDynamics.Proofs.Descent
import SystemDynamics.Proofs.Limits
import SystemDynamics.Proofs.Loading
import SystemDynamics.Proofs.LoadingLimits
import SystemDynamics.Proofs.Restart
import SystemDynamics.Proofs.Simultaneity
import SystemDynamics.Proofs.Declared
import SystemDynamics.Proofs.Bounds
import SystemDynamics.Proofs.Ending
import SystemDynamics.Proofs.Answers
import SystemDynamics.Proofs.Slots
import SystemDynamics.Proofs.Lines
import SystemDynamics.Proofs.Blocks
import SystemDynamics.Proofs.Calls
import SystemDynamics.Proofs.Trace
import SystemDynamics.Proofs.DelayRange
import SystemDynamics.Proofs.References
import SystemDynamics.Proofs.Rounding
import SystemDynamics.Proofs.Sums
import SystemDynamics.Proofs.Arena
import SystemDynamics.Proofs.Constants
import SystemDynamics.Proofs.Strands
import SystemDynamics.Proofs.Conservation
import SystemDynamics.Proofs.Sorted
import SystemDynamics.Proofs.WellFormed
import SystemDynamics.Proofs.Transport
import SystemDynamics.Proofs.Announcements
import SystemDynamics.Proofs.Lexemes
import SystemDynamics.Proofs.Tokenizing
import SystemDynamics.Proofs.Respacing
import SystemDynamics.Proofs.Naming
import SystemDynamics.Proofs.ViablePrefixes
import SystemDynamics.Proofs.Bilinear
import SystemDynamics.Proofs.Curves
import SystemDynamics.Proofs.Records
import SystemDynamics.Proofs.Dependencies
import SystemDynamics.Proofs.Loops
import SystemDynamics.Proofs.BracketedTexts
import SystemDynamics.Proofs.Progress
import SystemDynamics.Proofs.Accounts
import SystemDynamics.Proofs.Registrations
import SystemDynamics.Proofs.Patterns
import SystemDynamics.Proofs.PointLines
import SystemDynamics.Proofs.NumberForms
import SystemDynamics.Proofs.DeepTexts
import SystemDynamics.Proofs.StepSizes
