import AgentTrial.Text.Excerpt
import AgentTrial.Text.Fence
import AgentTrial.Text.Literal
import AgentTrial.Text.Template
import AgentTrial.Decimal.Form
import AgentTrial.Decimal.Reading
import AgentTrial.Text.Slug
import AgentTrial.Json.Printer
import AgentTrial.Json.Decode
import AgentTrial.Document.Datum
import AgentTrial.Spec.Codec
import AgentTrial.Spec.Problem
import AgentTrial.Yaml.Node
import AgentTrial.Yaml.Printer
import AgentTrial.Program.Compile
import AgentTrial.Spec.Document
import AgentTrial.Calendar.Date
import AgentTrial.Calendar.Stamp
import AgentTrial.Fault
import AgentTrial.Host.Basic
import AgentTrial.Host.Mock
import AgentTrial.Optimizer.Feedback
import AgentTrial.Optimizer.Loop
import AgentTrial.Optimizer.Request
import AgentTrial.Report.Codec
import AgentTrial.Report.Normalize
import AgentTrial.Optimizer.History
import AgentTrial.Optimizer.Run
import AgentTrial.Provider.Mock
import AgentTrial.Spec.File
import AgentTrial.Suite.Basic
import AgentTrial.Part
import AgentTrial.Text.Lossy
import AgentTrial.Config.Basic
import AgentTrial.Shell.Pattern
import AgentTrial.Shell.Script
import AgentTrial.Shell.Session
import AgentTrial.Shell.Calculation
import AgentTrial.Shell.Field
import AgentTrial.Shell.Format
import AgentTrial.Shell.Tool
import AgentTrial.Shell.Condition
import AgentTrial.Shell.Run
import AgentTrial.Command.Basic
import AgentTrial.Shell.Process
import AgentTrial.Host.Artifact
import AgentTrial.Host.RunnerReport
import AgentTrial.Host.Vitest
import AgentTrial.Provider.Command
import AgentTrial.Cli.Argument
import AgentTrial.Cli.Invocation
import AgentTrial.Cli.Table
import AgentTrial.Cli.Console
import AgentTrial.Cli.Run
import AgentTrial.Host.Identifier
import AgentTrial.Main
import AgentTrial.Proofs.Optimizer.Simulation
import AgentTrial.Proofs.Optimizer.Transcript
import AgentTrial.Proofs.Optimizer.Turn
import AgentTrial.Proofs.Optimizer.Course
import AgentTrial.Proofs.Optimizer.Lineage
import AgentTrial.Proofs.Program.Reference
import AgentTrial.Proofs.Cli.Validate
import AgentTrial.Proofs.Optimizer.Abort
import AgentTrial.Proofs.Optimizer.Conduct
import AgentTrial.Proofs.Optimizer.Chronicle
import AgentTrial.Proofs.Optimizer.Snapshot
import AgentTrial.Proofs.Text.Literal
import AgentTrial.Proofs.Spec.Property
import AgentTrial.Proofs.Spec.Same
import AgentTrial.Proofs.Program.Agreement
import AgentTrial.Proofs.Spec.RoundTrip
import AgentTrial.Proofs.Text.Mark
import AgentTrial.Proofs.Store.Path
import AgentTrial.Proofs.Program.Stem
import AgentTrial.Proofs.Host.Attribution
import AgentTrial.Proofs.Report.Count
import AgentTrial.Proofs.Report.Tally
import AgentTrial.Proofs.Report.Verdict
import AgentTrial.Proofs.Report.Rate
import AgentTrial.Proofs.Report.Convergence
import AgentTrial.Proofs.Report.Capture
import AgentTrial.Proofs.Host.SilentPass
import AgentTrial.Proofs.Decimal.Form
import AgentTrial.Proofs.Program.Line
import AgentTrial.Proofs.Program.Digest
import AgentTrial.Proofs.Optimizer.Digest
import AgentTrial.Proofs.Program.Isolation
import AgentTrial.Proofs.Program.Assembly
import AgentTrial.Proofs.Store.Remove
import AgentTrial.Proofs.Host.Artifact
import AgentTrial.Proofs.Host.Footprint
import AgentTrial.Proofs.Text.Search
import AgentTrial.Proofs.Text.Trim
import AgentTrial.Proofs.Text.Slice
import AgentTrial.Proofs.Text.Template
import AgentTrial.Proofs.Optimizer.Request
import AgentTrial.Proofs.Program.Validator
import AgentTrial.Proofs.Optimizer.Feedback
import AgentTrial.Proofs.Optimizer.Adoption
import AgentTrial.Proofs.Host.Expansion
import AgentTrial.Proofs.Json.Locality
import AgentTrial.Proofs.Provider.Reply
import AgentTrial.Proofs.Optimizer.Settings
import AgentTrial.Proofs.Decimal.Value
import AgentTrial.Proofs.Spec.Valid
import AgentTrial.Proofs.Suite.Build
import AgentTrial.Proofs.Json.Sorted
import AgentTrial.Proofs.Host.Provided
import AgentTrial.Proofs.Report.Codec
import AgentTrial.Proofs.Optimizer.History
import AgentTrial.Proofs.Order
import AgentTrial.Proofs.Calendar.Date
import AgentTrial.Proofs.Calendar.Stamp
