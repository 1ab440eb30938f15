import GasReport.Main
import GasReport.Proofs.Collection.Gather
import GasReport.Proofs.Collection.Repetition
import GasReport.Proofs.Collection.Sorting
import GasReport.Proofs.Json.Number
import GasReport.Proofs.Pattern.Matching
import GasReport.Proofs.Pattern.Literal
import GasReport.Proofs.Compiler.Markers
import GasReport.Proofs.Compiler.Ranking
import GasReport.Proofs.Gas.Order
import GasReport.Proofs.Gas.Difference
import GasReport.Proofs.Contract.Group
import GasReport.Proofs.Contract.Deserved
import GasReport.Proofs.Contract.Function
import GasReport.Proofs.Contract.Isolation
import GasReport.Proofs.Contract.Results
import GasReport.Proofs.Contract.FunctionTable
import GasReport.Proofs.Contract.BaselineBuild
import GasReport.Proofs.Contract.Settings
import GasReport.Proofs.Contract.Partition
import GasReport.Proofs.Contract.Samples
import GasReport.Proofs.Contract.Noninterference
import GasReport.Proofs.Contract.Renaming
import GasReport.Proofs.Contract.Repetition
import GasReport.Proofs.Contract.Extension
import GasReport.Proofs.Contract.Notices
import GasReport.Proofs.Contract.Deployment
import GasReport.Proofs.Versions.MethodRows
import GasReport.Proofs.Versions.Statistics
import GasReport.Proofs.Versions.Deltas
import GasReport.Proofs.Versions.Regressions
import GasReport.Proofs.Versions.Improvements
import GasReport.Proofs.Versions.DefaultPair
import GasReport.Proofs.Versions.Average
import GasReport.Proofs.Versions.EmptyVersion
import GasReport.Proofs.Project.Archive
import GasReport.Proofs.Project.Combined
import GasReport.Proofs.Project.Stamping
import GasReport.Proofs.Project.ToolchainNames
import GasReport.Proofs.Project.Notices
import GasReport.Proofs.Command.Selection
import GasReport.Proofs.Output.Escapes
import GasReport.Proofs.Output.Widths
import GasReport.Proofs.Record.RoundTrip
import GasReport.Proofs.Record.Fields
import GasReport.Proofs.Record.Grammar
import GasReport.Proofs.Record.Rearrangement
import GasReport.Proofs.Record.Refusal
