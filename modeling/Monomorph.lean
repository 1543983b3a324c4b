import Monomorph.Artifact
import Monomorph.Build
import Monomorph.Command
import Monomorph.Config.Setting.Json
import Monomorph.Declaration
import Monomorph.DispatchTable.Manifest
import Monomorph.Dispatcher
import Monomorph.ElementFormat
import Monomorph.Emission.Native
import Monomorph.Emission.Stub
import Monomorph.Expansion
import Monomorph.FieldName
import Monomorph.FileSystem.Difference
import Monomorph.Files
import Monomorph.Json.Printer
import Monomorph.Json.Reader
import Monomorph.Literal.Default
import Monomorph.Literal.Evaluation
import Monomorph.Main
import Monomorph.Memory.Allocation
import Monomorph.Number.Shortest
import Monomorph.Program.Member
import Monomorph.Proofs.Build.Commit
import Monomorph.Proofs.Build.Idempotence
import Monomorph.Proofs.Build.Isolation
import Monomorph.Proofs.Build.Module
import Monomorph.Proofs.Build.Preservation
import Monomorph.Proofs.Build.Repetition
import Monomorph.Proofs.Build.Settled
import Monomorph.Proofs.Build.Traces
import Monomorph.Proofs.DispatchTable.Mismatch
import Monomorph.Proofs.DispatchTable.Reload
import Monomorph.Proofs.Dispatcher.Default
import Monomorph.Proofs.Dispatcher.Lifetime
import Monomorph.Proofs.Dispatcher.Resolve
import Monomorph.Proofs.Emission.Accepted
import Monomorph.Proofs.Emission.Branch
import Monomorph.Proofs.Emission.Defined
import Monomorph.Proofs.Emission.Outcome
import Monomorph.Proofs.Emission.Substitution
import Monomorph.Proofs.Expansion.Reference
import Monomorph.Proofs.FileSystem.Listing
import Monomorph.Proofs.Scan.Accepted
import Monomorph.Proofs.Scan.Documented
import Monomorph.Proofs.Scan.Preserved
import Monomorph.Proofs.Scan.Recorded
import Monomorph.Proofs.Scan.WellFormed
import Monomorph.Registry
import Monomorph.Report
import Monomorph.Report.Details
import Monomorph.Resolution
import Monomorph.Scalar
import Monomorph.Scalar.Format
import Monomorph.Scalar.TimeStep
import Monomorph.Scan
import Monomorph.Text.Blank
import Monomorph.Text.CharacterName
import Monomorph.Text.CharacterName.Alias
import Monomorph.Text.CharacterName.Ancient
import Monomorph.Text.CharacterName.Eastern
import Monomorph.Text.CharacterName.General
import Monomorph.Text.CharacterName.Notation
import Monomorph.Text.CharacterName.Sign
import Monomorph.Text.CharacterName.Symbol
import Monomorph.Text.Printable
import Monomorph.Text.Utf8
import Monomorph.Token.Lexer
import Monomorph.Toml.Reader
import Monomorph.Proofs.Config.Document
import Monomorph.Proofs.Emission.Capture
import Monomorph.Proofs.Literal.Verbatim
import Monomorph.Proofs.Emission.Docstring
import Monomorph.Proofs.Expansion.Count
import Monomorph.Proofs.DispatchTable.Narrowing
import Monomorph.Proofs.Forest.Classes
import Monomorph.Proofs.Resolution.Outcome
import Monomorph.Proofs.Dispatcher.Binding
import Monomorph.Proofs.MarkerCall.Split
import Monomorph.Proofs.Emission.Annotation
import Monomorph.Proofs.Scan.Slices
import Monomorph.Proofs.Literal.Integer
import Monomorph.Proofs.Command.Inputs
import Monomorph.Proofs.Scan.Blamed
import Monomorph.Proofs.Token.Tiling
