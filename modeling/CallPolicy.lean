import CallPolicy.Enforcement.Display
import CallPolicy.Enforcement.Guard
import CallPolicy.Enforcement.Script
import CallPolicy.Main
import CallPolicy.Policy.Edit
import CallPolicy.Proofs.CallGraph.Memoization
import CallPolicy.Proofs.Enforcement.Admission
import CallPolicy.Proofs.Enforcement.Calls
import CallPolicy.Proofs.CallGraph.Definitions
import CallPolicy.Proofs.Report.Consistency
import CallPolicy.Proofs.Json.Numbers
import CallPolicy.Proofs.Json.RoundTrip
import CallPolicy.Proofs.Enforcement.Reports
import CallPolicy.Proofs.Enforcement.Isolation
import CallPolicy.Proofs.Policy.Freezing
import CallPolicy.Proofs.Policy.Building
import CallPolicy.Proofs.Enforcement.Runs
import CallPolicy.Proofs.Enforcement.Delivery
import CallPolicy.Proofs.Report.CallChecks
import CallPolicy.Proofs.Report.Filing
import CallPolicy.Proofs.Json.Decoding
import CallPolicy.Proofs.Policy.Revisions
import CallPolicy.Proofs.Documents.RoundTrip
import CallPolicy.Proofs.Documents.Wire
import CallPolicy.Proofs.Syntax.Reading
import CallPolicy.Proofs.Syntax.PythonReading
import CallPolicy.Proofs.CallGraph.Imports
import CallPolicy.Proofs.Report.Imports
import CallPolicy.Proofs.Enforcement.Widening
import CallPolicy.Proofs.CommandLine.Verdict
import CallPolicy.Proofs.CallGraph.Markers
import CallPolicy.Proofs.Report.Classes
import CallPolicy.Proofs.Syntax.Comments
import CallPolicy.Proofs.Syntax.Tidiness
import CallPolicy.Proofs.Syntax.RustReading
import CallPolicy.Proofs.CallGraph.Stripping
import CallPolicy.Proofs.CallGraph.Comments
import CallPolicy.Proofs.Text.ByteOrder
import CallPolicy.Proofs.Policy.Validation
import CallPolicy.Proofs.Enforcement.Binding
import CallPolicy.Proofs.Report.CallFindings
import CallPolicy.Proofs.Policy.Paths
import CallPolicy.Proofs.Policy.Attaching
import CallPolicy.Proofs.Policy.Steps
import CallPolicy.Proofs.Report.Relaxing
import CallPolicy.Proofs.Policy.Evolution
import CallPolicy.Proofs.Enforcement.Lookups
import CallPolicy.Proofs.Enforcement.Granting
import CallPolicy.Proofs.Enforcement.Deadlines
import CallPolicy.Proofs.Report.Totals
import CallPolicy.Proofs.Report.HumanText
import CallPolicy.Proofs.Syntax.Subtrees
import CallPolicy.Proofs.CallGraph.Extents
import CallPolicy.Proofs.CallGraph.OutlinedCalls
import CallPolicy.Proofs.Number.Rounding
import CallPolicy.Proofs.Enforcement.Budgets
import CallPolicy.Proofs.Digest.Base62
import CallPolicy.Proofs.CallGraph.Keys
import CallPolicy.Proofs.Syntax.SourceOrder
import CallPolicy.Proofs.Syntax.TokenOrder
import CallPolicy.Proofs.Syntax.Callees
import CallPolicy.Proofs.CallGraph.CallEntries
import CallPolicy.Proofs.CallGraph.Bases
import CallPolicy.Proofs.Syntax.Flaws
import CallPolicy.Proofs.CallGraph.Attributes
import CallPolicy.Proofs.Digest.KeyOrder
