import FlowGraph.Main
import FlowGraph.Workflow.Form
import FlowGraph.Proofs.Compile
import FlowGraph.Proofs.Document.Agreement
import FlowGraph.Proofs.Grammar.Acceptance
import FlowGraph.Proofs.Grammar.FirstFault
import FlowGraph.Proofs.Document.Wiring
import FlowGraph.Proofs.Document.Content
import FlowGraph.Proofs.Expr.Printing
import FlowGraph.Proofs.Scope.Runs
import FlowGraph.Proofs.Token.Tiling
import FlowGraph.Proofs.Project.Targets
import FlowGraph.Proofs.Workflow.RoundTrip
import FlowGraph.Proofs.Text
import FlowGraph.Proofs.Template
import FlowGraph.Proofs.Scope.Given
import FlowGraph.Proofs.Scope.Expansion
import FlowGraph.Proofs.Scope.Reordering
import FlowGraph.Proofs.Condition.Spans
import FlowGraph.Proofs.Condition.Operators
import FlowGraph.Proofs.Condition.Nesting
import FlowGraph.Proofs.Condition.Vocabulary
import FlowGraph.Proofs.Target.Numbers
import FlowGraph.Proofs.Document.WellFormed
import FlowGraph.Proofs.Token.LineBreak
import FlowGraph.Proofs.Workflow.Report
import FlowGraph.Proofs.Json.Printed
import FlowGraph.Proofs.Scope.Rendered
import FlowGraph.Proofs.Expr.Constant
import FlowGraph.Proofs.Template.Bare
import FlowGraph.Proofs.Disk.Join
import FlowGraph.Proofs.Project.Skeleton
import FlowGraph.Proofs.Grammar.Down
import FlowGraph.Proofs.Document.SelfContained
import FlowGraph.Proofs.Token.Verbatim
import FlowGraph.Proofs.Project.Example
import FlowGraph.Proofs.Condition.Extents
import FlowGraph.Proofs.Document.Connecting
import FlowGraph.Proofs.Schedule
import FlowGraph.Proofs.Scope.EnvReads
