import FlowGraph.Document.Form
import FlowGraph.Document.Generate
import FlowGraph.Document.Report
import FlowGraph.Workflow.Check
import FlowGraph.Workflow.Source

/-!
From source text to a document with diagnostics. Checking stops before the
document is made; compiling makes it, and looks it over if asked to.
-/

namespace FlowGraph

structure CompileOptions where
  generate : GenerateOptions := {}
  /-- Warnings count as failures. -/
  strict : Bool := false
  /-- Whether the document is looked over. -/
  validateOutput : Bool := true
deriving Inhabited

structure Outcome where
  success : Bool
  document : Option Document
  errors : List Diagnostic
  warnings : List Diagnostic

namespace Outcome

def ofParts (strict : Bool) (document : Option Document) (errors warnings : List Diagnostic) :
    Outcome where
  success := errors.isEmpty && !(strict && !warnings.isEmpty)
  document
  errors
  warnings

def diagnostics (o : Outcome) : List Diagnostic :=
  o.errors ++ o.warnings

end Outcome

def errorsOf (ds : List Diagnostic) : List Diagnostic :=
  ds.filter Diagnostic.isError

def warningsOf (ds : List Diagnostic) : List Diagnostic :=
  ds.filter fun d => !d.isError

def SourceError.toDiagnostic (e : SourceError) : Diagnostic where
  message := e.message
  pos := some e.pos
  rule := match e with
    | .lex _ => .lex
    | .parse _ => .parse

def LexWarning.toDiagnostic (w : LexWarning) : Diagnostic where
  message := w.message
  pos := some w.pos
  severity := .warning
  rule := .lex

/-- What is known of a source before a document is made: the workflow, unless
there are errors, and the diagnostics so far. -/
structure Front where
  workflow : Option Workflow
  errors : List Diagnostic
  warnings : List Diagnostic

def Front.ofSource (source : String) : Front :=
  match scan source with
  | .error e => ⟨none, [(SourceError.lex e).toDiagnostic], []⟩
  | .ok found =>
    let lexWarnings := found.warnings.map LexWarning.toDiagnostic
    match Workflow.ofTokens found.tokens with
    | .error e => ⟨none, [(SourceError.parse e).toDiagnostic], lexWarnings⟩
    | .ok w =>
      let errors := errorsOf w.report
      ⟨if errors.isEmpty then some w else none, errors, lexWarnings ++ warningsOf w.report⟩

def check (o : CompileOptions) (source : String) : Outcome :=
  let front := Front.ofSource source
  .ofParts o.strict none front.errors front.warnings

def compile (h : Host) (ids : IdSource) (o : CompileOptions) (source : String) : Outcome :=
  let front := Front.ofSource source
  match front.workflow with
  | none => .ofParts o.strict none front.errors front.warnings
  | some w =>
    match Document.ofWorkflow h ids o.generate w with
    | .error e => .ofParts o.strict none [e.toDiagnostic] front.warnings
    | .ok d =>
      let found := if o.validateOutput then Document.report d.toJson else []
      .ofParts o.strict (some d) (errorsOf found) (front.warnings ++ warningsOf found)

end FlowGraph
