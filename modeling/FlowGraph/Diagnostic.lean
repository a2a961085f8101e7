import FlowGraph.Token

/-!
Diagnostics: messages of the checks, with the rule that each comes from and the
position it speaks of, if there is one.
-/

namespace FlowGraph

inductive Severity where
  | error
  | warning
deriving DecidableEq, Repr

def Severity.name : Severity → String
  | .error => "error"
  | .warning => "warning"

/-- Where a diagnostic comes from: a rule on declared workflows, a rule on
documents, or a stage that failed. -/
inductive Rule where
  | duplicateParameter
  | duplicateVariable
  | variableShadowsParameter
  | duplicateNode
  | danglingConnection
  | unconnectedNode
  | graphNodes
  | graphNodeShape
  | graphDuplicateNode
  | graphConnections
  | lex
  | parse
  | generate
deriving DecidableEq, Repr

def Rule.id : Rule → String
  | .duplicateParameter => "duplicate-parameter"
  | .duplicateVariable => "duplicate-variable"
  | .variableShadowsParameter => "variable-shadows-parameter"
  | .duplicateNode => "duplicate-node"
  | .danglingConnection => "dangling-connection"
  | .unconnectedNode => "unconnected-node"
  | .graphNodes => "graph-nodes"
  | .graphNodeShape => "graph-node-shape"
  | .graphDuplicateNode => "graph-duplicate-node"
  | .graphConnections => "graph-connections"
  | .lex => "lex"
  | .parse => "parse"
  | .generate => "generate"

structure Diagnostic where
  message : String
  pos : Option Position := none
  severity : Severity := .error
  rule : Rule
deriving DecidableEq, Repr

namespace Diagnostic

def isError (d : Diagnostic) : Bool :=
  d.severity = .error

def display (d : Diagnostic) : String :=
  let place := match d.pos with
    | some p => " at line " ++ toString p.line ++ ", col " ++ toString p.column
    | none => ""
  d.severity.name ++ place ++ ": " ++ d.message ++ " [" ++ d.rule.id ++ "]"

end Diagnostic

/-- The elements whose name an earlier element has. -/
def repeated {α : Type} (name : α → String) (elements : List α) : List α :=
  go [] elements
where
  go (seen : List String) : List α → List α
    | [] => []
    | a :: rest =>
      if seen.contains (name a) then a :: go seen rest else go (name a :: seen) rest

end FlowGraph
