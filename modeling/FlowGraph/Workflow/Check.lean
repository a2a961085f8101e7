import FlowGraph.Diagnostic
import FlowGraph.Workflow

/-!
Rules that a declared workflow is held to. Every rule reports on its own; the
report is that of all rules, one after the other. Names are unique within their
kind, a variable is not named like a parameter, connections join declared
entries, and an entry outside all connections draws a warning.
-/

namespace FlowGraph.Workflow

def duplicate (rule : Rule) (kind name : String) (pos : Position) : Diagnostic where
  message := "duplicate " ++ kind ++ " name '" ++ name ++ "'"
  pos := some pos
  rule := rule

def duplicateParameters (w : Workflow) : List Diagnostic :=
  (repeated Param.name w.params).map fun p =>
    duplicate .duplicateParameter "parameter" p.name p.pos

def duplicateVariables (w : Workflow) : List Diagnostic :=
  (repeated Variable.name w.vars).map fun v =>
    duplicate .duplicateVariable "variable" v.name v.pos

def shadowedParameters (w : Workflow) : List Diagnostic :=
  let names := w.params.map Param.name
  (w.vars.filter fun v => names.contains v.name).map fun v =>
    { message := "variable '" ++ v.name ++ "' conflicts with a parameter of the same name"
      pos := some v.pos
      rule := .variableShadowsParameter }

def duplicateEntries (w : Workflow) : List Diagnostic :=
  (repeated Entry.name w.entries).map fun e => duplicate .duplicateNode "node" e.name e.pos

/-- The two ends of a connection with their roles, source first. -/
def Connection.ends (c : Connection) : List (String × Endpoint) :=
  [("source", c.source), ("target", c.target)]

def danglingConnections (w : Workflow) : List Diagnostic :=
  let names := w.entries.map Entry.name
  w.connections.flatMap fun c =>
    ((Connection.ends c).filter fun (_, e) => !names.contains e.node).map fun (role, e) =>
      { message := "connection " ++ role ++ " node '" ++ e.node ++ "' is not declared"
        pos := some c.pos
        rule := .danglingConnection }

def unconnectedEntries (w : Workflow) : List Diagnostic :=
  let connected := w.connections.flatMap fun c => [c.source.node, c.target.node]
  (w.entries.filter fun e => !connected.contains e.name).map fun e =>
    { message := "node '" ++ e.name ++ "' is not connected"
      pos := some e.pos
      severity := .warning
      rule := .unconnectedNode }

/-- The rules in the order in which they report, with what each asks for. -/
def rules : List (Rule × String × (Workflow → List Diagnostic)) :=
  [(.duplicateParameter, "Parameter names must be unique", duplicateParameters),
   (.duplicateVariable, "Variable names must be unique", duplicateVariables),
   (.variableShadowsParameter, "Variable names must not collide with parameter names",
     shadowedParameters),
   (.duplicateNode, "Node and module names must be unique", duplicateEntries),
   (.danglingConnection, "Connections must reference declared nodes", danglingConnections),
   (.unconnectedNode, "Nodes should appear in at least one connection", unconnectedEntries)]

def report (w : Workflow) : List Diagnostic :=
  rules.flatMap fun (_, _, check) => check w

end FlowGraph.Workflow
