import FlowGraph.Json

/-!
The kinds of nodes that documents are made of, and the tags that name them in
sources.
-/

namespace FlowGraph

inductive Target where
  | manualTrigger | scheduleTrigger | webhook | httpRequest | branch | code | set | merge | wait
  | noOp
deriving DecidableEq, Repr, Inhabited

namespace Target

/-- The name of a kind within its family. -/
def shortName : Target → String
  | .manualTrigger => "manualTrigger"
  | .scheduleTrigger => "scheduleTrigger"
  | .webhook => "webhook"
  | .httpRequest => "httpRequest"
  | .branch => "if"
  | .code => "code"
  | .set => "set"
  | .merge => "merge"
  | .wait => "wait"
  | .noOp => "noOp"

def typeName (t : Target) : String :=
  "n8n-nodes-base." ++ t.shortName

/-- The version of the parameters that a kind of node takes. -/
def version : Target → Float
  | .manualTrigger => 1.0
  | .scheduleTrigger => 1.1
  | .webhook => 1.1
  | .httpRequest => 4.1
  | .branch => 2.0
  | .code => 2.0
  | .set => 3.3
  | .merge => 2.1
  | .wait => 1.1
  | .noOp => 1.0

/-- Every tag with its kind of node, sorted by tag. -/
def table : Fields Target := [
  ("code", .code),
  ("condition", .branch),
  ("cron", .scheduleTrigger),
  ("delay", .wait),
  ("function", .code),
  ("http", .httpRequest),
  ("http.request", .httpRequest),
  ("if", .branch),
  ("logic.if", .branch),
  ("logic.merge", .merge),
  ("manual.trigger", .manualTrigger),
  ("merge", .merge),
  ("no.op", .noOp),
  ("noop", .noOp),
  ("schedule.trigger", .scheduleTrigger),
  ("set", .set),
  ("transform.code", .code),
  ("transform.set", .set),
  ("trigger.manual", .manualTrigger),
  ("trigger.schedule", .scheduleTrigger),
  ("trigger.webhook", .webhook),
  ("wait", .wait),
  ("webhook", .webhook)]

def ofTag? (tag : String) : Option Target :=
  table.get? tag

def tags : List String :=
  table.map Prod.fst

def ofTypeName? (name : String) : Option Target :=
  (table.map Prod.snd).find? fun t => t.typeName = name

end Target

end FlowGraph
