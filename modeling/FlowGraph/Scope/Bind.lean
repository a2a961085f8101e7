import FlowGraph.Json.Reader
import FlowGraph.Pattern.Reader
import FlowGraph.Scope

/-!
Binding the parameters and variables of a workflow, one declaration after the
other. A parameter takes the value given for it, else its default, else null;
every other value has the declared type and keeps the constraints. Declarations
before one that fails stay bound.
-/

namespace FlowGraph

namespace ParamType

/-- The value of this type that a text stands for. -/
def read? (type : ParamType) (text : String) : Option Json :=
  match type with
  | .string => some (.str text)
  | .number => Json.numberOfText? text
  | .boolean =>
    match Text.lowerAscii (Text.strip text) with
    | "true" => some (.bool true)
    | "false" => some (.bool false)
    | _ => none
  | .array | .object => (Json.ofString? text).filter type.accepts

/-- A given value as one of this type: a text that stands for a value of the
type is read, everything else stays as it is. -/
def coerce (type : ParamType) (v : Json) : Json :=
  match v with
  | .str text => (type.read? text).getD v
  | v => v

end ParamType

namespace Constraints

def belowMin? (c : Constraints) (v : Json) : Option Violation :=
  match v.float?, c.min with
  | some x, some min => if x < min then some (.belowMin x min) else none
  | _, _ => none

def aboveMax? (c : Constraints) (v : Json) : Option Violation :=
  match v.float?, c.max with
  | some x, some max => if max < x then some (.aboveMax x max) else none
  | _, _ => none

def noMatch? (c : Constraints) (v : Json) : Option Violation :=
  match c.pattern, v with
  | some pattern, .str text =>
    match Pattern.ofString? pattern with
    | none => some (.unreadablePattern pattern)
    | some p => if p.isMatch text then none else some (.noMatch text pattern)
  | _, _ => none

def notAllowed? (c : Constraints) (v : Json) : Option Violation :=
  match c.allowed with
  | some values => if values.any fun w => w.same v then none else some (.notAllowed v)
  | none => none

/-- The first constraint that a value breaks. -/
def violation? (c : Constraints) (v : Json) : Option Violation :=
  c.belowMin? v <|> c.aboveMax? v <|> c.noMatch? v <|> c.notAllowed? v

end Constraints

namespace Param

/-- What keeps a value from being this parameter's; null is always possible. -/
def violation? (p : Param) (v : Json) : Option Violation :=
  if v.isNull then none
  else if !p.type.accepts v then some (.wrongType p.type v)
  else p.constraints.violation? v

end Param

namespace Scope

/-- The value that a parameter takes before it is checked. -/
def paramValue (s : Scope) (h : Host) (given : Fields Json) (p : Param) : Except EvalError Json :=
  match given.get? p.name with
  | some v => .ok (p.type.coerce v)
  | none =>
    match p.default with
    | some e => s.eval h e
    | none => .ok .null

def bindParam (s : Scope) (h : Host) (given : Fields Json) (p : Param) : Except EvalError Scope :=
  match s.paramValue h given p with
  | .error e => .error e
  | .ok v =>
    match p.violation? v with
    | some violation => .error (.invalidParameter p.name violation)
    | none => .ok { s with params := s.params.set p.name ⟨p.type, v⟩ }

def bindVariable (s : Scope) (h : Host) (v : Variable) : Except EvalError Scope :=
  match s.eval h v.value with
  | .error e => .error e
  | .ok value => .ok { s with vars := s.vars.set v.name value }

/-- Takes one step for each element until a step fails: the last scope, and the
error if there is one. -/
def advance {α : Type} (step : Scope → α → Except EvalError Scope) (s : Scope) :
    List α → Scope × Option EvalError
  | [] => (s, none)
  | a :: rest =>
    match step s a with
    | .ok next => advance step next rest
    | .error e => (s, some e)

def bindParams (s : Scope) (h : Host) (given : Fields Json) (params : List Param) :
    Scope × Option EvalError :=
  advance (fun s p => s.bindParam h given p) s params

def bindVariables (s : Scope) (h : Host) (vars : List Variable) : Scope × Option EvalError :=
  advance (fun s v => s.bindVariable h v) s vars

end Scope

end FlowGraph
