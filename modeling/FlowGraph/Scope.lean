import FlowGraph.Host
import FlowGraph.Json.Printer
import FlowGraph.Template
import FlowGraph.Workflow

/-!
Scopes and the evaluation of expressions in them. A name stands for the variable
of that name, else for the parameter of that name, else for itself.
-/

namespace FlowGraph

/-- A parameter with its value, which is null if it has none. -/
structure Bound where
  type : ParamType
  value : Json
deriving Inhabited

structure Scope where
  vars : Fields Json := []
  params : Fields Bound := []
deriving Inhabited

/-- Why a value cannot be a parameter's value. -/
inductive Violation where
  | wrongType (expected : ParamType) (value : Json)
  | belowMin (x min : Float)
  | aboveMax (x max : Float)
  | unreadablePattern (pattern : String)
  | noMatch (text pattern : String)
  | notAllowed (value : Json)

/-- What is said about the inside of a pattern that cannot be read. The wording is this
library's own, and no result rests on it. -/
def Violation.patternFault : String := "the pattern cannot be read"

def Violation.message : Violation → String
  | .wrongType expected value => "expected " ++ expected.name ++ ", got " ++ value.kindName
  | .belowMin x min =>
    String.ofList (Decimal.plain x) ++ " is below the minimum " ++ String.ofList (Decimal.plain min)
  | .aboveMax x max =>
    String.ofList (Decimal.plain x) ++ " is above the maximum " ++ String.ofList (Decimal.plain max)
  | .unreadablePattern pattern => "invalid pattern '" ++ pattern ++ "': " ++ patternFault
  | .noMatch text pattern => "'" ++ text ++ "' does not match '" ++ pattern ++ "'"
  | .notAllowed value => value.compact ++ " is not one of the allowed values"

inductive EvalError where
  | unknownFunction (name : String)
  | fileLoad (path reason : String)
  | missingArgument (function : String)
  | invalidParameter (name : String) (violation : Violation)

def EvalError.message : EvalError → String
  | .unknownFunction name => "unknown function '" ++ name ++ "'"
  | .fileLoad path reason => "cannot load file '" ++ path ++ "': " ++ reason
  | .missingArgument function =>
    "invalid value for parameter '" ++ function ++ "': expected one argument"
  | .invalidParameter name violation =>
    "invalid value for parameter '" ++ name ++ "': " ++ violation.message

namespace Scope

/-- The value of a name as an expression. -/
def resolve (s : Scope) (name : String) : Json :=
  match s.vars.get? name with
  | some v => v
  | none =>
    match s.params.get? name with
    | some p => p.value
    | none => .str name

/-- The value of a span in a text, trimmed: that of a variable, else that of a
parameter if it has one, else the time or an environment variable. -/
def spanText? (s : Scope) (h : Host) (body : List Char) : Option String :=
  match s.vars.get? (String.ofList body) with
  | some v => some v.render
  | none =>
    match s.params.get? (String.ofList body) with
    | some p => if p.value.isNull then none else some p.value.render
    | none =>
      if (Text.dropPrefix? "now(".toList body).isSome then some h.now
      else (Template.envName? body).map fun name => h.envText (String.ofList name)

def expand (s : Scope) (h : Host) (text : String) : String :=
  String.ofList
    (Template.expand (fun body => (s.spanText? h (Text.trim body)).map String.toList) text.toList)

/-- The text of a file. -/
def load (h : Host) (path : String) : Except EvalError Json :=
  match h.files with
  | none => .error (.fileLoad path "no file loader configured")
  | some read =>
    match read path with
    | .ok text => .ok (.str text)
    | .error reason => .error (.fileLoad path reason)

mutual

def eval (s : Scope) (h : Host) : Expr → Except EvalError Json
  | .literal v => .ok v
  | .ident name => .ok (s.resolve name)
  | .call name args =>
    match name with
    | "now" => .ok (.str h.now)
    | "env" => do
      let key ← argument s h name args
      return .str (h.envText key)
    | "file" => do
      let path ← argument s h name args
      load h path
    | _ => .error (.unknownFunction name)
  | .template text => .ok (.str (s.expand h text))
  | .object entries => do
    let pairs ← evalEntries s h entries
    return .obj (Fields.ofPairs pairs)
  | .array items => do
    let vs ← evalItems s h items
    return .arr vs

/-- The text of the first argument; the others are not looked at. -/
def argument (s : Scope) (h : Host) (function : String) : List Expr → Except EvalError String
  | [] => .error (.missingArgument function)
  | e :: _ => do
    let v ← eval s h e
    return v.render

def evalItems (s : Scope) (h : Host) : List Expr → Except EvalError (List Json)
  | [] => .ok []
  | e :: items => do
    let v ← eval s h e
    let vs ← evalItems s h items
    return v :: vs

def evalEntries (s : Scope) (h : Host) :
    List (String × Expr) → Except EvalError (List (String × Json))
  | [] => .ok []
  | (name, e) :: entries => do
    let v ← eval s h e
    let pairs ← evalEntries s h entries
    return (name, v) :: pairs

end

end Scope

end FlowGraph
