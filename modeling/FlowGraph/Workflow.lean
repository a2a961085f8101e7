import FlowGraph.Expr
import FlowGraph.Token

/-!
Workflows as they are declared: parameters, variables, entries (nodes and
module references) and connections, each kind in the order of declaration, and
each declaration with the position of its leading keyword.
-/

namespace FlowGraph

inductive ParamType where
  | string | number | boolean | array | object
deriving DecidableEq, Repr, Inhabited

namespace ParamType

def ofName? (name : String) : Option ParamType :=
  match name with
  | "string" => some .string
  | "number" => some .number
  | "boolean" => some .boolean
  | "array" => some .array
  | "object" => some .object
  | _ => none

def name : ParamType → String
  | .string => "string"
  | .number => "number"
  | .boolean => "boolean"
  | .array => "array"
  | .object => "object"

def accepts : ParamType → Json → Bool
  | .string, .str _ => true
  | .number, .int _ => true
  | .number, .float _ => true
  | .boolean, .bool _ => true
  | .array, .arr _ => true
  | .object, .obj _ => true
  | _, _ => false

end ParamType

/-- What a parameter's value has to satisfy beyond its type. -/
structure Constraints where
  min : Option Float := none
  max : Option Float := none
  pattern : Option String := none
  allowed : Option (List Json) := none
deriving Inhabited

structure Param where
  name : String
  type : ParamType
  default : Option Expr
  required : Bool
  constraints : Constraints
  pos : Position
deriving Inhabited

structure Variable where
  name : String
  value : Expr
  pos : Position
deriving Inhabited

/-- A place on the canvas. -/
structure Point where
  x : Float
  y : Float
deriving DecidableEq, Inhabited

structure Node where
  name : String
  tag : String
  parameters : List (String × Expr)
  point : Option Point
  pos : Position
deriving Inhabited

structure ModuleRef where
  name : String
  path : String
  parameters : List (String × Expr)
  pos : Position
deriving Inhabited

inductive Entry where
  | node (node : Node)
  | module (ref : ModuleRef)
deriving Inhabited

namespace Entry

def name : Entry → String
  | .node n => n.name
  | .module m => m.name

def pos : Entry → Position
  | .node n => n.pos
  | .module m => m.pos

end Entry

structure Endpoint where
  node : String
  port : String
deriving DecidableEq, Inhabited

/-- The port of an endpoint that names none. -/
def Endpoint.defaultPort : String := "main"

structure Connection where
  source : Endpoint
  target : Endpoint
  pos : Position
deriving DecidableEq, Inhabited

structure Workflow where
  name : String
  params : List Param
  vars : List Variable
  entries : List Entry
  connections : List Connection
  pos : Position
deriving Inhabited

end FlowGraph
