import FlowGraph.Json

/-!
Expressions of workflow sources, not yet evaluated. An expression that is made
of literals only folds into a data value.
-/

namespace FlowGraph

inductive Expr where
  | literal (v : Json)
  | ident (name : String)
  | call (name : String) (args : List Expr)
  /-- A text with `${…}` spans in it. -/
  | template (text : String)
  | object (entries : List (String × Expr))
  | array (items : List Expr)
deriving Inhabited

namespace Expr

mutual

/-- The value of an expression that is made of literals only. -/
def fold? : Expr → Option Json
  | .literal v => some v
  | .array items => (foldItems? items).map .arr
  | .object entries => (foldEntries? entries).map fun pairs => .obj (Fields.ofPairs pairs)
  | _ => none

def foldItems? : List Expr → Option (List Json)
  | [] => some []
  | e :: items =>
    match fold? e, foldItems? items with
    | some v, some vs => some (v :: vs)
    | _, _ => none

def foldEntries? : List (String × Expr) → Option (List (String × Json))
  | [] => some []
  | (name, e) :: entries =>
    match fold? e, foldEntries? entries with
    | some v, some vs => some ((name, v) :: vs)
    | _, _ => none

end

end Expr

end FlowGraph
