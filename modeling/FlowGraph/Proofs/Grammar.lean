import FlowGraph.Proofs.Expr.Constant
import FlowGraph.Workflow.Parser

/-!
The grammar of workflow sources, as relations between lists of tokens and what
they declare. A production is the concatenation of its parts: nothing is said
about the order in which they are read, nor about what follows them.

Separators are optional everywhere. Where a declaration asks for a value, the
expression has to be a constant, and of several values for one thing the last one
counts.
-/

namespace FlowGraph.Grammar

/-- A separator of the kind, or nothing. -/
inductive Optional (kind : TokenKind) : List Token → Prop
  | absent : Optional kind []
  | present (t : Token) (ht : t.kind = kind) : Optional kind [t]

/-- The value of a number: an integer of 64 bits unless there is a point in the
text, else a finite binary64 number. -/
inductive NumberText (text : String) : Json → Prop
  | integer (i : Int) (hpoint : '.' ∉ text.toList)
      (hi : Decimal.int64? text.toList = some i) : NumberText text (.int i)
  | decimal (x : Float) (hint : '.' ∈ text.toList ∨ Decimal.int64? text.toList = none)
      (hx : Decimal.float? text.toList = some x) (hfinite : x.isFinite = true) :
      NumberText text (.float x)

def HasSpan (text : String) : Prop :=
  ['$', '{'] <:+: text.toList

def Opens (t : Token) : Prop :=
  t.kind = .lbrace ∨ t.kind = .templateStart

/-- Tokens whose braces are balanced. -/
inductive Balanced : List Token → Prop
  | nil : Balanced []
  | plain (t : Token) (rest : List Token) (ho : ¬ Opens t) (hc : t.kind ≠ .rbrace)
      (hr : Balanced rest) : Balanced (t :: rest)
  | nested (opening closing : Token) (inner rest : List Token) (ho : Opens opening)
      (hi : Balanced inner) (hc : closing.kind = .rbrace) (hr : Balanced rest) :
      Balanced (opening :: inner ++ closing :: rest)

/-- The text of tokens inside a template that stands without quotes. -/
def joined (inner : List Token) : String :=
  (inner.map Parser.templatePiece).foldr (· ++ ·) ""

@[simp] theorem joined_nil : joined [] = "" := rfl

@[simp] theorem joined_cons (t : Token) (inner : List Token) :
    joined (t :: inner) = Parser.templatePiece t ++ joined inner := rfl

@[simp] theorem joined_append (left right : List Token) :
    joined (left ++ right) = joined left ++ joined right := by
  induction left with
  | nil => simp
  | cons t left ih => simp [ih, String.append_assoc]

mutual

inductive Expression : List Token → Expr → Prop
  | text (t : Token) (ht : t.kind = .string) (hs : ¬ HasSpan t.text) :
      Expression [t] (.literal (.str t.text))
  | quoted (t : Token) (ht : t.kind = .string) (hs : HasSpan t.text) :
      Expression [t] (.template t.text)
  | number (t : Token) (v : Json) (ht : t.kind = .number) (hv : NumberText t.text v) :
      Expression [t] (.literal v)
  | boolean (t : Token) (ht : t.kind = .boolean) :
      Expression [t] (.literal (.bool (t.text = "true")))
  | null (t : Token) (ht : t.kind = .null) : Expression [t] (.literal .null)
  | ident (t : Token) (ht : t.kind = .identifier) : Expression [t] (.ident t.text)
  | call (name opening closing : Token) (inner : List Token) (args : List Expr)
      (hn : name.kind = .identifier) (ho : opening.kind = .lparen) (hi : Items inner args)
      (hc : closing.kind = .rparen) :
      Expression (name :: opening :: inner ++ [closing]) (.call name.text args)
  | object (opening closing : Token) (inner : List Token) (members : List (String × Expr))
      (ho : opening.kind = .lbrace) (hi : Members inner members) (hc : closing.kind = .rbrace) :
      Expression (opening :: inner ++ [closing]) (.object members)
  | array (opening closing : Token) (inner : List Token) (items : List Expr)
      (ho : opening.kind = .lbracket) (hi : Items inner items) (hc : closing.kind = .rbracket) :
      Expression (opening :: inner ++ [closing]) (.array items)
  | bare (opening closing : Token) (inner : List Token) (ho : opening.kind = .templateStart)
      (hi : Balanced inner) (hc : closing.kind = .rbrace) :
      Expression (opening :: inner ++ [closing]) (.template ("$\x7b" ++ joined inner ++ "\x7d"))

inductive Items : List Token → List Expr → Prop
  | nil : Items [] []
  | cons (item separator rest : List Token) (e : Expr) (es : List Expr) (he : Expression item e)
      (hs : Optional .comma separator) (hr : Items rest es) :
      Items (item ++ separator ++ rest) (e :: es)

inductive Members : List Token → List (String × Expr) → Prop
  | nil : Members [] []
  | cons (key colon : Token) (value separator rest : List Token) (e : Expr)
      (members : List (String × Expr)) (hk : key.kind = .identifier ∨ key.kind = .string)
      (hc : colon.kind = .colon) (he : Expression value e) (hs : Optional .comma separator)
      (hr : Members rest members) :
      Members (key :: colon :: value ++ separator ++ rest) ((key.text, e) :: members)

end

/-- The entries of a block: names with values, and a comma after each or not. -/
inductive Entries : List Token → List (String × Expr) → Prop
  | nil : Entries [] []
  | cons (key colon : Token) (value separator rest : List Token) (e : Expr)
      (entries : List (String × Expr)) (hk : key.kind = .identifier) (hc : colon.kind = .colon)
      (he : Expression value e) (hs : Optional .comma separator) (hr : Entries rest entries) :
      Entries (key :: colon :: value ++ separator ++ rest) ((key.text, e) :: entries)

inductive Block : List Token → List (String × Expr) → Prop
  | mk (opening closing : Token) (inner : List Token) (entries : List (String × Expr))
      (ho : opening.kind = .lbrace) (hi : Entries inner entries) (hc : closing.kind = .rbrace) :
      Block (opening :: inner ++ [closing]) entries

def FoldsToNumber (e : Expr) (x : Float) : Prop :=
  ∃ v, e.Denotes v ∧ v.float? = some x

inductive Restriction where
  | min (x : Float)
  | max (x : Float)
  | pattern (text : String)
  | allowed (values : List Json)

namespace Restriction

def min? : Restriction → Option Float
  | .min x => some x
  | _ => none

def max? : Restriction → Option Float
  | .max x => some x
  | _ => none

def pattern? : Restriction → Option String
  | .pattern text => some text
  | _ => none

def allowed? : Restriction → Option (List Json)
  | .allowed values => some values
  | _ => none

/-- The restriction that an entry stands for. -/
inductive Of : String × Expr → Restriction → Prop
  | min (e : Expr) (x : Float) (hx : FoldsToNumber e x) : Of ("min", e) (.min x)
  | max (e : Expr) (x : Float) (hx : FoldsToNumber e x) : Of ("max", e) (.max x)
  | pattern (e : Expr) (text : String) (hs : e.Denotes (.str text)) :
      Of ("pattern", e) (.pattern text)
  | allowed (e : Expr) (values : List Json) (hv : e.Denotes (.arr values)) :
      Of ("allowed", e) (.allowed values)

/-- Of several restrictions of one kind the last one counts. -/
def combined (rs : List Restriction) : Constraints where
  min := (rs.filterMap min?).getLast?
  max := (rs.filterMap max?).getLast?
  pattern := (rs.filterMap pattern?).getLast?
  allowed := (rs.filterMap allowed?).getLast?

end Restriction

inductive Default : List Token → Option Expr → Prop
  | absent : Default [] none
  | present (equals : Token) (value : List Token) (e : Expr) (hk : equals.kind = .equals)
      (he : Expression value e) : Default (equals :: value) (some e)

inductive ConstraintBlock : List Token → Constraints → Prop
  | absent : ConstraintBlock [] {}
  | present (ts : List Token) (entries : List (String × Expr)) (rs : List Restriction)
      (hb : Block ts entries) (hr : List.Forall₂ Restriction.Of entries rs) :
      ConstraintBlock ts (Restriction.combined rs)

inductive ParamDeclaration : List Token → Param → Prop
  | mk (keyword name typeName : Token) (value block : List Token) (type : ParamType)
      (default : Option Expr) (constraints : Constraints) (hk : keyword.kind = .param)
      (hn : name.kind = .identifier) (ht : typeName.kind = .identifier)
      (htype : type.name = typeName.text) (hd : Default value default)
      (hc : ConstraintBlock block constraints) :
      ParamDeclaration (keyword :: name :: typeName :: value ++ block)
        { name := name.text, type, default, required := default.isNone, constraints,
          pos := keyword.pos }

inductive VarDeclaration : List Token → Variable → Prop
  | mk (keyword name equals : Token) (value : List Token) (e : Expr) (hk : keyword.kind = .var)
      (hn : name.kind = .identifier) (hq : equals.kind = .equals) (he : Expression value e) :
      VarDeclaration (keyword :: name :: equals :: value)
        { name := name.text, value := e, pos := keyword.pos }

def FoldsToPoint (e : Expr) (p : Point) : Prop :=
  ∃ a b, e.Denotes (.arr [a, b]) ∧ a.float? = some p.x ∧ b.float? = some p.y

/-- The place among the entries of a node: every entry named `position` has to be
a point, and the last of them counts. -/
def Placed (entries : List (String × Expr)) (point : Option Point) : Prop :=
  ∃ points, List.Forall₂ (fun entry p => FoldsToPoint entry.2 p)
    (entries.filter fun entry => entry.1 = "position") points ∧ point = points.getLast?

inductive NodeDeclaration : List Token → Node → Prop
  | mk (keyword name tag : Token) (block : List Token) (entries : List (String × Expr))
      (point : Option Point) (hk : keyword.kind = .node) (hn : name.kind = .identifier)
      (ht : tag.kind = .string) (hb : Block block entries) (hp : Placed entries point) :
      NodeDeclaration (keyword :: name :: tag :: block)
        { name := name.text, tag := tag.text,
          parameters := entries.filter fun entry => entry.1 ≠ "position", point,
          pos := keyword.pos }

inductive ModuleDeclaration : List Token → ModuleRef → Prop
  | mk (keyword name equals path : Token) (block : List Token) (entries : List (String × Expr))
      (hk : keyword.kind = .module) (hn : name.kind = .identifier) (hq : equals.kind = .equals)
      (hp : path.kind = .string) (hb : Block block entries) :
      ModuleDeclaration (keyword :: name :: equals :: path :: block)
        { name := name.text, path := path.text, parameters := entries, pos := keyword.pos }

inductive EndpointName : List Token → Endpoint → Prop
  | plain (node : Token) (hn : node.kind = .identifier) : EndpointName [node] ⟨node.text, "main"⟩
  | port (node dot port : Token) (hn : node.kind = .identifier) (hd : dot.kind = .dot)
      (hp : port.kind = .identifier ∨ port.kind = .boolean) :
      EndpointName [node, dot, port] ⟨node.text, port.text⟩

inductive ConnectDeclaration : List Token → Connection → Prop
  | mk (keyword arrow : Token) (left right : List Token) (source target : Endpoint)
      (hk : keyword.kind = .connect) (hs : EndpointName left source) (ha : arrow.kind = .arrow)
      (ht : EndpointName right target) :
      ConnectDeclaration (keyword :: left ++ arrow :: right) { source, target, pos := keyword.pos }

/-- Declarations with a semicolon after each or not, by kind. -/
inductive Declarations :
    List Token → List Param → List Variable → List Entry → List Connection → Prop
  | nil : Declarations [] [] [] [] []
  | param (ts separator rest : List Token) (p : Param) (ps : List Param) (vs : List Variable)
      (es : List Entry) (cs : List Connection) (hd : ParamDeclaration ts p)
      (hs : Optional .semicolon separator) (hr : Declarations rest ps vs es cs) :
      Declarations (ts ++ separator ++ rest) (p :: ps) vs es cs
  | var (ts separator rest : List Token) (v : Variable) (ps : List Param) (vs : List Variable)
      (es : List Entry) (cs : List Connection) (hd : VarDeclaration ts v)
      (hs : Optional .semicolon separator) (hr : Declarations rest ps vs es cs) :
      Declarations (ts ++ separator ++ rest) ps (v :: vs) es cs
  | node (ts separator rest : List Token) (n : Node) (ps : List Param) (vs : List Variable)
      (es : List Entry) (cs : List Connection) (hd : NodeDeclaration ts n)
      (hs : Optional .semicolon separator) (hr : Declarations rest ps vs es cs) :
      Declarations (ts ++ separator ++ rest) ps vs (.node n :: es) cs
  | module (ts separator rest : List Token) (m : ModuleRef) (ps : List Param)
      (vs : List Variable) (es : List Entry) (cs : List Connection) (hd : ModuleDeclaration ts m)
      (hs : Optional .semicolon separator) (hr : Declarations rest ps vs es cs) :
      Declarations (ts ++ separator ++ rest) ps vs (.module m :: es) cs
  | connection (ts separator rest : List Token) (c : Connection) (ps : List Param)
      (vs : List Variable) (es : List Entry) (cs : List Connection) (hd : ConnectDeclaration ts c)
      (hs : Optional .semicolon separator) (hr : Declarations rest ps vs es cs) :
      Declarations (ts ++ separator ++ rest) ps vs es (c :: cs)

/-- A workflow and nothing after it. -/
inductive Derives : List Token → Workflow → Prop
  | mk (keyword name opening closing : Token) (inner : List Token) (ps : List Param)
      (vs : List Variable) (es : List Entry) (cs : List Connection)
      (hk : keyword.kind = .workflow) (hn : name.kind = .string) (ho : opening.kind = .lbrace)
      (hd : Declarations inner ps vs es cs) (hc : closing.kind = .rbrace) :
      Derives (keyword :: name :: opening :: inner ++ [closing])
        { name := name.text, params := ps, vars := vs, entries := es, connections := cs,
          pos := keyword.pos }

end FlowGraph.Grammar
