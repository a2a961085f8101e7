import FlowGraph.Settings

/-!
When a schedule fires: at an interval, or by a cron expression. The common
shapes of cron expressions are intervals.
-/

namespace FlowGraph

inductive Schedule where
  | every (unit : TimeUnit) (amount : Json)
  | cron (expression : String)
deriving Inhabited

namespace Schedule

/-- The step `N` of a field `*/N`: not zero, and it fits 64 bits. -/
def step? (field : List Char) : Option Nat :=
  match Text.dropPrefix? ['*', '/'] field with
  | none => none
  | some ds => (Decimal.natural? ds).filter fun n => 0 < n && n < 0x10000000000000000

/-- The interval that the five fields of an expression write, if it is one. -/
def interval? (fields : List (List Char)) : Option (TimeUnit × Nat) :=
  match fields with
  | [minute, hour, day, month, weekday] =>
    let any (field : List Char) : Bool := field = ['*']
    let always (field : List Char) : Bool := any field || field = ['*', '/', '1']
    let zero (field : List Char) : Bool := field = ['0']
    let daily := any day && any month && any weekday
    if fields.all always then some (.minutes, 1)
    else if zero minute && any hour && daily then some (.hours, 1)
    else if zero minute && zero hour && daily then some (.days, 1)
    else if any hour && daily then (step? minute).map fun n => (.minutes, n)
    else if zero minute && daily then (step? hour).map fun n => (.hours, n)
    else none
  | _ => none

def ofCron (expression : String) : Schedule :=
  match interval? (Text.words expression.toList) with
  | some (unit, n) => .every unit (.ofNat n)
  | none => .cron (Text.strip expression)

/-- The interval that settings give by its unit, else every hour. -/
def ofInterval (s : Settings) : Schedule :=
  match (s.text? "interval").bind TimeUnit.ofText? with
  | none => .every .hours (.ofNat 1)
  | some unit =>
    let amount := s.number? unit.name <|> s.number? (unit.name ++ "Interval") <|> s.number? "value"
    .every unit (amount.getD (.ofNat 1))

def ofSettings (s : Settings) : Schedule :=
  match s.firstText? ["cron", "expression"] with
  | some expression => .ofCron expression
  | none => .ofInterval s

def toFields : Schedule → Fields Json
  | .every unit amount => [("field", .str unit.name), (unit.name ++ "Interval", amount)]
  | .cron expression => [("field", .str "cronExpression"), ("expression", .str expression)]

end Schedule

end FlowGraph
