import FlowGraph.Condition.Settings
import FlowGraph.Schedule
import FlowGraph.Target
import FlowGraph.Target.Request

/-!
What each kind of node makes of its settings. Nothing fails here: what is missing
takes a default, and what a kind does not know is dropped.
-/

namespace FlowGraph.Target

def branchParameters (ids : Nat → Uuid) (s : Settings) : Fields Json :=
  let found := Conditions.ofSettings s
  [("conditions", .obj [
      ("options", .obj [
        ("caseSensitive", .bool ((s.flag? "caseSensitive").getD true)),
        ("leftValue", .str ""),
        ("typeValidation", .str "strict")]),
      ("conditions", .arr (found.list.mapIdx fun i c => c.toJson (ids i))),
      ("combinator", .str found.combinator.name)]),
    ("options", .obj [])]

def scheduleParameters (s : Settings) : Fields Json :=
  let times := ["triggerAtHour", "triggerAtMinute", "triggerAtDay"].filterMap fun name =>
    (s.number? name).map fun n => (name, n)
  [("rule", .obj [("interval", .arr [.obj ((Schedule.ofSettings s).toFields ++ times)])])]

def codeParameters (s : Settings) : Fields Json :=
  let python := (s.text? "language").any (fun l => Text.lowerAscii l = "python") ||
    (s.has "pythonCode" && !s.has "jsCode")
  let each := (s.text? "mode").any fun mode =>
    ["each", "runonceforeachitem"].contains (Text.lowerAscii mode)
  let (language, key) := if python then ("python", "pythonCode") else ("javaScript", "jsCode")
  [("mode", .str (if each then "runOnceForEachItem" else "runOnceForAllItems")),
    ("language", .str language),
    (key, .str ((s.firstText? [key, "code"]).getD ""))]

/-- How assigned values are typed; null counts as a text. -/
def valueType (v : Json) : String :=
  if v.isNull then "string" else v.kindName

def assignment (id : Uuid) (name : String) (v : Json) : Json :=
  .obj [("id", id.toJson), ("name", .str name), ("value", v), ("type", .str (valueType v))]

/-- The fields to assign: one object that holds them, or else all settings that
are no switches. -/
def assigned (s : Settings) : Fields Json :=
  match ["fields", "values", "assignments"].findSome? fun name => (s.get? name).bind Json.obj? with
  | some fields => fields
  | none => s.filter fun (name, _) => name ≠ "includeOtherFields" && name ≠ "keepOnlySet"

def setParameters (ids : Nat → Uuid) (s : Settings) : Fields Json :=
  let others := match s.get? "includeOtherFields", s.get? "keepOnlySet" with
    | some (.bool others), _ => others
    | none, some (.bool keepOnly) => !keepOnly
    | _, _ => false
  [("mode", .str "manual"),
    ("assignments", .obj [("assignments",
      .arr ((assigned s).mapIdx fun i (name, v) => assignment (ids i) name v))]),
    ("includeOtherFields", .bool others),
    ("options", .obj [])]

def webhookParameters (s : Settings) : Fields Json :=
  let path := match (s.text? "path").map String.toList with
    | some ('/' :: rest) => rest
    | some path => path
    | none => []
  [("path", .str (if path.isEmpty then "webhook" else String.ofList path)),
    ("httpMethod", .str (Text.upperAscii ((s.firstText? ["httpMethod", "method"]).getD "GET"))),
    ("responseMode", .str ((s.text? "responseMode").getD "onReceived")),
    ("options", .obj [])]

def mergeParameters (s : Settings) : Fields Json :=
  [("mode", .str ((s.text? "mode").getD "append")),
    ("options", .obj (((s.get? "options").bind Json.obj?).getD []))]

/-- Waiting is counted in units of up to a day. -/
def waitUnit (s : Settings) : TimeUnit :=
  match (s.text? "unit").bind TimeUnit.ofText? with
  | none | some .weeks | some .months => .seconds
  | some unit => unit

def waitParameters (s : Settings) : Fields Json :=
  [("resume", .str "timeInterval"),
    ("amount", (s.number? "amount").getD (.ofNat 1)),
    ("unit", .str (waitUnit s).name)]

/-- The parameters of a node of this kind; `ids` are for their parts. -/
def parameters (t : Target) (ids : Nat → Uuid) (s : Settings) : Fields Json :=
  match t with
  | .httpRequest => Request.parameters s
  | .branch => branchParameters ids s
  | .scheduleTrigger => scheduleParameters s
  | .code => codeParameters s
  | .set => setParameters ids s
  | .webhook => webhookParameters s
  | .merge => mergeParameters s
  | .wait => waitParameters s
  | .manualTrigger | .noOp => []

/-- The parameters of a node of a type that need not be known; a node of an
unknown type keeps its settings. -/
def parametersOf (typeName : String) (ids : Nat → Uuid) (s : Settings) : Fields Json :=
  match ofTypeName? typeName with
  | some t => t.parameters ids s
  | none => s

end FlowGraph.Target
