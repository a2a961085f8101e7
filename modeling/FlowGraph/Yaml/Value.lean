import FlowGraph.Yaml.Node

/-!
What nodes mean: data values, numbers, truth values and fields. Plain scalars
are told by their look; a scalar in quotes or a block is a text.
-/

namespace FlowGraph.Yaml

def isNullText (cs : List Char) : Bool :=
  ["null", "Null", "NULL", "~"].contains (String.ofList cs)

def boolOfText? (cs : List Char) : Option Bool :=
  match String.ofList cs with
  | "true" | "True" | "TRUE" => some true
  | "false" | "False" | "FALSE" => some false
  | _ => none

def dropPlus : List Char → List Char
  | '+' :: cs => cs
  | cs => cs

def isSigned (cs : List Char) : Bool :=
  cs.head?.any fun c => c = '+' || c = '-'

/-- Several digits that start with a zero: a text, not a number. -/
def isZeroPadded (cs : List Char) : Bool :=
  let ds := if isSigned cs then cs.tail else cs
  1 < ds.length && ds.head? = some '0' && ds.all Decimal.isDigit

def digitIn? (base : Nat) (c : Char) : Option Nat :=
  (Json.hexValue? c).filter (· < base)

def naturalIn? (base : Nat) (cs : List Char) : Option Nat :=
  if cs.isEmpty then none
  else cs.foldlM (fun n c => (digitIn? base c).map (base * n + ·)) 0

/-- A magnitude, with the mark of its base if that is not ten. -/
def magnitude? (cs : List Char) : Option Nat :=
  let based := match cs with
    | '0' :: 'x' :: ds => naturalIn? 16 ds
    | '0' :: 'o' :: ds => naturalIn? 8 ds
    | '0' :: 'b' :: ds => naturalIn? 2 ds
    | _ => none
  based <|> naturalIn? 10 cs

/-- An integer of any size. -/
def integer? (cs : List Char) : Option Int :=
  if isZeroPadded cs then none
  else
    match cs with
    | '-' :: ds => (magnitude? ds).map fun n => -(n : Int)
    | cs => (magnitude? (dropPlus cs)).map fun n => (n : Int)

/-- The numbers that 64 bits hold, with or without a sign. -/
def fits (i : Int) : Bool :=
  -0x8000000000000000 ≤ i && i < 0x10000000000000000

/-- The integers that are read as integers at all. -/
def isWide (i : Int) : Bool :=
  -0x80000000000000000000000000000000 ≤ i && i < 0x100000000000000000000000000000000

def floatOfText? (cs : List Char) : Option Float :=
  let body := dropPlus cs
  if cs.head? = some '+' && isSigned body then none
  else if [".inf", ".Inf", ".INF"].contains (String.ofList body) then some (1.0 / 0.0)
  else if ["-.inf", "-.Inf", "-.INF"].contains (String.ofList cs) then some (-1.0 / 0.0)
  else if [".nan", ".NaN", ".NAN"].contains (String.ofList cs) then some (0.0 / 0.0)
  else (Decimal.float? body).filter Float.isFinite

/-- The integer that a text writes; an integer that 64 bits do not hold is no
value at all. -/
def intValue? (cs : List Char) : Option (Option Json) :=
  match (integer? cs).filter isWide with
  | none => none
  | some i => some (if fits i then some (.int i) else none)

/-- The value of a plain scalar. -/
def plainValue? (cs : List Char) : Option Json :=
  if cs.isEmpty || isNullText cs then some .null
  else
    match boolOfText? cs with
    | some b => some (.bool b)
    | none =>
      match intValue? cs with
      | some v => v
      | none =>
        match if isZeroPadded cs then none else floatOfText? cs with
        | some x => some (.ofFloat x)
        | none => some (.str (String.ofList cs))

/-- A tag of the standard kinds. -/
def standardTag (kind : String) : List Char :=
  "tag:yaml.org,2002:".toList ++ kind.toList

/-- Local tags choose between forms that data values do not have. -/
def isLocal (tag : Option (List Char)) : Bool :=
  tag.any fun t => t.head? = some '!'

def scalarValue? (tag : Option (List Char)) (style : Style) (cs : List Char) : Option Json :=
  match tag with
  | none => if style = .plain then plainValue? cs else some (.str (String.ofList cs))
  | some t =>
    if isLocal (some t) then none
    else if t = standardTag "bool" then (boolOfText? cs).map .bool
    else if t = standardTag "int" then (intValue? cs).join
    else if t = standardTag "float" then (floatOfText? cs).map .ofFloat
    else if t = standardTag "null" then if isNullText cs then some .null else none
    else some (.str (String.ofList cs))

/-- Reads what nodes mean. The document tells which nodes have numbers, and the
state is how often a number may still be followed. -/
abbrev Reading := ReaderT Document (StateT Nat Option)

/-- How often numbers may be followed in a document. -/
def Document.maxJumps (d : Document) : Nat :=
  100 * d.root.events

/-- Reads all of a document. -/
def Document.read? {α : Type} (d : Document) (form : Node → Reading α) : Option α :=
  ((form d.root).run d).run' d.maxJumps

namespace Node

/-- The node itself, or the one that has its number. -/
def follow : Node → Reading Node
  | .alias number => do
    let jumps ← get
    if jumps = 0 then failure
    set (jumps - 1)
    match (← read).target? number with
    | some n => return n
    | none => failure
  | n => return n

/-- A key: the text of a scalar, whatever its look. -/
def key (n : Node) : Reading String := do
  match ← n.follow with
  | .scalar _ _ text => return String.ofList text
  | _ => failure

mutual

/-- The data value of a node with at most `levels` collections in each other. -/
def value (levels : Nat) (n : Node) : Reading Json := do
  directValue levels (← n.follow)
termination_by (levels, 1, 0)

/-- The same for a node that is not given by its number. -/
def directValue (levels : Nat) (n : Node) : Reading Json :=
  match n, levels with
  | .scalar tag style text, _ => liftM (scalarValue? tag style text)
  | .sequence tag items, levels + 1 => do
    if isLocal tag then failure
    return .arr (← values levels items)
  | .mapping tag entries, levels + 1 => do
    if isLocal tag then failure
    return .obj (Fields.ofPairs (← entryValues levels entries))
  | _, _ => failure
termination_by (levels, 0, 0)

def values (levels : Nat) (items : List Node) : Reading (List Json) :=
  match items with
  | [] => return []
  | n :: items => do
    let v ← value levels n
    return v :: (← values levels items)
termination_by (levels, 2, items.length)

def entryValues (levels : Nat) (entries : List (Node × Node)) : Reading (List (String × Json)) :=
  match entries with
  | [] => return []
  | (key, n) :: entries => do
    let name ← key.key
    let v ← value levels n
    return (name, v) :: (← entryValues levels entries)
termination_by (levels, 2, entries.length)

end

/-- Does a scalar have a look that counts, for a value of this kind? -/
def hasLook (kind : String) (tag : Option (List Char)) (style : Style) : Bool :=
  style = .plain || (style = .literal && tag = some (standardTag kind))

def float (n : Node) : Reading Float := do
  match ← n.follow with
  | .scalar tag style text => if hasLook "float" tag style then liftM (floatOfText? text) else failure
  | _ => failure

def bool (n : Node) : Reading Bool := do
  match ← n.follow with
  | .scalar tag style text => if hasLook "bool" tag style then liftM (boolOfText? text) else failure
  | _ => failure

/-- The items of a sequence. -/
def items (n : Node) : Reading (List Node) := do
  match ← n.follow with
  | .sequence _ items => return items
  | _ => failure

/-- The fields of a mapping; where nothing is written there are none. -/
def fields (n : Node) : Reading (List (String × Node)) := do
  match ← n.follow with
  | .mapping _ entries => entries.mapM fun (key, n) => do return (← key.key, n)
  | .scalar _ .plain [] => return []
  | _ => failure

end Node

end FlowGraph.Yaml
