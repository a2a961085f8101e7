/-!
Reading decimal numbers. Only the ten ASCII digits are digits here. Integers
are read with an optional sign and kept if they fit 64 bits with a sign; other
numbers are read as the nearest binary64 value, and the texts `inf`,
`infinity` and `nan` name the values that are not finite.
-/

namespace FlowGraph.Decimal

def isDigit (c : Char) : Bool :=
  '0' ≤ c && c ≤ '9'

def digitValue (c : Char) : Nat :=
  c.toNat - '0'.toNat

/-- The number that a list of digits writes, most significant digit first. -/
def value (ds : List Char) : Nat :=
  ds.foldl (fun n d => 10 * n + digitValue d) 0

def natural? (cs : List Char) : Option Nat :=
  if cs.isEmpty || !cs.all isDigit then none else some (value cs)

/-- A leading sign, `true` for minus, and what follows it. -/
def takeSign : List Char → Bool × List Char
  | '-' :: cs => (true, cs)
  | '+' :: cs => (false, cs)
  | cs => (false, cs)

def inInt64 (i : Int) : Bool :=
  -0x8000000000000000 ≤ i && i < 0x8000000000000000

/-- An optional sign and digits, if the number fits 64 bits with a sign. -/
def int64? (cs : List Char) : Option Int :=
  let (negative, ds) := takeSign cs
  match natural? ds with
  | none => none
  | some n =>
    let i : Int := if negative then -n else n
    if inInt64 i then some i else none

/-- The binary64 value nearest to `m * 10 ^ e`. Exponents beyond the range of
the format are settled by the number of digits, before any power is formed. -/
def nearest (m : Nat) (e : Int) : Float :=
  let magnitude : Int := Nat.log2 m * 301 / 1000 + e
  if m = 0 then 0.0
  else if magnitude > 320 then 1.0 / 0.0
  else if magnitude < -360 then 0.0
  else Float.ofScientific m (e < 0) e.natAbs

def negateIf (negative : Bool) (x : Float) : Float :=
  if negative then -x else x

/-- A decimal exponent: an optional sign and digits up to the end. -/
def exponent? (cs : List Char) : Option Int :=
  let (negative, ds) := takeSign cs
  (natural? ds).map fun n => if negative then -n else n

/-- Digits with an optional point and an optional exponent: at least one digit
stands before or after the point. -/
def unsigned? (cs : List Char) : Option Float :=
  let whole := cs.takeWhile isDigit
  let rest := cs.dropWhile isDigit
  let (fraction, rest) := match rest with
    | '.' :: r => (r.takeWhile isDigit, r.dropWhile isDigit)
    | r => ([], r)
  if whole.isEmpty && fraction.isEmpty then none
  else
    let m := value (whole ++ fraction)
    match rest with
    | [] => some (nearest m (-fraction.length))
    | c :: r =>
      if c = 'e' || c = 'E' then
        (exponent? r).map fun e => nearest m (e - fraction.length)
      else none

def float? (cs : List Char) : Option Float :=
  let (negative, body) := takeSign cs
  let name := String.ofList (body.map Char.toLower)
  if name = "inf" || name = "infinity" then some (negateIf negative (1.0 / 0.0))
  else if name = "nan" then some (0.0 / 0.0)
  else (unsigned? body).map (negateIf negative)

/-- The binary64 value of an integer of at most 64 bits. -/
def floatOfInt (i : Int) : Float :=
  negateIf (i < 0) i.natAbs.toUInt64.toFloat

end FlowGraph.Decimal
