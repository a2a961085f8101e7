import FlowGraph.Decimal.Shortest

/-!
How a binary64 value is written out. Data texts (`json`) keep a mark that the
number is not an integer and turn to an exponent outside a fixed range; the
positional form (`plain`) never does, and writes whole numbers like integers.
-/

namespace FlowGraph.Decimal

def isNegative (x : Float) : Bool :=
  x.toBits.toNat >>> 63 = 1

/-- Digits before the point and digits after it, the latter possibly none. -/
def Scientific.positional (s : Scientific) : List Char × List Char :=
  if s.exponent < 0 then
    (['0'], List.replicate (-s.exponent - 1).toNat '0' ++ s.digits)
  else
    let whole := s.exponent.toNat + 1
    (s.digits.take whole ++ List.replicate (whole - s.digits.length) '0', s.digits.drop whole)

/-- One digit, a point if more follow, and a signed exponent. -/
def Scientific.exponential (s : Scientific) : List Char :=
  let mantissa := match s.digits with
    | [] => ['0']
    | [d] => [d]
    | d :: ds => d :: '.' :: ds
  let sign := if s.exponent < 0 then '-' else '+'
  mantissa ++ 'e' :: sign :: Decimal.digits s.exponent.natAbs

/-- Positional from `10 ^ -5` up to below `10 ^ 16`, always with a point or an
exponent. The value is finite. -/
def jsonMagnitude (x : Float) : List Char :=
  if x == 0.0 then ['0', '.', '0']
  else
    let s := shortest .toEven x.abs
    if -5 ≤ s.exponent ∧ s.exponent < 16 then
      let (whole, fraction) := s.positional
      whole ++ '.' :: (if fraction.isEmpty then ['0'] else fraction)
    else s.exponential

def json (x : Float) : List Char :=
  if isNegative x then '-' :: jsonMagnitude x else jsonMagnitude x

def plainMagnitude (x : Float) : List Char :=
  if x == 0.0 then ['0']
  else
    let (whole, fraction) := (shortest .up x.abs).positional
    if fraction.isEmpty then whole else whole ++ '.' :: fraction

/-- Positional, without an exponent and without a point for whole numbers. -/
def plain (x : Float) : List Char :=
  if x.isNaN then ['N', 'a', 'N']
  else
    let magnitude := if x.isInf then ['i', 'n', 'f'] else plainMagnitude x
    if isNegative x then '-' :: magnitude else magnitude

end FlowGraph.Decimal
