import FlowGraph.Decimal.Read

/-!
The shortest decimal digits that read back as a given binary64 value. The
value is taken apart into `m * 2 ^ q`, and the reals that round to it form an
interval around it. On the grid of decimals with one digit, two digits and so
on, the value has two neighbours; the first grid on which one of them lies in
the interval gives the digits, and of two such neighbours the nearer one is
taken. All comparisons are between natural numbers.
-/

namespace FlowGraph.Decimal

def digitChar (d : Nat) : Char :=
  Char.ofNat ('0'.toNat + d)

/-- The decimal digits of a number, most significant digit first. -/
def digits (n : Nat) : List Char :=
  if n < 10 then [digitChar n] else digits (n / 10) ++ [digitChar (n % 10)]
termination_by n

def ofInt (i : Int) : List Char :=
  if i < 0 then '-' :: digits i.natAbs else digits i.natAbs

/-- Which neighbour is taken when the value lies midway between both. -/
inductive Tie where
  | toEven
  | up
deriving DecidableEq

/-- The decimal `0.d₁d₂… * 10 ^ (exponent + 1)`, so `exponent` is the power of
ten of the first digit. -/
structure Scientific where
  digits : List Char
  exponent : Int
deriving DecidableEq

/-- A positive value and the interval that rounds to it, as the fractions
`low / den`, `mid / den` and `high / den`. -/
structure Rounding where
  low : Nat
  mid : Nat
  high : Nat
  den : Nat
  /-- Do the ends of the interval belong to it? -/
  closed : Bool

/-- The interval of a positive finite value, from its encoding. -/
def Rounding.ofFloat (x : Float) : Rounding :=
  let bits := x.toBits.toNat
  let biased := bits >>> 52 % 0x800
  let fraction := bits % 0x10000000000000
  let m := if biased = 0 then fraction else fraction + 0x10000000000000
  let q : Int := (if biased = 0 then 1 else biased : Nat) - 1077
  let low := if fraction = 0 && biased > 1 then 4 * m - 1 else 4 * m - 2
  let up := q.toNat
  { low := low <<< up, mid := (4 * m) <<< up, high := (4 * m + 2) <<< up,
    den := 1 <<< (-q).toNat, closed := m % 2 = 0 }

/-- The fraction `n / d` times `10 ^ k`, as a fraction again. -/
def scaleFraction (n d : Nat) (k : Int) : Nat × Nat :=
  (n * Nat.pow 10 k.toNat, d * Nat.pow 10 (-k).toNat)

/-- The least `k ≤ bound` with `d ≤ n * 10 ^ k`. -/
def upscale (n d : Nat) : Nat → Nat
  | 0 => 0
  | bound + 1 => if d ≤ n then 0 else upscale (10 * n) d bound + 1

/-- The power of ten of the first digit of `n / d`. -/
def leadingExponent (n d : Nat) : Int :=
  if d ≤ n then ((digits (n / d)).length : Int) - 1 else -(upscale n d 400)

/-- A neighbour of the value on the grid of multiples of `10 ^ unit` that lies
in the interval: the multiplier, if there is one. -/
def Rounding.onGrid? (r : Rounding) (tie : Tie) (unit : Int) : Option Nat :=
  let (mid, den) := scaleFraction r.mid r.den (-unit)
  let low := r.low * Nat.pow 10 (-unit).toNat
  let high := r.high * Nat.pow 10 (-unit).toNat
  let below := mid / den
  let above := below + 1
  let belowIn := if r.closed then low ≤ below * den else low < below * den
  let aboveIn := if r.closed then above * den ≤ high else above * den < high
  let distance := 2 * (mid - below * den)
  if belowIn && aboveIn then
    if distance < den then some below
    else if den < distance then some above
    else match tie with
      | .up => some above
      | .toEven => some (if below % 2 = 0 then below else above)
  else if belowIn then some below
  else if aboveIn then some above
  else none

/-- The first grid with a hit, from `count` digits on, with `left` grids to
try. -/
def Rounding.search (r : Rounding) (tie : Tie) (leading : Int) (count : Nat) : Nat → Nat × Int
  | 0 => (r.mid / r.den, 0)
  | left + 1 =>
    let unit := leading - count + 1
    match r.onGrid? tie unit with
    | some c => (c, unit)
    | none => r.search tie leading (count + 1) left

/-- The digits of a positive finite value. -/
def shortest (tie : Tie) (x : Float) : Scientific :=
  let r := Rounding.ofFloat x
  let (c, unit) := r.search tie (leadingExponent r.mid r.den) 1 17
  let ds := digits c
  let kept := (ds.reverse.dropWhile (· = '0')).reverse
  { digits := kept, exponent := unit + ds.length - 1 }

end FlowGraph.Decimal
