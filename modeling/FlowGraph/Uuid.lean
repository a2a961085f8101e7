import FlowGraph.Json.Printer

/-!
Identifiers of documents, nodes and the parts of a node's parameters. They come
from outside; which one goes where depends on the place alone.
-/

namespace FlowGraph

/-- 128 random bits, of which six are not used. -/
structure Uuid where
  bits : Nat
deriving DecidableEq, Repr, Inhabited

namespace Uuid

/-- The lowest `count` hexadecimal digits of a number. -/
def hex (count : Nat) (n : Nat) : List Char :=
  (List.range count).reverse.map fun k => Json.hexDigit (n >>> (4 * k) % 16)

/-- Five groups of digits, the third and the fourth with the marks of a random
identifier at their start. -/
def text (u : Uuid) : String :=
  let n := u.bits
  String.ofList (hex 8 (n >>> 96) ++ '-' :: hex 4 (n >>> 80) ++ '-' :: '4' :: hex 3 (n >>> 64) ++
    '-' :: Json.hexDigit (8 + n >>> 60 % 4) :: hex 3 (n >>> 48) ++ '-' :: hex 12 n)

def toJson (u : Uuid) : Json :=
  .str u.text

end Uuid

/-- The identifiers of one document. -/
structure IdSource where
  document : Uuid
  node : Nat → Uuid
  /-- Of the conditions or assignments of a node, first the node, then the part. -/
  part : Nat → Nat → Uuid

namespace IdSource

/-- Spreads the bits of a word over all of it. -/
def mix (x : UInt64) : UInt64 :=
  let x := (x ^^^ (x >>> 30)) * 0xbf58476d1ce4e5b9
  let x := (x ^^^ (x >>> 27)) * 0x94d049bb133111eb
  x ^^^ (x >>> 31)

/-- A word for each list of numbers, from a random start. -/
def spread (start : UInt64) (numbers : List Nat) : UInt64 :=
  numbers.foldl (fun x n => mix (x + 0x9e3779b97f4a7c15 * (UInt64.ofNat n + 1))) start

/-- The identifiers that two random words give. -/
def ofSeed (high low : UInt64) : IdSource :=
  let uuid (numbers : List Nat) : Uuid :=
    ⟨(spread high numbers).toNat <<< 64 + (spread low numbers).toNat⟩
  { document := uuid []
    node := fun i => uuid [i]
    part := fun i j => uuid [i, j] }

end IdSource

end FlowGraph
