/-!
Characters as bytes. A character is encoded as one to four bytes: the first tells
how many there are, and each of the others holds six bits of the code point. So
the characters from one to another are encoded by a few sequences of byte spans.
-/

namespace FlowGraph.Text

/-- The numbers from `low` to `high` to base 64, with `count` digits after the
leading one: sequences of spans, of which one span gives each digit. -/
def digitSpans : Nat → Nat → Nat → List (List (Nat × Nat))
  | 0, low, high => [[(low, high)]]
  | count + 1, low, high =>
    let unit := 1 <<< (6 * (count + 1))
    let first := low / unit
    let last := high / unit
    if first = last then
      (digitSpans count (low % unit) (high % unit)).map ((first, first) :: ·)
    else
      let fromStart := low % unit = 0
      let toEnd := high % unit = unit - 1
      let head := if fromStart then [] else digitSpans count (low % unit) (unit - 1)
      let tail := if toEnd then [] else digitSpans count 0 (high % unit)
      let lead := (if fromStart then first else first + 1, if toEnd then last else last - 1)
      let whole := if lead.1 ≤ lead.2 then [lead :: List.replicate (count + 1) (0, 63)] else []
      head.map ((first, first) :: ·) ++ whole ++ tail.map ((last, last) :: ·)

/-- Characters that are encoded alike: the first and the last code point, the
number of bytes after the first one, and the least value of the first one. -/
structure Band where
  low : Nat
  high : Nat
  more : Nat
  lead : Nat

def bands : List Band := [
  ⟨0, 0x7F, 0, 0⟩, ⟨0x80, 0x7FF, 1, 0xC0⟩, ⟨0x800, 0xD7FF, 2, 0xE0⟩, ⟨0xE000, 0xFFFF, 2, 0xE0⟩,
  ⟨0x10000, 0x10FFFF, 3, 0xF0⟩]

def Band.encode (b : Band) (low high : Nat) : List (List (Nat × Nat)) :=
  let low := max low b.low
  let high := min high b.high
  if high < low then []
  else
    (digitSpans b.more low high).map fun digits =>
      match digits with
      | [] => []
      | (first, last) :: rest =>
        (b.lead + first, b.lead + last) :: rest.map fun (x, y) => (0x80 + x, 0x80 + y)

/-- The sequences of byte spans that encode the characters from `low` to `high`. -/
def encodedSpans (low high : Nat) : List (List (Nat × Nat)) :=
  bands.flatMap fun b => b.encode low high

end FlowGraph.Text
