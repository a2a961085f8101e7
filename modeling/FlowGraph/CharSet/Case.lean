import FlowGraph.CharSet
import FlowGraph.Text.CaseFold

/-!
Sets of characters without regard to letter case.
-/

namespace FlowGraph.CharSet

open Text (FoldRun)

/-- The characters that a run folds. -/
def ofRun (r : FoldRun) : CharSet :=
  if r.step = 1 then range r.first r.last else alternating r.first r.last

/-- The members, what they fold to, and everything that folds to the same. -/
def closeUnder (runs : List FoldRun) (s : CharSet) : CharSet :=
  let folded := s ∪ unions (runs.map fun r => (s ∩ ofRun r).shift r.shift)
  folded ∪ unions (runs.map fun r => folded.shift (-r.shift) ∩ ofRun r)

/-- The members with all their case variants. -/
def withCase (s : CharSet) : CharSet :=
  s.closeUnder Text.foldRuns

/-- The members with the variants of their ASCII letters. -/
def withAsciiCase (s : CharSet) : CharSet :=
  s.closeUnder [⟨0x41, 0x5A, 1, 32⟩]

end FlowGraph.CharSet
