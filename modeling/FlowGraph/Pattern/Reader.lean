import FlowGraph.Pattern.Bracket
import FlowGraph.Pattern.Size

/-!
Patterns out of their text form: literals, sets of characters, groups, flags,
repetitions and choices. What looks around or back is not a pattern, and neither
is what nests too deep or takes too much room.
-/

namespace FlowGraph.Pattern

open Text (Unread Left)

/-- A pattern and how deep it nests as it is written. -/
structure Node where
  pattern : Pattern
  depth : Nat

namespace Node

def leaf (p : Pattern) : Node :=
  ⟨p, 0⟩

def deepest (nodes : List Node) : Nat :=
  nodes.foldl (fun n node => max n node.depth) 0

/-- Nodes one after the other. -/
def sequence (nodes : List Node) : Node :=
  ⟨concat (nodes.map Node.pattern), if nodes.length < 2 then deepest nodes else deepest nodes + 1⟩

/-- A choice between nodes. -/
def choice (nodes : List Node) : Node :=
  match nodes with
  | [node] => node
  | nodes => ⟨choose (nodes.map Node.pattern), deepest nodes + 1⟩

end Node

/-! ### Repetitions -/

/-- Digits, and what follows them. -/
def digits (verbose : Bool) (cs : List Char) : List Char × Left cs :=
  match cs with
  | [] => ([], Left.all [])
  | c :: rest =>
    if Decimal.isDigit c then
      match skipBlanks verbose rest with
      | ⟨more, _⟩ =>
        match digits verbose more with
        | (ds, ⟨after, _⟩) => (c :: ds, ⟨after, by simp only [List.length_cons] at *; omega⟩)
    else ([], Left.all (c :: rest))
termination_by cs.length

theorem length_trimStart_le (cs : List Char) : (Text.trimStart cs).length ≤ cs.length :=
  (List.dropWhile_sublist _).length_le

/-- A count of repetitions with blanks around it. -/
def count? (verbose : Bool) (cs : List Char) : Option (Nat × Left cs) :=
  match digits verbose (Text.trimStart cs) with
  | (ds, ⟨after, shorter⟩) =>
    have final : (Text.trimStart after).length ≤ cs.length :=
      Nat.le_trans (length_trimStart_le after) (Nat.le_trans shorter (length_trimStart_le cs))
    match Decimal.natural? ds with
    | some n => if n < 0x100000000 then some (n, ⟨Text.trimStart after, final⟩) else none
    | none => none

/-- The upper bound of a repetition that has a lower one, up to the closing
brace. -/
def upperBound? (verbose : Bool) (low : Nat) (cs : List Char) : Option (Option Nat × Left cs) :=
  let body := skipBlanks verbose cs
  match takeMark '}' body.val with
  | (true, rest) => some (none, body.after rest)
  | (false, _) =>
    match count? verbose body.val with
    | none => none
    | some (high, afterHigh) =>
      match takeMark '}' afterHigh.val with
      | (true, rest) => if low ≤ high then some (some high, body.after (afterHigh.after rest)) else none
      | (false, _) => none

/-- The bounds of a repetition after the opening brace, up to the closing one. -/
def bounds? (verbose : Bool) (cs : List Char) : Option ((Nat × Option Nat) × Left cs) :=
  let body := skipBlanks verbose cs
  match count? verbose body.val with
  | none => none
  | some (low, afterLow) =>
    match takeMark ',' afterLow.val with
    | (true, rest) =>
      (upperBound? verbose low rest.val).map fun (high, final) =>
        ((low, high), body.after (afterLow.after (rest.after final)))
    | (false, _) =>
      match takeMark '}' afterLow.val with
      | (true, rest) => some ((low, some low), body.after (afterLow.after rest))
      | (false, _) => none

/-- How often something stands. -/
structure Bounds where
  min : Nat
  max : Option Nat
  greedy : Bool

/-- The repetition that a character starts, `rest` standing after it, with the
question mark that makes it lazy; `none` if it starts none, an error if it starts
one that is malformed. -/
def repetition? (f : Flags) (c : Char) (rest : List Char) :
    Except Unit (Option (Bounds × Left rest)) :=
  let marked (min : Nat) (max : Option Nat) : Except Unit (Option (Bounds × Left rest)) :=
    match takeMark '?' rest with
    | (lazy, after) => .ok (some (⟨min, max, lazy == f.swapGreed⟩, after))
  if c = '*' then marked 0 none
  else if c = '+' then marked 1 none
  else if c = '?' then marked 0 (some 1)
  else if c = '{' then
    match bounds? f.verbose rest with
    | none => .error ()
    | some ((min, max), closed) =>
      let body := skipBlanks f.verbose closed.val
      match takeMark '?' body.val with
      | (lazy, after) =>
        .ok (some (⟨min, max, lazy == f.swapGreed⟩, closed.after (body.after after)))
  else .ok none

/-- Repetitions that stand after a node. -/
def withRepetitions? (f : Flags) (node : Node) (cs : List Char) : Option (Node × Left cs) :=
  match skipBlanks f.verbose cs with
  | ⟨[], _⟩ => some (node, ⟨[], by simp⟩)
  | ⟨c :: rest, _⟩ =>
    match repetition? f c rest with
    | .error _ => none
    | .ok none => some (node, ⟨c :: rest, by assumption⟩)
    | .ok (some (b, ⟨after, _⟩)) =>
      let times : Node := ⟨repeated node.pattern b.min b.max b.greedy, node.depth + 1⟩
      match withRepetitions? f times after with
      | none => none
      | some (found, ⟨final, _⟩) =>
        some (found, ⟨final, by simp only [List.length_cons] at *; omega⟩)
termination_by cs.length
decreasing_by simp only [List.length_cons] at *; omega

/-! ### Flags and groups -/

/-- One flag switched on or off. -/
def Flags.switch? (f : Flags) (on : Bool) : Char → Option Flags
  | 'i' => some { f with ignoreCase := on }
  | 'm' => some { f with multiLine := on }
  | 's' => some { f with dotNewline := on }
  | 'u' => some { f with unicode := on }
  | 'x' => some { f with verbose := on }
  | 'R' => some { f with crlf := on }
  | 'U' => some { f with swapGreed := on }
  | _ => none

/-- Flags up to a colon or a closing bracket, none of them twice: the flags, the
character that ends them and what follows it. `seen` are the marks so far. -/
def flags? (f : Flags) (on : Bool) (seen : List Char) (cs : List Char) :
    Option ((Flags × Char) × Unread cs) :=
  match cs with
  | [] => none
  | c :: rest =>
    if c = ':' || c = ')' then
      if seen.head? = some '-' then none
      else if c = ')' && seen.isEmpty then none
      else some ((f, c), Unread.tail c rest)
    else if seen.contains c then none
    else
      let next := if c = '-' then some (f, false) else (f.switch? on c).map fun g => (g, on)
      match next with
      | none => none
      | some (g, on) =>
        match flags? g on (c :: seen) rest with
        | none => none
        | some (found, after) => some (found, Unread.push c after)

def isNameStart (c : Char) : Bool :=
  c = '_' || Text.alphabetic.has c

def isNameChar (c : Char) : Bool :=
  isNameStart c || c = '.' || c = '[' || c = ']' || (Text.inCategories Text.Category.numbers).has c

/-- The name of a group up to the closing angle bracket. -/
def groupName? (cs : List Char) : Option (List Char × Left cs) :=
  let name := cs.takeWhile isNameChar
  match cs.drop name.length, List.length_drop (i := name.length) (l := cs) with
  | '>' :: rest, h =>
    if name.head?.any isNameStart then
      some (name, ⟨rest, by simp only [List.length_cons] at h; omega⟩)
    else none
  | _, _ => none

/-- What an opening bracket starts. A group whose ends are not marked only holds
its pattern together. -/
inductive Opening where
  | flags (f : Flags)
  | group (f : Flags) (marked : Bool) (name : Option (List Char))

/-- The start of a group after its opening bracket. -/
def opening? (f : Flags) (cs : List Char) : Option (Opening × Left cs) :=
  match cs with
  | '?' :: 'P' :: '<' :: rest =>
    (groupName? rest).map fun (name, ⟨after, _⟩) =>
      (.group f true (some name), ⟨after, by simp only [List.length_cons]; omega⟩)
  | '?' :: '<' :: rest =>
    (groupName? rest).map fun (name, ⟨after, _⟩) =>
      (.group f true (some name), ⟨after, by simp only [List.length_cons]; omega⟩)
  | '?' :: rest =>
    match flags? f true [] rest with
    | none => none
    | some ((g, final), ⟨after, _⟩) =>
      some (if final = ')' then .flags g else .group g false none,
        ⟨after, by simp only [List.length_cons]; omega⟩)
  | cs => some (.group f true none, Left.all cs)

/-! ### Sequences and choices -/

/-- A pattern of one character that is no bracket and no repetition. -/
def single? (f : Flags) (cs : List Char) : Option (Pattern × Unread cs) :=
  let literal (c : Char) : Pattern := ofSet (f.withCase (.single c))
  match cs with
  | [] => none
  | c :: rest =>
    let plain (p : Pattern) : Option (Pattern × Unread (c :: rest)) := some (p, Unread.tail c rest)
    if c = '\\' then
      match escape? f rest with
      | none => none
      | some (a, after) =>
        let p := match a with
          | .char d => literal d
          | .set s => ofSet s
          | .look l => .look l
        some (p, Unread.push c after)
    else if c = '.' then
      if !f.unicode then none
      else if f.dotNewline then plain (.one .all)
      else if f.crlf then plain (.one (CharSet.ofSpans [(0xA, 0xA), (0xD, 0xD)]).compl)
      else plain (.one (CharSet.single '\n').compl)
    else if c = '^' then plain (.look (if f.multiLine then .lineStart f.crlf else .textStart))
    else if c = '$' then plain (.look (if f.multiLine then .lineEnd f.crlf else .textEnd))
    else if c = '*' || c = '+' || c = '?' || c = '{' then none
    else plain (literal c)

/-- Flags that hold from here on, and the names of the groups so far. -/
structure State where
  flags : Flags
  names : List (List Char)

mutual

/-- Choices up to a closing bracket or the end. -/
def choices? (st : State) (cs : List Char) : Option ((List Node × State) × Left cs) :=
  match sequence? st [] cs with
  | none => none
  | some ((node, st), ⟨[], shorter⟩) => some (([node], st), ⟨[], shorter⟩)
  | some ((node, st), ⟨c :: rest, shorter⟩) =>
    if c = '|' then
      match choices? st rest with
      | none => none
      | some ((nodes, st), ⟨after, _⟩) =>
        some ((node :: nodes, st), ⟨after, by simp only [List.length_cons] at shorter; omega⟩)
    else some (([node], st), ⟨c :: rest, shorter⟩)
termination_by 2 * cs.length + 1
decreasing_by
  · omega
  · simp only [List.length_cons] at shorter; omega

/-- Nodes one after the other up to a bar, a closing bracket or the end; `done`
are those so far, the last one first. A change of flags counts as a node. -/
def sequence? (st : State) (done : List Node) (cs : List Char) :
    Option ((Node × State) × Left cs) :=
  match skipBlanks st.flags.verbose cs with
  | ⟨[], _⟩ => some ((Node.sequence done.reverse, st), ⟨[], by simp⟩)
  | ⟨c :: rest, _⟩ =>
    if c = '|' || c = ')' then
      some ((Node.sequence done.reverse, st), ⟨c :: rest, by assumption⟩)
    else if c = '(' then
      match skipBlanks st.flags.verbose rest with
      | ⟨inside, _⟩ =>
        match opening? st.flags inside with
        | none => none
        | some (.flags f, ⟨after, _⟩) =>
          match sequence? { st with flags := f } (.leaf .empty :: done) after with
          | none => none
          | some (found, ⟨final, _⟩) =>
            some (found, ⟨final, by simp only [List.length_cons] at *; omega⟩)
        | some (.group f marked name, ⟨body, _⟩) =>
          if name.any st.names.contains then none
          else
            match choices? ⟨f, name.toList ++ st.names⟩ body with
            | none => none
            | some (_, ⟨[], _⟩) => none
            | some ((nodes, inner), ⟨d :: closed, _⟩) =>
              if d = ')' then
                let node := Node.choice nodes
                let group : Node :=
                  ⟨if marked then .group node.pattern else node.pattern, node.depth + 1⟩
                match withRepetitions? st.flags group closed with
                | none => none
                | some (node, ⟨after, _⟩) =>
                  match sequence? { st with names := inner.names } (node :: done) after with
                  | none => none
                  | some (found, ⟨final, _⟩) =>
                    some (found, ⟨final, by simp only [List.length_cons] at *; omega⟩)
              else none
    else if c = '[' then
      match bracket? st.flags rest with
      | none => none
      | some (b, ⟨closed, _⟩) =>
        match withRepetitions? st.flags ⟨ofSet b.set, b.depth⟩ closed with
        | none => none
        | some (node, ⟨after, _⟩) =>
          match sequence? st (node :: done) after with
          | none => none
          | some (found, ⟨final, _⟩) =>
            some (found, ⟨final, by simp only [List.length_cons] at *; omega⟩)
    else
      match single? st.flags (c :: rest) with
      | none => none
      | some (p, ⟨afterAtom, _⟩) =>
        match withRepetitions? st.flags (.leaf p) afterAtom with
        | none => none
        | some (node, ⟨after, _⟩) =>
          match sequence? st (node :: done) after with
          | none => none
          | some (found, ⟨final, _⟩) => some (found, ⟨final, by omega⟩)
termination_by 2 * cs.length
decreasing_by all_goals (simp only [List.length_cons] at *; omega)

end

/-- How deep a pattern may nest. -/
def maxDepth : Nat := 250

def ofString? (text : String) : Option Pattern :=
  match choices? ⟨{}, []⟩ text.toList with
  | some ((nodes, _), ⟨[], _⟩) =>
    let node := Node.choice nodes
    if node.depth ≤ maxDepth && node.pattern.isSmall then some node.pattern else none
  | _ => none

end FlowGraph.Pattern
