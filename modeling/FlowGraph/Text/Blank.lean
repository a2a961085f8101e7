/-!
Blank characters and what is cut at them. A character is blank when it has the
`White_Space` property. Texts are lists of characters here; `strip` is the same
cut on strings.
-/

namespace FlowGraph.Text

def isBlank (c : Char) : Bool :=
  let n := c.toNat
  (9 ≤ n && n ≤ 13) || n == 0x20 || n == 0x85 || n == 0xA0 || n == 0x1680 ||
    (0x2000 ≤ n && n ≤ 0x200A) || n == 0x2028 || n == 0x2029 || n == 0x202F ||
    n == 0x205F || n == 0x3000

def trimStart (cs : List Char) : List Char :=
  cs.dropWhile isBlank

def trimEnd (cs : List Char) : List Char :=
  (cs.reverse.dropWhile isBlank).reverse

def trim (cs : List Char) : List Char :=
  trimEnd (trimStart cs)

def strip (s : String) : String :=
  String.ofList (trim s.toList)

/-- The maximal runs of characters that are not blank, in order. -/
def words : List Char → List (List Char)
  | [] => []
  | c :: cs =>
    if isBlank c then words cs
    else
      match cs.head?, words cs with
      | some d, w :: ws => if isBlank d then [c] :: w :: ws else (c :: w) :: ws
      | _, ws => [c] :: ws

/-- ASCII letters in lower case; every other character as it stands. -/
def lowerAscii (s : String) : String :=
  String.ofList (s.toList.map Char.toLower)

/-- Does `needle` begin `cs`? If so, what follows it. -/
def dropPrefix? : List Char → List Char → Option (List Char)
  | [], cs => some cs
  | _ :: _, [] => none
  | n :: needle, c :: cs => if n = c then dropPrefix? needle cs else none

theorem dropPrefix?_eq_some_iff {needle cs rest : List Char} :
    dropPrefix? needle cs = some rest ↔ cs = needle ++ rest := by
  induction needle generalizing cs with
  | nil => simp [dropPrefix?]
  | cons n needle ih =>
    cases cs with
    | nil => simp [dropPrefix?]
    | cons c cs =>
      by_cases hc : n = c
      · subst hc; simp [dropPrefix?, ih]
      · have hc' : ¬ c = n := fun h => hc h.symm
        simp [dropPrefix?, hc, hc']

/-- Does `needle` occur somewhere in `cs`? -/
def contains (needle : List Char) : List Char → Bool
  | [] => needle.isEmpty
  | c :: cs => (dropPrefix? needle (c :: cs)).isSome || contains needle cs

end FlowGraph.Text
