import FlowGraph.Token.Lexeme

/-!
Tokens and warnings of a source. The lexemes are laid out one after the other,
each at the position where those before it end; tokens and warnings stand where
their lexemes stand, and the end of input stands after the last one.
-/

namespace FlowGraph

/-- All lexemes of a source, and why cutting stopped if it did so before the
end. -/
def lexemes (cs : List Char) : List Lexeme × Option LexFault :=
  match cs with
  | [] => ([], none)
  | c :: rest =>
    match _ : Lexeme.next c rest with
    | .error fault => ([], some fault)
    | .ok (l, after) =>
      let (ls, fault) := lexemes after
      (l :: ls, fault)
termination_by cs.length
decreasing_by exact Lexeme.length_next_lt ‹_›

/-- Each lexeme with the position of its first character. -/
def placed (p : Position) : List Lexeme → List (Lexeme × Position)
  | [] => []
  | l :: ls => (l, p) :: placed (p.after l.source) ls

/-- A stray character that was passed over. -/
structure LexWarning where
  character : Char
  pos : Position
deriving DecidableEq

def LexWarning.message (w : LexWarning) : String :=
  "skipped unexpected character '" ++ w.character.toString ++ "'"

structure LexError where
  fault : LexFault
  pos : Position
deriving DecidableEq

structure Scan where
  tokens : List Token
  warnings : List LexWarning
deriving DecidableEq

def placedToken? : Lexeme × Position → Option Token
  | (l, p) => l.token?.map fun (kind, text) => ⟨kind, text, p⟩

def placedWarning? : Lexeme × Position → Option LexWarning
  | (l, p) => l.skipped?.map fun c => ⟨c, p⟩

def scanChars (cs : List Char) : Except LexError Scan :=
  let (ls, fault) := lexemes cs
  let here := placed .start ls
  let last := Position.start.after (ls.flatMap Lexeme.source)
  match fault with
  | some fault => .error ⟨fault, last⟩
  | none =>
    .ok ⟨here.filterMap placedToken? ++ [⟨.eof, "", last⟩], here.filterMap placedWarning?⟩

def scan (source : String) : Except LexError Scan :=
  scanChars source.toList

end FlowGraph
