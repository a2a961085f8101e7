import FlowGraph.Token.Scan
import FlowGraph.Workflow.Parser

/-!
Workflows and expressions out of source text: the text is scanned, and its
tokens are parsed.
-/

namespace FlowGraph

inductive SourceError where
  | lex (e : LexError)
  | parse (e : ParseError)

namespace SourceError

def pos : SourceError → Position
  | .lex e => e.pos
  | .parse e => e.pos

def message (e : SourceError) : String :=
  let (kind, text) := match e with
    | .lex e => ("lex", e.fault.message)
    | .parse e => ("parse", e.message)
  kind ++ " error at line " ++ toString e.pos.line ++ ", column " ++ toString e.pos.column ++
    ": " ++ text

end SourceError

def tokensOfSource (source : String) : Except SourceError (List Token) :=
  match scan source with
  | .ok found => .ok found.tokens
  | .error e => .error (.lex e)

def Workflow.ofSource (source : String) : Except SourceError Workflow := do
  let tokens ← tokensOfSource source
  (Workflow.ofTokens tokens).mapError .parse

/-- The expression at the start of a text; what follows it is not looked at. -/
def Expr.ofSource (source : String) : Except SourceError Expr := do
  let tokens ← tokensOfSource source
  (Expr.ofTokens tokens).mapError .parse

end FlowGraph
