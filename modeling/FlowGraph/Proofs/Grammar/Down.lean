import FlowGraph.Proofs.Grammar.Acceptance
import FlowGraph.Proofs.Grammar.FirstFault
import FlowGraph.Proofs.Token.LineBreak

/-!
Tokens that stand further down. The grammar looks at the kinds and the texts of tokens and
only copies their positions, so that tokens which are all moved by some lines derive the
same declarations, moved by as many. A workflow has its name and its position from its
heading, which can be exchanged.
-/

namespace FlowGraph

section Down

variable (n : Nat)

def Param.down (p : Param) : Param :=
  { p with pos := p.pos.down n }

def Variable.down (v : Variable) : Variable :=
  { v with pos := v.pos.down n }

def Node.down (node : Node) : Node :=
  { node with pos := node.pos.down n }

def ModuleRef.down (ref : ModuleRef) : ModuleRef :=
  { ref with pos := ref.pos.down n }

def Entry.down : Entry → Entry
  | .node declared => .node (declared.down n)
  | .module ref => .module (ref.down n)

def Connection.down (c : Connection) : Connection :=
  { c with pos := c.pos.down n }

def Workflow.down (w : Workflow) : Workflow where
  name := w.name
  params := w.params.map (Param.down n)
  vars := w.vars.map (Variable.down n)
  entries := w.entries.map (Entry.down n)
  connections := w.connections.map (Connection.down n)
  pos := w.pos.down n

end Down

namespace Grammar

variable {n : Nat} {ts : List Token}

theorem optional_down {kind : TokenKind} (h : Optional kind ts) :
    Optional kind (ts.map (Token.down n)) := by
  cases h with
  | absent => exact .absent
  | present t ht => exact .present (t.down n) ht

/-- The text of a template has no positions in it. -/
theorem joined_down (inner : List Token) : joined (inner.map (Token.down n)) = joined inner := by
  induction inner with
  | nil => rfl
  | cons t inner ih =>
    rw [List.map_cons, joined_cons, joined_cons, ih]
    rfl

theorem balanced_down (h : Balanced ts) : Balanced (ts.map (Token.down n)) := by
  induction h with
  | nil => exact .nil
  | plain t rest ho hc _ ih => exact .plain (t.down n) _ ho hc ih
  | nested opening closing inner rest ho _ hc _ ihInner ihRest =>
    have hall := Balanced.nested (opening.down n) (closing.down n) _ _ ho ihInner hc ihRest
    simpa using hall

mutual

/-- Expressions have no positions, so the same one is derived further down. -/
theorem expression_down {ts : List Token} {e : Expr} (h : Expression ts e) :
    Expression (ts.map (Token.down n)) e := by
  match h with
  | .text t ht hs => exact .text (t.down n) ht hs
  | .quoted t ht hs => exact .quoted (t.down n) ht hs
  | .number t v ht hv => exact .number (t.down n) v ht hv
  | .boolean t ht => exact .boolean (t.down n) ht
  | .null t ht => exact .null (t.down n) ht
  | .ident t ht => exact .ident (t.down n) ht
  | .call name opening closing inner args hn ho hi hc =>
    have hcall := Expression.call (name.down n) (opening.down n) (closing.down n) _ args hn ho
      (items_down hi) hc
    rw [List.map_append]
    exact hcall
  | .object opening closing inner members ho hi hc =>
    have hobject := Expression.object (opening.down n) (closing.down n) _ members ho
      (members_down hi) hc
    rw [List.map_append]
    exact hobject
  | .array opening closing inner items ho hi hc =>
    have harray := Expression.array (opening.down n) (closing.down n) _ items ho
      (items_down hi) hc
    rw [List.map_append]
    exact harray
  | .bare opening closing inner ho hi hc =>
    have hinner : Balanced (inner.map (Token.down n)) := balanced_down hi
    have hbare := Expression.bare (opening.down n) (closing.down n) _ ho hinner hc
    rw [joined_down] at hbare
    rw [List.map_append]
    exact hbare

theorem items_down {ts : List Token} {es : List Expr} (h : Items ts es) :
    Items (ts.map (Token.down n)) es := by
  match h with
  | .nil => exact .nil
  | .cons item separator rest e es he hs hr =>
    rw [List.map_append, List.map_append]
    exact .cons _ _ _ e es (expression_down he) (optional_down hs) (items_down hr)

theorem members_down {ts : List Token} {members : List (String × Expr)} (h : Members ts members) :
    Members (ts.map (Token.down n)) members := by
  match h with
  | .nil => exact .nil
  | .cons key colon value separator rest e members hk hc he hs hr =>
    rw [List.map_append, List.map_append]
    exact .cons (key.down n) (colon.down n) _ _ _ e members hk hc (expression_down he)
      (optional_down hs) (members_down hr)

end

theorem entries_down {entries : List (String × Expr)} (h : Entries ts entries) :
    Entries (ts.map (Token.down n)) entries := by
  induction h with
  | nil => exact .nil
  | cons key colon value separator rest e entries hk hc he hs _ ih =>
    rw [List.map_append, List.map_append]
    exact .cons (key.down n) (colon.down n) _ _ _ e entries hk hc (expression_down he)
      (optional_down hs) ih

theorem block_down {entries : List (String × Expr)} (h : Block ts entries) :
    Block (ts.map (Token.down n)) entries := by
  obtain ⟨opening, closing, inner, _, ho, hi, hc⟩ := h
  rw [List.map_append]
  exact .mk (opening.down n) (closing.down n) _ entries ho (entries_down hi) hc

theorem default_down {default : Option Expr} (h : Default ts default) :
    Default (ts.map (Token.down n)) default := by
  cases h with
  | absent => exact .absent
  | present equals value e hk he => exact .present (equals.down n) _ e hk (expression_down he)

theorem constraintBlock_down {constraints : Constraints} (h : ConstraintBlock ts constraints) :
    ConstraintBlock (ts.map (Token.down n)) constraints := by
  cases h with
  | absent => exact .absent
  | present ts entries rs hb hr => exact .present _ entries rs (block_down hb) hr

/-- A declaration has its position from its keyword and moves with it. -/
theorem paramDeclaration_down {p : Param} (h : ParamDeclaration ts p) :
    ParamDeclaration (ts.map (Token.down n)) (p.down n) := by
  obtain ⟨keyword, name, typeName, value, block, type, default, constraints, hk, hn, ht, htype, hd,
    hc⟩ := h
  rw [List.map_append]
  exact .mk (keyword.down n) (name.down n) (typeName.down n) _ _ type default constraints hk hn ht
    htype (default_down hd) (constraintBlock_down hc)

theorem varDeclaration_down {v : Variable} (h : VarDeclaration ts v) :
    VarDeclaration (ts.map (Token.down n)) (v.down n) := by
  obtain ⟨keyword, name, equals, value, e, hk, hn, hq, he⟩ := h
  exact .mk (keyword.down n) (name.down n) (equals.down n) _ e hk hn hq (expression_down he)

theorem nodeDeclaration_down {node : Node} (h : NodeDeclaration ts node) :
    NodeDeclaration (ts.map (Token.down n)) (node.down n) := by
  obtain ⟨keyword, name, tag, block, entries, point, hk, hn, ht, hb, hp⟩ := h
  exact .mk (keyword.down n) (name.down n) (tag.down n) _ entries point hk hn ht (block_down hb) hp

theorem moduleDeclaration_down {ref : ModuleRef} (h : ModuleDeclaration ts ref) :
    ModuleDeclaration (ts.map (Token.down n)) (ref.down n) := by
  obtain ⟨keyword, name, equals, path, block, entries, hk, hn, hq, hp, hb⟩ := h
  exact .mk (keyword.down n) (name.down n) (equals.down n) (path.down n) _ entries hk hn hq hp
    (block_down hb)

theorem endpointName_down {e : Endpoint} (h : EndpointName ts e) :
    EndpointName (ts.map (Token.down n)) e := by
  cases h with
  | plain node hn => exact .plain (node.down n) hn
  | port node dot port hn hd hp => exact .port (node.down n) (dot.down n) (port.down n) hn hd hp

theorem connectDeclaration_down {c : Connection} (h : ConnectDeclaration ts c) :
    ConnectDeclaration (ts.map (Token.down n)) (c.down n) := by
  obtain ⟨keyword, arrow, left, right, source, target, hk, hs, ha, ht⟩ := h
  rw [List.map_append]
  exact .mk (keyword.down n) (arrow.down n) _ _ source target hk (endpointName_down hs) ha
    (endpointName_down ht)

/-- All declarations move by the same number of lines. -/
theorem declarations_down {ps : List Param} {vs : List Variable} {es : List Entry}
    {cs : List Connection} (h : Declarations ts ps vs es cs) :
    Declarations (ts.map (Token.down n)) (ps.map (Param.down n)) (vs.map (Variable.down n))
      (es.map (Entry.down n)) (cs.map (Connection.down n)) := by
  induction h with
  | nil => exact .nil
  | param ts separator rest p ps vs es cs hd hs _ ih =>
    rw [List.map_append, List.map_append]
    exact .param _ _ _ _ _ _ _ _ (paramDeclaration_down hd) (optional_down hs) ih
  | var ts separator rest v ps vs es cs hd hs _ ih =>
    rw [List.map_append, List.map_append]
    exact .var _ _ _ _ _ _ _ _ (varDeclaration_down hd) (optional_down hs) ih
  | node ts separator rest node ps vs es cs hd hs _ ih =>
    rw [List.map_append, List.map_append]
    exact .node _ _ _ _ _ _ _ _ (nodeDeclaration_down hd) (optional_down hs) ih
  | module ts separator rest ref ps vs es cs hd hs _ ih =>
    rw [List.map_append, List.map_append]
    exact .module _ _ _ _ _ _ _ _ (moduleDeclaration_down hd) (optional_down hs) ih
  | connection ts separator rest c ps vs es cs hd hs _ ih =>
    rw [List.map_append, List.map_append]
    exact .connection _ _ _ _ _ _ _ _ (connectDeclaration_down hd) (optional_down hs) ih

/-- The declarations of a workflow may stand further down below another heading. -/
theorem derives_below {keyword name opening keyword' name' opening' : Token} {w : Workflow}
    (h : Derives (keyword :: name :: opening :: ts) w) (hk : keyword'.kind = .workflow)
    (hn : name'.kind = .string) (ho : opening'.kind = .lbrace) :
    Derives (keyword' :: name' :: opening' :: ts.map (Token.down n))
      { w.down n with name := name'.text, pos := keyword'.pos } := by
  generalize hts : keyword :: name :: opening :: ts = tokens at h
  obtain ⟨keyword, name, opening, closing, inner, ps, vs, es, cs, -, -, -, hd, hc⟩ := h
  simp only [List.cons_append, List.cons.injEq] at hts
  obtain ⟨-, -, -, rfl⟩ := hts
  rw [List.map_append]
  exact .mk keyword' name' opening' (closing.down n) _ _ _ _ _ hk hn ho (declarations_down hd) hc

section Heading

open FlowGraph.Parser

variable {w : Workflow}

theorem ofTokens_eq_ok : Workflow.ofTokens ts = .ok w ↔ Derives (beforeEnd ts) w := by
  rw [Workflow.ofTokens, located_eq_ok]
  exact workflow_eq_ok_iff_derives

/-- The end of input stands behind the tokens and is not one of them. -/
theorem ofTokens_concat (hts : ∀ t ∈ ts, t.kind ≠ .eof) {last : Token} (hlast : last.kind = .eof) :
    Workflow.ofTokens (ts ++ [last]) = .ok w ↔ Derives ts w := by
  have hend : beforeEnd [last] = [] := by
    simp [beforeEnd, hlast]
  rw [ofTokens_eq_ok, Workflow.beforeEnd_append hts, hend, List.append_nil]

/-- The name of a workflow is that in its heading. -/
theorem name_of_derives {keyword name : Token} (h : Derives (keyword :: name :: ts) w) :
    w.name = name.text := by
  generalize hts : keyword :: name :: ts = tokens at h
  cases h with
  | mk =>
    simp only [List.cons_append, List.cons.injEq] at hts
    rw [hts.2.1]

end Heading

end Grammar

end FlowGraph
