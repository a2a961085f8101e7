import FlowGraph.Proofs.Grammar.Completeness
import FlowGraph.Proofs.Grammar.Soundness
import FlowGraph.Workflow.Source

/-!
Reading accepts exactly the grammar. The workflow of an accepted list of tokens is
the only one that the tokens before the end of input derive, and its declarations
of each kind stand in the order of the source.
-/

namespace FlowGraph.Grammar

open FlowGraph.Parser

/-- Pieces of the tokens, one after the other and with anything between them, that
derive the elements in their order. -/
inductive InOrder {α : Type} (derives : List Token → α → Prop) : List Token → List α → Prop
  | nil (ts : List Token) : InOrder derives ts []
  | cons (before piece after : List Token) (a : α) (as : List α) (ha : derives piece a)
      (hr : InOrder derives after as) : InOrder derives (before ++ piece ++ after) (a :: as)

section InOrder

variable {α : Type} {derives : List Token → α → Prop} {ts : List Token} {as : List α}

theorem InOrder.prepend (h : InOrder derives ts as) (gap : List Token) :
    InOrder derives (gap ++ ts) as := by
  cases h with
  | nil => exact InOrder.nil _
  | cons before piece after a as ha hr =>
    simpa only [List.append_assoc] using InOrder.cons (gap ++ before) piece after a as ha hr

theorem InOrder.append (h : InOrder derives ts as) (gap : List Token) :
    InOrder derives (ts ++ gap) as := by
  induction h with
  | nil => exact InOrder.nil _
  | cons before piece after a as ha _ ih =>
    simpa only [List.append_assoc] using InOrder.cons before piece (after ++ gap) a as ha ih

theorem InOrder.first (h : InOrder derives ts as) {piece : List Token} {a : α}
    (ha : derives piece a) (separator : List Token) :
    InOrder derives (piece ++ separator ++ ts) (a :: as) := by
  simpa only [List.nil_append, List.append_assoc] using
    InOrder.cons [] piece (separator ++ ts) a as ha (h.prepend separator)

end InOrder

inductive EntryDeclaration : List Token → Entry → Prop
  | node (ts : List Token) (n : Node) (h : NodeDeclaration ts n) : EntryDeclaration ts (.node n)
  | module (ts : List Token) (m : ModuleRef) (h : ModuleDeclaration ts m) :
      EntryDeclaration ts (.module m)

structure Ordered (ts : List Token) (ps : List Param) (vs : List Variable) (es : List Entry)
    (cs : List Connection) : Prop where
  params : InOrder ParamDeclaration ts ps
  vars : InOrder VarDeclaration ts vs
  entries : InOrder EntryDeclaration ts es
  connections : InOrder ConnectDeclaration ts cs

/-- The declarations of one kind are among all of them in the order of the source. -/
theorem ordered_of_declarations {ts : List Token} {ps : List Param} {vs : List Variable}
    {es : List Entry} {cs : List Connection} (h : Declarations ts ps vs es cs) :
    Ordered ts ps vs es cs := by
  induction h with
  | nil => exact ⟨InOrder.nil _, InOrder.nil _, InOrder.nil _, InOrder.nil _⟩
  | param ts separator rest p ps vs es cs hd _ _ ih =>
    exact ⟨ih.params.first hd separator, ih.vars.prepend _, ih.entries.prepend _,
      ih.connections.prepend _⟩
  | var ts separator rest v ps vs es cs hd _ _ ih =>
    exact ⟨ih.params.prepend _, ih.vars.first hd separator, ih.entries.prepend _,
      ih.connections.prepend _⟩
  | node ts separator rest n ps vs es cs hd _ _ ih =>
    exact ⟨ih.params.prepend _, ih.vars.prepend _,
      ih.entries.first (EntryDeclaration.node ts n hd) separator, ih.connections.prepend _⟩
  | module ts separator rest m ps vs es cs hd _ _ ih =>
    exact ⟨ih.params.prepend _, ih.vars.prepend _,
      ih.entries.first (EntryDeclaration.module ts m hd) separator, ih.connections.prepend _⟩
  | connection ts separator rest c ps vs es cs hd _ _ ih =>
    exact ⟨ih.params.prepend _, ih.vars.prepend _, ih.entries.prepend _,
      ih.connections.first hd separator⟩

theorem ordered_of_derives {ts : List Token} {w : Workflow} (h : Derives ts w) :
    Ordered ts w.params w.vars w.entries w.connections := by
  obtain ⟨keyword, name, opening, closing, inner, ps, vs, es, cs, -, -, -, hd, -⟩ := h
  have hinner := ordered_of_declarations hd
  exact ⟨(hinner.params.append [closing]).prepend [keyword, name, opening],
    (hinner.vars.append [closing]).prepend [keyword, name, opening],
    (hinner.entries.append [closing]).prepend [keyword, name, opening],
    (hinner.connections.append [closing]).prepend [keyword, name, opening]⟩

/-- The reader of workflows accepts what the grammar derives. -/
theorem workflow_eq_ok_iff_derives {ts : List Token} {w : Workflow} :
    workflow ts = .ok w ↔ Derives ts w :=
  ⟨derives_of_workflow, workflow_of_derives⟩

theorem located_eq_ok {α : Type} {tokens : List Token} {result : Except Fault α} {a : α} :
    located tokens result = .ok a ↔ result = .ok a := by
  cases result <;> simp [located, Except.mapError]

/-- A list of tokens is accepted with a workflow exactly if the tokens before the
end of input derive it. No list of tokens derives two workflows, and what is
derived keeps the order of the source. -/
theorem ofTokens_eq_ok_iff_derives :
    (∀ tokens w, Workflow.ofTokens tokens = .ok w ↔
      Derives (tokens.takeWhile fun t => t.kind ≠ .eof) w) ∧
    (∀ ts w w', Derives ts w → Derives ts w' → w = w') ∧
    (∀ ts w, Derives ts w → Ordered ts w.params w.vars w.entries w.connections) := by
  refine ⟨fun tokens w => ?_, fun ts w w' h h' => ?_, fun ts w h => ordered_of_derives h⟩
  · rw [Workflow.ofTokens, located_eq_ok]
    exact workflow_eq_ok_iff_derives
  · have hread := workflow_of_derives h
    rw [workflow_of_derives h'] at hread
    exact (Except.ok.inj hread).symm

-- of two bounds, and of two places, the last one counts
example :
    (Workflow.ofSource
        "workflow \"w\" \x7b param p number \x7b min: 1 max: 9.5, min: 2 \x7d \x7d").toOption.map
        (·.params.map fun p => (p.constraints.min, p.constraints.max)) =
      some [(some 2, some 9.5)] := by
  decide +kernel

example :
    ((tokensOfSource
          "n \"set\" \x7b position: [0, 1], v: 1 position: [10, -2.5] \x7d").toOption.bind
        fun ts => (node ⟨1, 1⟩ ts).toOption.map fun read =>
          (read.1.parameters.map Prod.fst, read.1.point)) =
      some (["v"], some ⟨10, -2.5⟩) := by
  decide +kernel

end FlowGraph.Grammar
