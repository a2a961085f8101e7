import FlowGraph.Proofs.Compile
import FlowGraph.Proofs.Document.Agreement
import FlowGraph.Proofs.Expr.Constant
import FlowGraph.Proofs.Grammar.Down
import FlowGraph.Proofs.Workflow.Report

/-!
Workflows that need nothing from their surroundings: their defaults are constants, no
expression calls anything, and all their tags are known. Whether such a workflow has a
document does not hang on the host, and with finite places the document has no fault.
-/

namespace FlowGraph

namespace Expr

mutual

def callFree : Expr → Bool
  | .literal _ | .ident _ | .template _ => true
  | .call _ _ => false
  | .object entries => callFreeEntries entries
  | .array items => callFreeItems items

def callFreeItems : List Expr → Bool
  | [] => true
  | e :: items => callFree e && callFreeItems items

def callFreeEntries : List (String × Expr) → Bool
  | [] => true
  | (_, e) :: entries => callFree e && callFreeEntries entries

end

end Expr

namespace Scope

variable (s : Scope) (h : Host)

mutual

/-- Only calls fail. -/
theorem exists_eval {e : Expr} (he : e.callFree = true) : ∃ v, s.eval h e = .ok v := by
  match e with
  | .literal v => exact ⟨v, rfl⟩
  | .ident name => exact ⟨s.resolve name, rfl⟩
  | .call name args => cases he
  | .template text => exact ⟨.str (s.expand h text), rfl⟩
  | .object entries =>
    obtain ⟨pairs, hpairs⟩ := exists_evalEntries he
    exact ⟨.obj (Fields.ofPairs pairs), by rw [eval, hpairs]; rfl⟩
  | .array items =>
    obtain ⟨vs, hvs⟩ := exists_evalItems he
    exact ⟨.arr vs, by rw [eval, hvs]; rfl⟩

theorem exists_evalItems {items : List Expr} (hitems : Expr.callFreeItems items = true) :
    ∃ vs, s.evalItems h items = .ok vs := by
  match items with
  | [] => exact ⟨[], rfl⟩
  | e :: items =>
    obtain ⟨he, hmore⟩ := Bool.and_eq_true_iff.mp hitems
    obtain ⟨v, hv⟩ := exists_eval he
    obtain ⟨vs, hvs⟩ := exists_evalItems hmore
    exact ⟨v :: vs, by rw [evalItems, hv, hvs]; rfl⟩

theorem exists_evalEntries {entries : List (String × Expr)}
    (hentries : Expr.callFreeEntries entries = true) :
    ∃ pairs, s.evalEntries h entries = .ok pairs := by
  match entries with
  | [] => exact ⟨[], rfl⟩
  | (name, e) :: entries =>
    obtain ⟨he, hmore⟩ := Bool.and_eq_true_iff.mp hentries
    obtain ⟨v, hv⟩ := exists_eval he
    obtain ⟨pairs, hpairs⟩ := exists_evalEntries hmore
    exact ⟨(name, v) :: pairs, by rw [evalEntries, hv, hpairs]; rfl⟩

end

end Scope

def Param.isSettled (p : Param) : Bool :=
  p.default.all fun e => e.fold?.any fun v => (p.violation? v).isNone

/-- The entry is a node that can be made whatever the host is. -/
def Entry.isReady : Entry → Bool
  | .node n =>
    n.name ≠ "" && (Target.ofTag? n.tag).isSome && Expr.callFreeEntries n.parameters &&
      n.point.all fun p => p.x.isFinite && p.y.isFinite
  | .module _ => false

def Workflow.selfContained (w : Workflow) : Bool :=
  w.params.all Param.isSettled && w.vars.all (fun v => v.value.callFree) &&
    w.entries.all Entry.isReady

def Layout.isFiniteFor (l : Layout) (count : Nat) : Bool :=
  l.start.x.isFinite && l.start.y.isFinite &&
    (List.range count).all fun i => ((· + l.spacing)^[i] l.start.x).isFinite

namespace Scope

variable {s : Scope} {h : Host}

theorem exists_bindParam {p : Param} (hp : p.isSettled = true) :
    ∃ s', s.bindParam h [] p = .ok s' := by
  have hvalue : ∃ v, s.paramValue h [] p = .ok v ∧ p.violation? v = none := by
    unfold paramValue
    unfold Param.isSettled at hp
    cases hdefault : p.default with
    | none => exact ⟨.null, rfl, rfl⟩
    | some e =>
      rw [hdefault, Option.all_some, Option.any_eq_true] at hp
      obtain ⟨v, hfold, hadmits⟩ := hp
      exact ⟨v, eval_of_fold? s h e hfold, by simpa using hadmits⟩
  obtain ⟨v, hv, hadmits⟩ := hvalue
  unfold bindParam
  rw [hv]
  dsimp only
  rw [hadmits]
  exact ⟨_, rfl⟩

theorem exists_bindVariable {v : Variable} (hv : v.value.callFree = true) :
    ∃ s', s.bindVariable h v = .ok s' := by
  obtain ⟨value, hvalue⟩ := exists_eval s h hv
  unfold bindVariable
  rw [hvalue]
  exact ⟨_, rfl⟩

/-- A series of bindings goes through if each of them does in every scope. -/
theorem exists_advance {α : Type} {step : Scope → α → Except EvalError Scope} {as : List α}
    (hstep : ∀ a ∈ as, ∀ s, ∃ s', step s a = .ok s') (s : Scope) :
    ∃ s', s.advance step as = (s', none) := by
  induction as generalizing s with
  | nil => exact ⟨s, rfl⟩
  | cons a as ih =>
    obtain ⟨ha, hmore⟩ := List.forall_mem_cons.mp hstep
    obtain ⟨next, hnext⟩ := ha s
    rw [advance, hnext]
    exact ih hmore next

end Scope

namespace Document

variable {h : Host} {ids : IdSource} {o : GenerateOptions} {w : Workflow} {d : Document}

theorem exists_scopeOf (hw : w.selfContained = true) (hgiven : o.params = []) :
    ∃ s, scopeOf h o w = .ok s := by
  simp only [Workflow.selfContained, Bool.and_eq_true, List.all_eq_true] at hw
  obtain ⟨⟨hparams, hvars⟩, -⟩ := hw
  obtain ⟨s, hs⟩ := Scope.exists_advance
    (fun p hp s => Scope.exists_bindParam (s := s) (h := h) (hparams p hp)) {}
  obtain ⟨s', hs'⟩ := Scope.exists_advance
    (fun v hv s => Scope.exists_bindVariable (s := s) (h := h) (hvars v hv)) s
  refine ⟨s', ?_⟩
  unfold scopeOf Scope.bindParams Scope.bindVariables
  rw [hgiven, hs]
  dsimp only
  rw [hs']

/-- Entries that are ready become nodes in every scope. -/
theorem exists_generateNodes (h : Host) (ids : IdSource) (layout : Layout) (s : Scope)
    {entries : List Entry} (hentries : ∀ e ∈ entries, e.isReady = true) (index : Nat)
    (next : Float) :
    ∃ nodes, generateNodes h ids layout s index next entries = .ok nodes := by
  induction entries generalizing index next with
  | nil => exact ⟨[], rfl⟩
  | cons e entries ih =>
    obtain ⟨he, hmore⟩ := List.forall_mem_cons.mp hentries
    cases e with
    | module ref => cases he
    | node n =>
      simp only [Entry.isReady, Bool.and_eq_true] at he
      obtain ⟨⟨⟨-, htag⟩, hparameters⟩, -⟩ := he
      obtain ⟨target, htarget⟩ := Option.isSome_iff_exists.mp htag
      obtain ⟨pairs, hpairs⟩ := Scope.exists_evalEntries s h hparameters
      obtain ⟨nodes, hnodes⟩ := ih hmore (index + 1) (layout.place next n.point).2
      unfold generateNodes generateNode
      rw [htarget, hpairs]
      exact ⟨_, bind_eq_ok.mpr ⟨_, rfl, bind_eq_ok.mpr ⟨nodes, hnodes, rfl⟩⟩⟩

theorem isReady_of_selfContained (hw : w.selfContained = true) :
    ∀ e ∈ w.entries, e.isReady = true := by
  simp only [Workflow.selfContained, Bool.and_eq_true, List.all_eq_true] at hw
  exact hw.2

theorem nodeNames_of_isReady {entries : List Entry} (hentries : ∀ e ∈ entries, e.isReady = true) :
    entries.filterMap Entry.nodeName? = entries.map Entry.name := by
  rw [← List.filterMap_eq_map]
  apply List.filterMap_congr
  intro e he
  cases e with
  | node n => rfl
  | module ref => cases hentries _ he

/-- A workflow that breaks no rule has a document on every host, if it needs nothing from
its surroundings. -/
theorem exists_ofWorkflow (hw : w.selfContained = true) (hcoherent : w.Coherent)
    (hgiven : o.params = []) : ∃ d, ofWorkflow h ids o w = .ok d := by
  obtain ⟨s, hs⟩ := exists_scopeOf (h := h) hw hgiven
  have hready := isReady_of_selfContained hw
  obtain ⟨nodes, hnodes⟩ := exists_generateNodes h ids o.layout s hready 0 o.layout.start.x
  refine ⟨_, ofWorkflow_eq_ok_iff.mpr ⟨s, nodes, hs, hnodes, ?_, rfl⟩⟩
  intro c hc
  have hnamed : ∀ e ∈ [c.source, c.target], e.node ∈ w.nodeNames := by
    intro e he
    obtain ⟨entry, hentry, hname⟩ := hcoherent.joined c hc e he
    rw [Workflow.nodeNames, nodeNames_of_isReady hready, ← hname]
    exact List.mem_map_of_mem hentry
  exact ⟨hnamed _ (by simp), hnamed _ (by simp)⟩

theorem isFinite_pointAfter {layout : Layout} {count : Nat}
    (hlayout : layout.isFiniteFor count = true) {earlier : List Node}
    (hearlier : earlier.length < count) {n : Node}
    (hn : ∀ p ∈ n.point, p.x.isFinite = true ∧ p.y.isFinite = true) :
    (layout.pointAfter earlier n).x.isFinite = true ∧
      (layout.pointAfter earlier n).y.isFinite = true := by
  simp only [Layout.isFiniteFor, Bool.and_eq_true, List.all_eq_true, List.mem_range] at hlayout
  obtain ⟨⟨hx, hy⟩, hrow⟩ := hlayout
  unfold Layout.pointAfter
  cases hpoint : n.point with
  | some p => exact hn p hpoint
  | none =>
    dsimp only
    split
    · have hcount := List.countP_le_length (p := fun n : Node => n.point.isNone) (l := earlier)
      exact ⟨hrow _ (by omega), hy⟩
    · exact ⟨hx, hy⟩

/-- With a finite row and finite places of their own, all nodes have finite places. -/
theorem isFinite_points (hw : w.selfContained = true)
    (hlayout : o.layout.isFiniteFor w.entries.length = true) (hd : ofWorkflow h ids o w = .ok d) :
    ∀ g ∈ d.nodes, g.point.x.isFinite = true ∧ g.point.y.isFinite = true := by
  intro g hg
  obtain ⟨s, ns, hentries, hlength, hmade⟩ := nodes_of_ofWorkflow hd
  obtain ⟨i, hi⟩ := List.mem_iff_getElem?.mp hg
  have hlt : i < ns.length := hlength ▸ (List.getElem?_eq_some_iff.mp hi).1
  obtain ⟨g', hg', hmade⟩ := hmade i ns[i] (List.getElem?_eq_getElem hlt)
  obtain rfl : g' = g := Option.some.inj (hg'.symm.trans hi)
  obtain ⟨target, pairs, -, -, rfl⟩ := generateNode_eq_ok_iff.mp hmade
  have hready : (Entry.node ns[i]).isReady = true := by
    apply isReady_of_selfContained hw
    rw [hentries]
    exact List.mem_map_of_mem (List.getElem_mem hlt)
  simp only [Entry.isReady, Bool.and_eq_true, Option.all_eq_true] at hready
  have hearlier : (ns.take i).length < w.entries.length := by
    rw [hentries, List.length_map, List.length_take]
    omega
  exact isFinite_pointAfter hlayout hearlier hready.2

/-- The document of such a workflow has no fault. -/
theorem report_of_selfContained (hw : w.selfContained = true) (hcoherent : w.Coherent)
    (hne : w.entries ≠ []) (hlayout : o.layout.isFiniteFor w.entries.length = true)
    (hd : ofWorkflow h ids o w = .ok d) : report d.toJson = [] := by
  have hready := isReady_of_selfContained hw
  have hnames : w.nodeNames = w.entries.map Entry.name := nodeNames_of_isReady hready
  have hnonempty : ∀ name ∈ w.nodeNames, name ≠ "" := by
    intro name hname
    rw [hnames] at hname
    obtain ⟨e, he, rfl⟩ := List.mem_map.mp hname
    have hthis := hready e he
    cases e with
    | node n =>
      simp only [Entry.isReady, Bool.and_eq_true, decide_eq_true_eq] at hthis
      exact hthis.1.1.1
    | module ref => cases hthis
  have hformed := formed_of_ofWorkflow hnonempty hd (isFinite_points hw hlayout hd)
  have hnil : w.nodeNames ≠ [] := by
    rw [hnames]
    simpa using hne
  have hnodup : repeated id w.nodeNames = [] := by
    rw [repeated_eq_nil_iff, List.map_id, hnames]
    exact hcoherent.entries
  rw [report_of_formed hformed, map_name_nodes hd, if_neg hnil, hnodup,
    connectionsFaults_of_ofWorkflow hd]
  rfl

end Document

section Down

variable {w : Workflow} (n : Nat) (name : String) (pos : Position)

@[simp] theorem Param.isSettled_down (p : Param) : (p.down n).isSettled = p.isSettled :=
  rfl

@[simp] theorem Entry.name_down (e : Entry) : (e.down n).name = e.name := by
  cases e <;> rfl

@[simp] theorem Entry.isReady_down (e : Entry) : (e.down n).isReady = e.isReady := by
  cases e <;> rfl

/-- Neither the heading of a workflow nor the lines of its declarations count for the rules. -/
theorem Workflow.report_down (h : w.report = []) :
    ({ w.down n with name, pos } : Workflow).report = [] := by
  rw [report_eq_append, List.append_eq_nil_iff, faults_eq_nil_iff] at h ⊢
  obtain ⟨hcoherent, hconnected⟩ := h
  refine ⟨⟨?_, ?_, ?_, ?_, ?_⟩, ?_⟩
  · simpa [Workflow.down, Function.comp_def, Param.down] using hcoherent.params
  · simpa [Workflow.down, Function.comp_def, Variable.down] using hcoherent.vars
  · simpa [Workflow.down, Param.down, Variable.down] using hcoherent.apart
  · simpa [Workflow.down, Function.comp_def] using hcoherent.entries
  · simpa [Workflow.down, Connection.down] using hcoherent.joined
  · simpa [Workflow.down, Workflow.unconnectedEntries, Connection.down] using hconnected

theorem Workflow.selfContained_down (h : w.selfContained = true) :
    ({ w.down n with name, pos } : Workflow).selfContained = true := by
  simpa [Workflow.selfContained, Workflow.down, Variable.down] using h

end Down

/-- Compiling the source of such a workflow gives a document of its name, and nothing is
reported. -/
theorem compile_of_selfContained {source : String} {tokens : List Token} {w : Workflow}
    (hscan : scan source = .ok ⟨tokens, []⟩) (hw : Workflow.ofTokens tokens = .ok w)
    (hreport : w.report = []) (hself : w.selfContained = true) (hne : w.entries ≠ [])
    {o : CompileOptions} (hgiven : o.generate.params = [])
    (hlayout : o.generate.layout.isFiniteFor w.entries.length = true) (h : Host)
    (ids : IdSource) :
    ∃ d, compile h ids o source = ⟨true, some d, [], []⟩ ∧ d.name = w.name := by
  have hcoherent : w.Coherent := by
    rw [← Workflow.faults_eq_nil_iff, ← Workflow.errorsOf_report, hreport]
    rfl
  obtain ⟨d, hd⟩ : ∃ d, Document.ofWorkflow h ids o.generate w = .ok d :=
    Document.exists_ofWorkflow hself hcoherent hgiven
  have hfaults := Document.report_of_selfContained hself hcoherent hne hlayout hd
  have hfront : Front.ofSource source = ⟨some w, [], []⟩ := by
    unfold Front.ofSource
    rw [hscan]
    dsimp only
    rw [hw]
    dsimp only
    rw [hreport]
    rfl
  refine ⟨d, ?_, ?_⟩
  · unfold compile
    rw [hfront]
    dsimp only
    rw [hd]
    dsimp only
    rw [hfaults, ite_self]
    cases o.strict <;> rfl
  · obtain ⟨s, nodes, -, -, -, rfl⟩ := Document.ofWorkflow_eq_ok_iff.mp hd
    rfl

end FlowGraph
