import FlowGraph.Document.Generate
import FlowGraph.Proofs.Except

/-!
Generation as a list of tasks. Parameters come first, then variables, then for
each entry its tag and its parameters, and at last for each connection its source
and its target. A document is made exactly if every task can be done; otherwise
the error is that of the first task that cannot.
-/

namespace FlowGraph

inductive Scope.Advances {α : Type} (step : Scope → α → Except EvalError Scope) :
    Scope → List α → Scope → Prop
  | nil (s : Scope) : Advances step s [] s
  | cons (s next final : Scope) (a : α) (as : List α) (ha : step s a = .ok next)
      (hr : Advances step next as final) : Advances step s (a :: as) final

/-- The bindings go through exactly if each does in the scope that those before it left. -/
theorem Scope.advance_eq_none_iff {α : Type} (step : Scope → α → Except EvalError Scope)
    (s final : Scope) (as : List α) :
    s.advance step as = (final, none) ↔ Advances step s as final := by
  induction as generalizing s with
  | nil =>
    constructor
    · intro h
      cases h
      exact Advances.nil _
    · intro h
      cases h
      rfl
  | cons a as ih =>
    rw [Scope.advance]
    constructor
    · intro h
      cases ha : step s a with
      | error e => simp [ha] at h
      | ok next =>
        rw [ha] at h
        exact Advances.cons s next final a as ha ((ih next).mp h)
    · intro h
      cases h with
      | cons _ next _ _ _ ha hr =>
        rw [ha]
        exact (ih next).mpr hr

def Entry.nodeName? : Entry → Option String
  | .node n => some n.name
  | .module _ => none

def Workflow.nodeNames (w : Workflow) : List String :=
  w.entries.filterMap Entry.nodeName?

/-- One thing that generation has to get done. -/
inductive Task where
  | param (p : Param)
  | var (v : Variable)
  | module (ref : ModuleRef)
  | tag (n : Node)
  | parameter (value : Expr)
  | source (c : Connection)
  | target (c : Connection)

namespace Task

def ofEntry : Entry → List Task
  | .node n => .tag n :: n.parameters.map fun (_, e) => .parameter e
  | .module ref => [.module ref]

def ofWorkflow (w : Workflow) : List Task :=
  w.params.map .param ++ w.vars.map .var ++ w.entries.flatMap ofEntry ++
    w.connections.flatMap fun c => [.source c, .target c]

/-- Does one task, when the declared nodes have the names `names`. Only
declarations change the scope. -/
def run (h : Host) (given : Fields Json) (names : List String) (s : Scope) :
    Task → Except GenerateError Scope
  | .param p => (s.bindParam h given p).mapError .eval
  | .var v => (s.bindVariable h v).mapError .eval
  | .module ref => .error (.module ref)
  | .tag n => if (Target.ofTag? n.tag).isSome then .ok s else .error (.unknownTag n)
  | .parameter e => ((s.eval h e).map fun _ => s).mapError .eval
  | .source c =>
    if c.source.node ∈ names then .ok s
    else .error (.unknownEndpoint "source" c.source.node c.pos)
  | .target c =>
    if c.target.node ∈ names then .ok s
    else .error (.unknownEndpoint "target" c.target.node c.pos)

def runAll (h : Host) (given : Fields Json) (names : List String) (s : Scope) (tasks : List Task) :
    Except GenerateError Scope :=
  tasks.foldlM (run h given names) s

variable {h : Host} {given : Fields Json} {names : List String} {s : Scope}

theorem runAll_nil : runAll h given names s [] = .ok s := rfl

theorem runAll_cons (t : Task) (tasks : List Task) :
    runAll h given names s (t :: tasks) =
      run h given names s t >>= fun s => runAll h given names s tasks := by
  simp [runAll]

theorem runAll_append (before after : List Task) :
    runAll h given names s (before ++ after) =
      runAll h given names s before >>= fun s => runAll h given names s after := by
  simp [runAll]

def settled : Scope × Option EvalError → Except GenerateError Scope
  | (s, none) => .ok s
  | (_, some e) => .error (.eval e)

theorem settled_eq_ok_iff (result : Scope × Option EvalError) (s : Scope) :
    settled result = .ok s ↔ result = (s, none) := by
  obtain ⟨s', _ | e⟩ := result <;> simp [settled]

/-- A series of bindings is a series of tasks. -/
theorem runAll_map {α : Type} (task : α → Task) (step : Scope → α → Except EvalError Scope)
    (hstep : ∀ s a, run h given names s (task a) = (step s a).mapError .eval) (as : List α) :
    runAll h given names s (as.map task) = settled (s.advance step as) := by
  induction as generalizing s with
  | nil => rfl
  | cons a as ih =>
    rw [List.map_cons, runAll_cons, hstep, Scope.advance]
    cases step s a with
    | error e => rfl
    | ok s' => exact ih

theorem runAll_params (params : List Param) :
    runAll h given names s (params.map .param) = settled (s.bindParams h given params) :=
  runAll_map .param _ (fun _ _ => rfl) params

theorem runAll_vars (vars : List Variable) :
    runAll h given names s (vars.map .var) = settled (s.bindVariables h vars) :=
  runAll_map .var _ (fun _ _ => rfl) vars

theorem scopeOf_eq_runAll (o : GenerateOptions) (w : Workflow) :
    Document.scopeOf h o w =
      runAll h o.params names {} (w.params.map .param ++ w.vars.map .var) := by
  rw [runAll_append, runAll_params, Document.scopeOf]
  obtain ⟨s, _ | e⟩ := Scope.bindParams {} h o.params w.params
  · dsimp only [settled, bind, Except.bind]
    rw [runAll_vars]
    obtain ⟨s', _ | e⟩ := s.bindVariables h w.vars <;> rfl
  · rfl

theorem runAll_parameters (parameters : List (String × Expr)) :
    runAll h given names s (parameters.map fun (_, e) => .parameter e) =
      ((s.evalEntries h parameters).map fun _ => s).mapError .eval := by
  induction parameters with
  | nil => rfl
  | cons entry parameters ih =>
    obtain ⟨name, e⟩ := entry
    rw [List.map_cons, runAll_cons, run, Scope.evalEntries]
    cases s.eval h e with
    | error e => rfl
    | ok v =>
      refine ih.trans ?_
      cases s.evalEntries h parameters <;> rfl

/-- Making a node fails as its tag and its parameters do, one after the other. -/
theorem runAll_ofEntry_node (ids : IdSource) (index : Nat) (point : Point) (n : Node) :
    runAll h given names s (ofEntry (.node n)) =
      (Document.generateNode h ids s index point n).map fun _ => s := by
  rw [ofEntry, runAll_cons, run, Document.generateNode]
  cases Target.ofTag? n.tag with
  | none => rfl
  | some target =>
    refine (runAll_parameters n.parameters).trans ?_
    cases s.evalEntries h n.parameters <;> rfl

/-- Neither places nor ids matter for whether the nodes can be made. -/
theorem runAll_entries (ids : IdSource) (layout : Layout) (index : Nat) (next : Float)
    (entries : List Entry) :
    runAll h given names s (entries.flatMap ofEntry) =
      (Document.generateNodes h ids layout s index next entries).map fun _ => s := by
  induction entries generalizing index next with
  | nil => rfl
  | cons entry entries ih =>
    rw [List.flatMap_cons, runAll_append]
    cases entry with
    | module ref => rfl
    | node n =>
      rw [Document.generateNodes, runAll_ofEntry_node ids index (layout.place next n.point).1 n]
      obtain ⟨point, next'⟩ := layout.place next n.point
      dsimp only
      cases Document.generateNode h ids s index point n with
      | error e => rfl
      | ok node =>
        refine (ih (index + 1) next').trans ?_
        cases Document.generateNodes h ids layout s (index + 1) next' entries <;> rfl

theorem runAll_ends (c : Connection) :
    runAll h given names s [.source c, .target c] =
      match Document.unknownEndpoint? names c with
      | some e => .error e
      | none => .ok s := by
  simp only [runAll_cons, run, Document.unknownEndpoint?, List.contains_eq_mem]
  by_cases hsource : c.source.node ∈ names
  · by_cases htarget : c.target.node ∈ names
    · simp [hsource, htarget, bind, Except.bind]
      rfl
    · simp [hsource, htarget, bind, Except.bind]
  · simp [hsource, bind, Except.bind]

/-- The first endpoint that is not declared is the one that is reported. -/
theorem runAll_connections (connections : List Connection) :
    runAll h given names s (connections.flatMap fun c => [.source c, .target c]) =
      match connections.findSome? (Document.unknownEndpoint? names) with
      | some e => .error e
      | none => .ok s := by
  induction connections with
  | nil => rfl
  | cons c connections ih =>
    rw [List.flatMap_cons, runAll_append, runAll_ends, List.findSome?_cons]
    cases Document.unknownEndpoint? names c with
    | some e => rfl
    | none => exact ih

def Checks : Task → Prop
  | .param _ => False
  | .var _ => False
  | _ => True

theorem eq_of_run_eq_ok {t : Task} (ht : Checks t) {s' : Scope}
    (hrun : run h given names s t = .ok s') : s' = s := by
  cases t with
  | param p => cases ht
  | var v => cases ht
  | module ref => cases hrun
  | parameter e =>
    rw [run] at hrun
    cases hv : s.eval h e with
    | error e => simp [hv, Except.map, Except.mapError] at hrun
    | ok v => simpa [hv, Except.map, Except.mapError] using hrun.symm
  | tag n =>
    rw [run] at hrun
    split at hrun <;> cases hrun
    rfl
  | source c =>
    rw [run] at hrun
    split at hrun <;> cases hrun
    rfl
  | target c =>
    rw [run] at hrun
    split at hrun <;> cases hrun
    rfl

/-- Checks are independent of each other: all of them pass in order exactly if each
passes. -/
theorem runAll_eq_ok_iff {tasks : List Task} (htasks : ∀ t ∈ tasks, Checks t) (s' : Scope) :
    runAll h given names s tasks = .ok s' ↔
      s' = s ∧ ∀ t ∈ tasks, run h given names s t = .ok s := by
  induction tasks with
  | nil => simp [runAll_nil, eq_comm]
  | cons t tasks ih =>
    have ht : Checks t := htasks t (List.mem_cons_self ..)
    have hrest := ih fun u hu => htasks u (List.mem_cons_of_mem t hu)
    rw [runAll_cons, List.forall_mem_cons]
    cases hrun : run h given names s t with
    | error e => simp [bind, Except.bind]
    | ok s₁ =>
      obtain rfl : s₁ = s := eq_of_run_eq_ok ht hrun
      simpa [bind, Except.bind] using hrest

theorem checks_of_mem_ofEntry {entries : List Entry} {t : Task}
    (ht : t ∈ entries.flatMap ofEntry) : Checks t := by
  obtain ⟨entry, -, ht⟩ := List.mem_flatMap.mp ht
  cases entry with
  | module ref =>
    obtain rfl : t = .module ref := by simpa [ofEntry] using ht
    trivial
  | node n =>
    rcases List.mem_cons.mp ht with rfl | ht
    · trivial
    · obtain ⟨_, -, rfl⟩ := List.mem_map.mp ht
      trivial

theorem checks_of_mem_ends {connections : List Connection} {t : Task}
    (ht : t ∈ connections.flatMap fun c => [.source c, .target c]) : Checks t := by
  obtain ⟨c, -, ht⟩ := List.mem_flatMap.mp ht
  rcases List.mem_pair.mp ht with rfl | rfl <;> trivial

def Makes (h : Host) (s : Scope) (entry : Entry) : Prop :=
  ∃ n target, entry = .node n ∧ Target.ofTag? n.tag = some target ∧
    ∀ p ∈ n.parameters, ∃ v, s.eval h p.2 = .ok v

theorem run_ofEntry_iff (entry : Entry) :
    (∀ t ∈ ofEntry entry, run h given names s t = .ok s) ↔ Makes h s entry := by
  cases entry with
  | module ref => simp [ofEntry, run, Makes]
  | node n =>
    have hparameter (e : Expr) :
        run h given names s (.parameter e) = .ok s ↔ ∃ v, s.eval h e = .ok v := by
      cases hv : s.eval h e <;> simp [run, hv, Except.map, Except.mapError]
    have htag :
        run h given names s (.tag n) = .ok s ↔ ∃ target, Target.ofTag? n.tag = some target := by
      cases htarget : Target.ofTag? n.tag <;> simp [run, htarget]
    simp only [ofEntry, List.forall_mem_cons, htag, List.forall_mem_map, hparameter]
    constructor
    · rintro ⟨⟨target, htarget⟩, hvalues⟩
      exact ⟨n, target, rfl, htarget, hvalues⟩
    · rintro ⟨_, target, hn, htarget, hvalues⟩
      cases hn
      exact ⟨⟨target, htarget⟩, hvalues⟩

theorem run_ends_iff (c : Connection) :
    (∀ t ∈ [Task.source c, .target c], run h given names s t = .ok s) ↔
      c.source.node ∈ names ∧ c.target.node ∈ names := by
  by_cases hsource : c.source.node ∈ names <;> by_cases htarget : c.target.node ∈ names <;>
    simp [run, hsource, htarget]

/-- All tasks can be done exactly if declarations bind in order and the rest holds in the scope they
leave. -/
theorem runAll_ofWorkflow_eq_ok_iff (given : Fields Json) (w : Workflow) (final : Scope) :
    runAll h given w.nodeNames {} (ofWorkflow w) = .ok final ↔
      ∃ bound, Scope.Advances (fun s p => s.bindParam h given p) {} w.params bound ∧
        Scope.Advances (fun s v => s.bindVariable h v) bound w.vars final ∧
        (∀ entry ∈ w.entries, Makes h final entry) ∧
        ∀ c ∈ w.connections, c.source.node ∈ w.nodeNames ∧ c.target.node ∈ w.nodeNames := by
  simp only [ofWorkflow, runAll_append, bind_eq_ok, runAll_params, runAll_vars,
    settled_eq_ok_iff, Scope.bindParams, Scope.bindVariables, Scope.advance_eq_none_iff,
    runAll_eq_ok_iff fun _ => checks_of_mem_ofEntry, runAll_eq_ok_iff fun _ => checks_of_mem_ends,
    List.forall_mem_flatMap, run_ofEntry_iff, run_ends_iff]
  constructor
  · rintro ⟨_, ⟨_, ⟨bound, hparams, hvars⟩, rfl, hentries⟩, rfl, hconnections⟩
    exact ⟨bound, hparams, hvars, hentries, hconnections⟩
  · rintro ⟨bound, hparams, hvars, hentries, hconnections⟩
    exact ⟨final, ⟨final, ⟨bound, hparams, hvars⟩, rfl, hentries⟩, rfl, hconnections⟩

end Task

namespace Document

variable {h : Host} {ids : IdSource} {o : GenerateOptions} {w : Workflow}

theorem generateNodes_node_eq_ok_iff {layout : Layout} {s : Scope} {index : Nat} {next : Float}
    {n : Node} {entries : List Entry} {nodes : List GraphNode} :
    generateNodes h ids layout s index next (.node n :: entries) = .ok nodes ↔
      ∃ g rest, generateNode h ids s index (layout.place next n.point).1 n = .ok g ∧
        generateNodes h ids layout s (index + 1) (layout.place next n.point).2 entries = .ok rest ∧
        nodes = g :: rest := by
  rw [generateNodes]
  constructor
  · intro hnodes
    obtain ⟨g, hg, hmore⟩ := bind_eq_ok.mp hnodes
    obtain ⟨rest, hrest, hpair⟩ := bind_eq_ok.mp hmore
    cases hpair
    exact ⟨g, rest, hg, hrest, rfl⟩
  · rintro ⟨g, rest, hg, hrest, rfl⟩
    exact bind_eq_ok.mpr ⟨g, hg, bind_eq_ok.mpr ⟨rest, hrest, rfl⟩⟩

/-- A node is made if its tag is known and its parameters have values. -/
theorem generateNode_eq_ok_iff {s : Scope} {index : Nat} {point : Point} {n : Node}
    {g : GraphNode} :
    generateNode h ids s index point n = .ok g ↔
      ∃ target pairs, Target.ofTag? n.tag = some target ∧ s.evalEntries h n.parameters = .ok pairs ∧
        g = {
          id := (ids.node index).text
          name := n.name
          type := target.typeName
          point
          parameters := target.parameters (ids.part index) (Fields.ofPairs pairs)
          version := target.version } := by
  unfold generateNode
  constructor
  · intro hg
    split at hg
    · cases hg
    · next target htarget =>
      split at hg
      · cases hg
      · next pairs hpairs =>
        cases hg
        exact ⟨target, pairs, htarget, hpairs, rfl⟩
  · rintro ⟨target, pairs, htarget, hpairs, rfl⟩
    simp only [htarget, hpairs]

theorem map_name_of_generateNodes {layout : Layout} {s : Scope} {index : Nat} {next : Float}
    {entries : List Entry} {nodes : List GraphNode}
    (hnodes : generateNodes h ids layout s index next entries = .ok nodes) :
    nodes.map GraphNode.name = entries.filterMap Entry.nodeName? := by
  induction entries generalizing index next nodes with
  | nil =>
    cases hnodes
    rfl
  | cons entry entries ih =>
    cases entry with
    | module ref => cases hnodes
    | node n =>
      obtain ⟨g, rest, hg, hrest, rfl⟩ := generateNodes_node_eq_ok_iff.mp hnodes
      obtain ⟨target, pairs, -, -, rfl⟩ := generateNode_eq_ok_iff.mp hg
      rw [List.map_cons, ih hrest]
      rfl

/-- Making the document fails exactly where its tasks do. -/
theorem ofWorkflow_map_eq_runAll (h : Host) (ids : IdSource) (o : GenerateOptions) (w : Workflow) :
    (ofWorkflow h ids o w).map (fun _ => ()) =
      (Task.runAll h o.params w.nodeNames {} (Task.ofWorkflow w)).map fun _ => () := by
  rw [ofWorkflow, Task.ofWorkflow, Task.runAll_append, Task.runAll_append,
    ← Task.scopeOf_eq_runAll]
  cases scopeOf h o w with
  | error e => rfl
  | ok s =>
    dsimp only [bind, Except.bind]
    rw [Task.runAll_entries ids o.layout 0 o.layout.start.x]
    cases hnodes : generateNodes h ids o.layout s 0 o.layout.start.x w.entries with
    | error e => rfl
    | ok nodes =>
      dsimp only [Except.map]
      rw [Task.runAll_connections, map_name_of_generateNodes hnodes, Workflow.nodeNames]
      cases w.connections.findSome? (unknownEndpoint? (w.entries.filterMap Entry.nodeName?)) <;> rfl

/-- A document is made exactly if every parameter and every variable binds, every
entry is a node that can be made, and every connection joins declared nodes. If
not, the error is that of the first task that fails. -/
theorem ofWorkflow_first_failure (h : Host) (ids : IdSource) (o : GenerateOptions) (w : Workflow) :
    ((∃ d, ofWorkflow h ids o w = .ok d) ↔
      ∃ bound s, Scope.Advances (fun s p => s.bindParam h o.params p) {} w.params bound ∧
        Scope.Advances (fun s v => s.bindVariable h v) bound w.vars s ∧
        (∀ entry ∈ w.entries, ∃ n target, entry = .node n ∧ Target.ofTag? n.tag = some target ∧
          ∀ p ∈ n.parameters, ∃ v, s.eval h p.2 = .ok v) ∧
        ∀ c ∈ w.connections, c.source.node ∈ w.nodeNames ∧ c.target.node ∈ w.nodeNames) ∧
    ∀ e, ofWorkflow h ids o w = .error e ↔
      ∃ before t after s, Task.ofWorkflow w = before ++ t :: after ∧
        Task.runAll h o.params w.nodeNames {} before = .ok s ∧
        Task.run h o.params w.nodeNames s t = .error e := by
  have hmap := ofWorkflow_map_eq_runAll h ids o w
  constructor
  · constructor
    · rintro ⟨d, hd⟩
      cases hrun : Task.runAll h o.params w.nodeNames {} (Task.ofWorkflow w) with
      | error e => simp [hd, hrun, Except.map] at hmap
      | ok s =>
        obtain ⟨bound, hbound⟩ := (Task.runAll_ofWorkflow_eq_ok_iff o.params w s).mp hrun
        exact ⟨bound, s, hbound⟩
    · rintro ⟨bound, s, hbound⟩
      have hrun := (Task.runAll_ofWorkflow_eq_ok_iff o.params w s).mpr ⟨bound, hbound⟩
      cases hd : ofWorkflow h ids o w with
      | error e => simp [hd, hrun, Except.map] at hmap
      | ok d => exact ⟨d, rfl⟩
  · intro e
    refine Iff.trans ?_ foldlM_eq_error_iff
    change _ ↔ Task.runAll h o.params w.nodeNames {} (Task.ofWorkflow w) = .error e
    cases hd : ofWorkflow h ids o w <;>
      cases hrun : Task.runAll h o.params w.nodeNames {} (Task.ofWorkflow w) <;>
      simp_all [Except.map]

end Document

end FlowGraph
