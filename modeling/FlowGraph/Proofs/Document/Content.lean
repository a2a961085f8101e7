import FlowGraph.Proofs.Document.Pipeline
import FlowGraph.Proofs.Document.Wiring
import Mathlib.Logic.Function.Iterate

/-!
What a document has of its workflow: for each declared node one node at its place,
and for each declared connection one link, all in the order of declaration.
-/

namespace FlowGraph

namespace Layout

def rowAfter (l : Layout) (earlier : List Node) : Float :=
  (· + l.spacing)^[earlier.countP fun n => n.point.isNone] l.start.x

/-- The place of a node that comes after `earlier`. -/
def pointAfter (l : Layout) (earlier : List Node) (n : Node) : Point :=
  match n.point with
  | some point => point
  | none => if l.auto then ⟨l.rowAfter earlier, l.start.y⟩ else l.start

theorem rowAfter_append_of_none {l : Layout} {earlier : List Node} {n : Node}
    (hn : n.point = none) : l.rowAfter (earlier ++ [n]) = l.rowAfter earlier + l.spacing := by
  have hcount : (earlier ++ [n]).countP (fun n => n.point.isNone) =
      earlier.countP (fun n => n.point.isNone) + 1 := by
    simp [List.countP_append, hn]
  rw [rowAfter, hcount, Function.iterate_succ_apply', rowAfter]

def Resumes (l : Layout) (earlier : List Node) (next : Float) : Prop :=
  l.auto = true → next = l.rowAfter earlier

/-- A node that has no place of its own takes the next one in the row, and the row goes on behind
it. -/
theorem place_of_resumes {l : Layout} {earlier : List Node} {next : Float}
    (hnext : l.Resumes earlier next) (n : Node) :
    (l.place next n.point).1 = l.pointAfter earlier n ∧
      l.Resumes (earlier ++ [n]) (l.place next n.point).2 := by
  unfold Resumes at *
  cases hpoint : n.point with
  | some point =>
    refine ⟨by simp [place, pointAfter, hpoint], fun hauto => ?_⟩
    simpa [place, rowAfter, List.countP_append, hpoint] using hnext hauto
  | none =>
    cases hauto : l.auto with
    | false => simp [place, pointAfter, hpoint, hauto]
    | true =>
      refine ⟨by simp [place, pointAfter, hpoint, hauto, hnext hauto], fun _ => ?_⟩
      rw [rowAfter_append_of_none hpoint, ← hnext hauto]
      simp [place, hauto]

end Layout

def Connection.wire (c : Connection) : Wire where
  source := c.source.node
  port := Document.mainPort
  index := portIndex c.source.port
  link := ⟨c.target.node, Document.mainPort, portIndex c.target.port⟩

namespace Workflow

def wiring (w : Workflow) : Wiring :=
  Wiring.addAll [] (w.connections.map Connection.wire)

variable (w : Workflow) (s p : String) (i : Nat)

theorem sorted_wiring : w.wiring.Sorted :=
  Wiring.sorted_nil.addAll _

theorem adds_wiring : Wiring.Adds [] (w.connections.map Connection.wire) w.wiring :=
  Wiring.adds_addAll Wiring.sorted_nil _

theorem mem_names_wiring : s ∈ w.wiring.names ↔ ∃ c ∈ w.connections, c.source.node = s := by
  rw [w.adds_wiring.sources]
  simp [Fields.names, Connection.wire]

theorem outputs?_wiring_eq_none (hp : p ≠ "main") : w.wiring.outputs? s p = none := by
  have hports := (w.adds_wiring.ports s p).not
  rw [Option.not_isSome_iff_eq_none] at hports
  refine hports.mpr ?_
  rintro (hsome | ⟨x, hx, -, hport⟩)
  · cases hsome
  · obtain ⟨c, -, rfl⟩ := List.mem_map.mp hx
    exact hp hport.symm

/-- Each output has the links of the connections that leave from it, in the order of declaration. -/
theorem getD_wiring : (w.wiring.outputs s "main").getD i [] =
    (w.connections.filter fun c => c.source.node = s ∧ portIndex c.source.port = i).map fun c =>
      ⟨c.target.node, "main", portIndex c.target.port⟩ := by
  refine (w.adds_wiring.links s "main" i).trans ?_
  rw [List.filter_map, List.map_map]
  have hfilter : ((fun x : Wire => decide (x.source = s ∧ x.port = "main" ∧ x.index = i)) ∘
      Connection.wire) = fun c => decide (c.source.node = s ∧ portIndex c.source.port = i) := by
    refine funext fun c => decide_eq_decide.mpr ?_
    simp [Connection.wire, Document.mainPort]
  rw [hfilter]
  rfl

theorem exists_of_mem_links_wiring {link : Link} (hlink : link ∈ w.wiring.links) :
    ∃ c ∈ w.connections, c.target.node = link.node := by
  obtain ⟨s, p, i, hlink⟩ := w.sorted_wiring.exists_of_mem_links hlink
  rw [w.adds_wiring.links] at hlink
  obtain ⟨x, hx, rfl⟩ := List.mem_map.mp hlink
  obtain ⟨c, hc, rfl⟩ := List.mem_map.mp (List.mem_filter.mp hx).1
  exact ⟨c, hc, rfl⟩

/-- A node has outputs up to the largest that a connection leaves from. -/
theorem lt_length_wiring_iff : i < (w.wiring.outputs s "main").length ↔
    ∃ c ∈ w.connections, c.source.node = s ∧ i ≤ portIndex c.source.port := by
  rw [w.adds_wiring.length]
  simp [Connection.wire, Document.mainPort, Wiring.outputs, Wiring.outputs?]

end Workflow

namespace Document

variable {h : Host} {ids : IdSource} {o : GenerateOptions} {w : Workflow} {d : Document}

/-- Nodes are made one by one, and each place hangs on the nodes before it. -/
theorem generateNodes_eq_ok {layout : Layout} {s : Scope} {index : Nat} {next : Float}
    {earlier : List Node} (hnext : layout.Resumes earlier next) {entries : List Entry}
    {nodes : List GraphNode}
    (hnodes : generateNodes h ids layout s index next entries = .ok nodes) :
    ∃ ns : List Node, entries = ns.map .node ∧ nodes.length = ns.length ∧
      ∀ i n, ns[i]? = some n → ∃ g, nodes[i]? = some g ∧
        generateNode h ids s (index + i) (layout.pointAfter (earlier ++ ns.take i) n) n =
          .ok g := by
  induction entries generalizing index next earlier nodes with
  | nil =>
    cases hnodes
    exact ⟨[], rfl, rfl, by simp⟩
  | cons entry entries ih =>
    cases entry with
    | module ref => cases hnodes
    | node n =>
      obtain ⟨g, rest, hg, hrest, rfl⟩ := generateNodes_node_eq_ok_iff.mp hnodes
      obtain ⟨hpoint, hresumes⟩ := Layout.place_of_resumes hnext n
      obtain ⟨ns, rfl, hlength, hmade⟩ := ih hresumes hrest
      refine ⟨n :: ns, rfl, by simp [hlength], fun i m hm => ?_⟩
      cases i with
      | zero =>
        obtain rfl : n = m := by simpa using hm
        refine ⟨g, rfl, ?_⟩
        rw [List.take_zero, List.append_nil, ← hpoint]
        exact hg
      | succ i =>
        obtain ⟨g', hg', hmade'⟩ := hmade i m hm
        refine ⟨g', hg', ?_⟩
        rw [List.take_succ_cons, List.append_cons, Nat.add_comm i 1, ← Nat.add_assoc]
        exact hmade'

theorem unknownEndpoint?_eq_none_iff {names : List String} {c : Connection} :
    unknownEndpoint? names c = none ↔ c.source.node ∈ names ∧ c.target.node ∈ names := by
  by_cases hsource : c.source.node ∈ names <;> by_cases htarget : c.target.node ∈ names <;>
    simp [unknownEndpoint?, hsource, htarget]

theorem foldl_connectDeclared (d : Document) (connections : List Connection) :
    connections.foldl connectDeclared d =
      { d with wiring := d.wiring.addAll (connections.map Connection.wire) } := by
  rw [← connectAll_eq, connectAll, List.foldl_map]
  rfl

/-- A document is what the parts of the pipeline come to, if none of them fails. -/
theorem ofWorkflow_eq_ok_iff : ofWorkflow h ids o w = .ok d ↔
    ∃ s nodes, scopeOf h o w = .ok s ∧
      generateNodes h ids o.layout s 0 o.layout.start.x w.entries = .ok nodes ∧
      (∀ c ∈ w.connections, c.source.node ∈ w.nodeNames ∧ c.target.node ∈ w.nodeNames) ∧
      d = { empty w.name ids with nodes, wiring := w.wiring } := by
  simp only [ofWorkflow, bind_eq_ok]
  refine exists_congr fun s => ?_
  rw [exists_and_left]
  refine and_congr_right fun _ => exists_congr fun nodes => and_congr_right fun hnodes => ?_
  rw [map_name_of_generateNodes hnodes]
  change _ ↔ (∀ c ∈ w.connections, _ ∈ w.entries.filterMap Entry.nodeName? ∧ _) ∧ _
  simp only [← unknownEndpoint?_eq_none_iff, Workflow.nodeNames, ← List.findSome?_eq_none_iff]
  cases w.connections.findSome? (unknownEndpoint? (w.entries.filterMap Entry.nodeName?)) with
  | some e => simp
  | none =>
    rw [foldl_connectDeclared]
    simp only [pure, Except.pure, Except.ok.injEq, true_and]
    exact eq_comm

/-- Every entry is a node, and the document has its node at the same index. -/
theorem nodes_of_ofWorkflow (hd : ofWorkflow h ids o w = .ok d) :
    ∃ s, ∃ ns : List Node, w.entries = ns.map .node ∧ d.nodes.length = ns.length ∧
      ∀ i n, ns[i]? = some n → ∃ g, d.nodes[i]? = some g ∧
        generateNode h ids s i (o.layout.pointAfter (ns.take i) n) n = .ok g := by
  obtain ⟨s, nodes, -, hnodes, -, rfl⟩ := ofWorkflow_eq_ok_iff.mp hd
  have hresumes : o.layout.Resumes [] o.layout.start.x := fun _ => rfl
  obtain ⟨ns, hentries, hlength, hmade⟩ := generateNodes_eq_ok hresumes hnodes
  refine ⟨s, ns, hentries, hlength, fun i n hn => ?_⟩
  simpa using hmade i n hn

theorem wiring_of_ofWorkflow (hd : ofWorkflow h ids o w = .ok d) : d.wiring = w.wiring := by
  obtain ⟨s, nodes, -, -, -, rfl⟩ := ofWorkflow_eq_ok_iff.mp hd
  rfl

/-- A document has every declared node once, in the order of declaration, of the kind
that its tag names and at its place; and it has every declared connection once, at the
output that the connection leaves from, those of one output in the order of
declaration. It has no other links. -/
theorem ofWorkflow_keeps_declarations (h : Host) (ids : IdSource) (o : GenerateOptions)
    (w : Workflow) (d : Document) (hd : ofWorkflow h ids o w = .ok d) :
    (∃ ns : List Node, w.entries = ns.map .node ∧ d.nodes.length = ns.length ∧
      ∀ i n, ns[i]? = some n → ∃ g target, d.nodes[i]? = some g ∧
        Target.ofTag? n.tag = some target ∧ g.name = n.name ∧ g.type = target.typeName ∧
        g.version = target.version ∧ g.point = o.layout.pointAfter (ns.take i) n) ∧
    (∀ s, s ∈ d.wiring.names ↔ ∃ c ∈ w.connections, c.source.node = s) ∧
    d.wiring.names.Nodup ∧
    (∀ s p, p ≠ "main" → d.wiring.outputs? s p = none) ∧
    (∀ s i, (d.wiring.outputs s "main").getD i [] =
      (w.connections.filter fun c => c.source.node = s ∧ portIndex c.source.port = i).map fun c =>
        ⟨c.target.node, "main", portIndex c.target.port⟩) ∧
    (∀ s i, i < (d.wiring.outputs s "main").length ↔
      ∃ c ∈ w.connections, c.source.node = s ∧ i ≤ portIndex c.source.port) ∧
    d.connectionCount = w.connections.length := by
  obtain ⟨s, ns, hentries, hlength, hmade⟩ := nodes_of_ofWorkflow hd
  rw [connectionCount, wiring_of_ofWorkflow hd]
  refine ⟨⟨ns, hentries, hlength, fun i n hn => ?_⟩, w.mem_names_wiring,
    w.sorted_wiring.1.imp ne_of_lt, w.outputs?_wiring_eq_none, w.getD_wiring,
    w.lt_length_wiring_iff, ?_⟩
  · obtain ⟨g, hg, hmade⟩ := hmade i n hn
    obtain ⟨target, pairs, htarget, -, rfl⟩ := generateNode_eq_ok_iff.mp hmade
    exact ⟨_, target, hg, htarget, rfl, rfl, rfl, rfl⟩
  · refine w.adds_wiring.count.trans ?_
    simp [Wiring.links]

def forkedNodes : List Node :=
  [⟨"Check", "if", [], none, ⟨2, 3⟩⟩, ⟨"Yes", "noop", [], some ⟨80.0, 40.0⟩, ⟨3, 3⟩⟩,
    ⟨"No", "noop", [], none, ⟨4, 3⟩⟩]

def forked : Workflow where
  name := "Fork"
  params := []
  vars := []
  entries := forkedNodes.map .node
  connections := [⟨⟨"Check", "false"⟩, ⟨"No", "main"⟩, ⟨5, 3⟩⟩,
    ⟨⟨"Check", "true"⟩, ⟨"Yes", "main"⟩, ⟨6, 3⟩⟩]
  pos := ⟨1, 1⟩

theorem ofWorkflow_keeps_forked :
    ∃ d, ofWorkflow { env := fun _ => none, now := "" } (IdSource.ofSeed 1 2) {} forked = .ok d ∧
      (∃ g, d.nodes[0]? = some g ∧ g.name = "Check" ∧ g.type = "n8n-nodes-base.if" ∧
        g.version = 2.0 ∧ g.point = ⟨0.0, 0.0⟩) ∧
      (∃ g, d.nodes[2]? = some g ∧ g.name = "No" ∧ g.type = "n8n-nodes-base.noOp" ∧
        g.version = 1.0 ∧ g.point = ⟨0.0 + 200.0, 0.0⟩) ∧
      (d.wiring.outputs "Check" "main").getD 1 [] = [⟨"No", "main", 0⟩] ∧
      d.connectionCount = 2 := by
  obtain ⟨⟨ns, hns, -, hmade⟩, -, -, -, hlinks, -, hcount⟩ :=
    ofWorkflow_keeps_declarations { env := fun _ => none, now := "" } (IdSource.ofSeed 1 2) {}
      forked _ rfl
  obtain rfl : forkedNodes = ns :=
    List.map_injective_iff.mpr (fun _ _ => Entry.node.inj) hns
  obtain ⟨first, _, hfirst, hbranch, hcheck, hif, htwo, hstart⟩ := hmade 0 _ rfl
  obtain ⟨last, _, hlast, hnoOp, hno, hplain, hone, hnext⟩ := hmade 2 _ rfl
  cases hbranch
  cases hnoOp
  exact ⟨_, rfl, ⟨first, hfirst, hcheck, hif, htwo, hstart⟩,
    ⟨last, hlast, hno, hplain, hone, hnext⟩, (hlinks "Check" 1).trans rfl, hcount⟩

end Document

end FlowGraph
