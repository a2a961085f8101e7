import FlowGraph.Document.Report

/-!
Well-formed documents, said of the data value alone, and the report that finds nothing
wrong with exactly these. Nodes are looked at one after the other with the names before
them in mind, connections with the names of all nodes.
-/

namespace FlowGraph.Document

def HasText (v : Json) (key : String) : Prop :=
  ∃ s, v.get? key = some (.str s) ∧ s ≠ ""

structure IsNode (node : Json) : Prop where
  object : ∃ fields, node = .obj fields
  id : HasText node "id"
  name : HasText node "name"
  type : HasText node "type"
  position : ∃ x y, node.get? "position" = some (.arr [x, y]) ∧
    x.isNumber = true ∧ y.isNumber = true
  parameters : ∃ fields, node.get? "parameters" = some (.obj fields)
  version : ∃ v, node.get? "typeVersion" = some v ∧ v.isNumber = true

def Named (nodes : List Json) (name : String) : Prop :=
  ∃ node ∈ nodes, node.get? "name" = some (.str name)

def LeadsTo (nodes : List Json) (target : Json) : Prop :=
  ∃ fields name, target = .obj fields ∧ Fields.get? fields "node" = some (.str name) ∧
    Named nodes name

/-- Every source is a node and has an object of ports. What stands in an array in an
array that is a port leads to a node; all other ports and outputs lead nowhere. -/
def Joins (nodes : List Json) (connections : Json) : Prop :=
  ∃ sources, connections = .obj sources ∧ ∀ source value, (source, value) ∈ sources →
    Named nodes source ∧ ∃ ports, value = .obj ports ∧
      ∀ port outputs targets target, (port, .arr outputs) ∈ ports → .arr targets ∈ outputs →
        target ∈ targets → LeadsTo nodes target

structure HasNodes (document : Json) (nodes : List Json) : Prop where
  field : document.get? "nodes" = some (.arr nodes)
  nonempty : nodes ≠ []
  shape : ∀ node ∈ nodes, IsNode node
  distinct : nodes.Pairwise fun a b => a.get? "name" ≠ b.get? "name"
  joined : ∀ connections, document.get? "connections" = some connections → Joins nodes connections

def WellFormed (document : Json) : Prop :=
  ∃ nodes, HasNodes document nodes

namespace Report

variable {v node target value : Json} {nodes : List Json} {names : List String}
  {key name source : String}

theorem nonEmpty?_eq_some_iff {s : String} :
    nonEmpty? v key = some s ↔ v.get? key = some (.str s) ∧ s ≠ "" := by
  unfold nonEmpty?
  split
  · next t ht =>
    rw [ht]
    by_cases hempty : t = ""
    · subst hempty
      simp only [if_true, Option.some.injEq, Json.str.injEq]
      exact iff_of_false (by simp) fun hs => hs.2 hs.1.symm
    · simp only [if_neg hempty, Option.some.injEq, Json.str.injEq]
      exact ⟨fun hs => ⟨hs, hs ▸ hempty⟩, fun hs => hs.1⟩
  · next hother =>
    refine iff_of_false (by simp) fun hs => ?_
    exact hother s hs.1

theorem nonEmpty?_ne_none_iff : nonEmpty? v key ≠ none ↔ HasText v key := by
  simp only [Option.ne_none_iff_exists', nonEmpty?_eq_some_iff, HasText]

theorem isPoint_eq_true_iff :
    isPoint v = true ↔ ∃ x y, v = .arr [x, y] ∧ x.isNumber = true ∧ y.isNumber = true := by
  unfold isPoint
  split
  · next x y =>
    rw [Bool.and_eq_true]
    constructor
    · exact fun hboth => ⟨x, y, rfl, hboth⟩
    · rintro ⟨_, _, heq, hboth⟩
      cases heq
      exact hboth
  · next hother =>
    refine iff_of_false (by simp) ?_
    rintro ⟨x, y, rfl, -⟩
    exact hother x y rfl

theorem isObject_eq_true_iff : v.isObject = true ↔ ∃ fields, v = .obj fields := by
  cases v <;> simp [Json.isObject]

/-- Nothing is wrong with a data value by itself exactly if it has all that a node has to have. -/
theorem nodeFaults_eq_nil_iff (index : Nat) : nodeFaults index node = [] ↔ IsNode node := by
  have htexts : (∀ key ∈ ["id", "name", "type"], nonEmpty? node key ≠ none) ↔
      HasText node "id" ∧ HasText node "name" ∧ HasText node "type" := by
    simp [nonEmpty?_ne_none_iff]
  by_cases hobject : node.isObject = true
  · have hfaults : nodeFaults index node = [] ↔
        (∀ key ∈ ["id", "name", "type"], nonEmpty? node key ≠ none) ∧
          (node.get? "position").any isPoint = true ∧
          (node.get? "parameters").any Json.isObject = true ∧
          (node.get? "typeVersion").any Json.isNumber = true := by
      simp [nodeFaults, hobject, and_assoc]
    rw [hfaults, htexts]
    simp only [Option.any_eq_true, isPoint_eq_true_iff, isObject_eq_true_iff]
    constructor
    · rintro ⟨⟨hid, hname, htype⟩, ⟨p, hp, x, y, rfl, hx, hy⟩, ⟨q, hq, fields, rfl⟩, hversion⟩
      exact ⟨isObject_eq_true_iff.mp hobject, hid, hname, htype, ⟨x, y, hp, hx, hy⟩,
        ⟨fields, hq⟩, hversion⟩
    · intro hnode
      obtain ⟨x, y, hp, hx, hy⟩ := hnode.position
      obtain ⟨fields, hq⟩ := hnode.parameters
      exact ⟨⟨hnode.id, hnode.name, hnode.type⟩, ⟨_, hp, x, y, rfl, hx, hy⟩,
        ⟨_, hq, fields, rfl⟩, hnode.version⟩
  · refine iff_of_false ?_ fun hnode => hobject (isObject_eq_true_iff.mpr hnode.object)
    simp [nodeFaults, hobject]

/-- The names seen so far carry the induction: a node's name is none of them and none of
those before it. -/
theorem nodesFaults_eq_nil_iff (index : Nat) (seen : List String) (nodes : List Json) :
    nodesFaults index seen nodes = [] ↔
      (∀ node ∈ nodes, IsNode node) ∧
        (nodes.Pairwise fun a b => a.get? "name" ≠ b.get? "name") ∧
        ∀ node ∈ nodes, ∀ name ∈ seen, node.get? "name" ≠ some (.str name) := by
  induction nodes generalizing index seen with
  | nil => simp [nodesFaults]
  | cons node rest ih =>
    by_cases hnode : IsNode node
    · obtain ⟨name, hget, hne⟩ := hnode.name
      have hname : nonEmpty? node "name" = some name := nonEmpty?_eq_some_iff.mpr ⟨hget, hne⟩
      have hfaults : nodesFaults index seen (node :: rest) = [] ↔
          name ∉ seen ∧ nodesFaults (index + 1) (name :: seen) rest = [] := by
        rw [nodesFaults, hname]
        simp [(nodeFaults_eq_nil_iff index).mpr hnode]
      rw [hfaults, ih]
      simp only [List.forall_mem_cons, List.pairwise_cons, hget, Option.some.injEq,
        Json.str.injEq, ne_eq]
      constructor
      · rintro ⟨hnew, hshape, hdistinct, hlater⟩
        refine ⟨⟨hnode, hshape⟩, ⟨fun other hother heq => ?_, hdistinct⟩, ?_,
          fun other hother => (hlater other hother).2⟩
        · exact (hlater other hother).1 heq.symm
        · rintro _ hseen rfl
          exact hnew hseen
      · rintro ⟨⟨-, hshape⟩, ⟨hfirst, hdistinct⟩, hnew, hlater⟩
        refine ⟨fun hseen => hnew name hseen rfl, hshape, hdistinct, fun other hother => ?_⟩
        exact ⟨fun heq => hfirst other hother heq.symm, hlater other hother⟩
    · refine iff_of_false ?_ fun hall => hnode (hall.1 node List.mem_cons_self)
      have hfaults := mt (nodeFaults_eq_nil_iff index).mp hnode
      rw [nodesFaults]
      split <;> simp [hfaults]

theorem mem_targets {ports : Fields Json} :
    target ∈ targets ports ↔ ∃ port outputs targets, (port, .arr outputs) ∈ ports ∧
      .arr targets ∈ outputs ∧ target ∈ targets := by
  have harr (v w : Json) : w ∈ v.arr?.getD [] ↔ ∃ items, v = .arr items ∧ w ∈ items := by
    cases v <;> simp [Json.arr?]
  simp only [targets, List.mem_flatMap, Prod.exists, harr]
  constructor
  · rintro ⟨port, _, hport, _, ⟨outputs, rfl, houtput⟩, links, rfl, htarget⟩
    exact ⟨port, outputs, links, hport, houtput, htarget⟩
  · rintro ⟨port, outputs, links, hport, houtput, htarget⟩
    exact ⟨port, _, hport, _, ⟨outputs, rfl, houtput⟩, links, rfl, htarget⟩

/-- The names that are collected before the connections are looked at. -/
theorem mem_names_iff (hshape : ∀ node ∈ nodes, IsNode node) :
    name ∈ (nodes.filterMap fun node => nonEmpty? node "name") ↔ Named nodes name := by
  simp only [List.mem_filterMap, nonEmpty?_eq_some_iff, Named]
  constructor
  · rintro ⟨node, hnode, hget, -⟩
    exact ⟨node, hnode, hget⟩
  · rintro ⟨node, hnode, hget⟩
    obtain ⟨s, hs, hne⟩ := (hshape node hnode).name
    obtain rfl : name = s := by simpa [hget] using hs
    exact ⟨node, hnode, hget, hne⟩

section Connections

variable (hnames : ∀ name, name ∈ names ↔ Named nodes name)

include hnames

/-- A target is in order exactly if it names a node. -/
theorem targetFaults_eq_nil_iff : targetFaults names source target = [] ↔
    LeadsTo nodes target := by
  have hleads : LeadsTo nodes target ↔
      ∃ name, target.get? "node" = some (.str name) ∧ Named nodes name := by
    cases target <;> simp [LeadsTo, Json.get?]
  rw [hleads]
  unfold targetFaults
  split
  · next name hget => simp [hget, hnames]
  · next hother =>
    refine iff_of_false (by simp) ?_
    rintro ⟨name, hget, -⟩
    exact hother name hget

theorem sourceFaults_eq_nil_iff : sourceFaults names source value = [] ↔
    Named nodes source ∧ ∃ ports, value = .obj ports ∧
      ∀ port outputs targets target, (port, .arr outputs) ∈ ports → .arr targets ∈ outputs →
        target ∈ targets → LeadsTo nodes target := by
  unfold sourceFaults
  rw [List.append_eq_nil_iff]
  refine and_congr (by simp [hnames]) ?_
  split
  · next ports =>
    simp only [List.flatMap_eq_nil_iff, targetFaults_eq_nil_iff hnames, mem_targets,
      Json.obj.injEq, exists_eq_left']
    constructor
    · intro hall port outputs targets target hport houtput htarget
      exact hall target ⟨port, outputs, targets, hport, houtput, htarget⟩
    · rintro hall target ⟨port, outputs, targets, hport, houtput, htarget⟩
      exact hall port outputs targets target hport houtput htarget
  · next hother =>
    refine iff_of_false (by simp) ?_
    rintro ⟨ports, rfl, -⟩
    exact hother ports rfl

/-- Connections are in order if there are none, or if they join the nodes. -/
theorem connectionsFaults_eq_nil_iff (connections : Option Json) :
    connectionsFaults names connections = [] ↔
      ∀ value, connections = some value → Joins nodes value := by
  unfold connectionsFaults
  split
  · simp
  · next sources =>
    simp only [List.flatMap_eq_nil_iff, Prod.forall, sourceFaults_eq_nil_iff hnames,
      Option.some.injEq, forall_eq', Joins, Json.obj.injEq, exists_eq_left']
  · next value hother =>
    refine iff_of_false (by simp) fun hall => ?_
    obtain ⟨sources, rfl, -⟩ := hall value rfl
    exact hother sources rfl

end Connections

end Report

theorem wellFormed_iff_of_nodes {document : Json} {nodes : List Json}
    (hnodes : document.get? "nodes" = some (.arr nodes)) :
    WellFormed document ↔ nodes ≠ [] ∧
      ((∀ node ∈ nodes, IsNode node) ∧
        (nodes.Pairwise fun a b => a.get? "name" ≠ b.get? "name")) ∧
      ∀ connections, document.get? "connections" = some connections →
        Joins nodes connections := by
  constructor
  · rintro ⟨others, h⟩
    obtain rfl : nodes = others := by simpa [hnodes] using h.field
    exact ⟨h.nonempty, ⟨h.shape, h.distinct⟩, h.joined⟩
  · rintro ⟨hsome, ⟨hshape, hdistinct⟩, hjoined⟩
    exact ⟨nodes, hnodes, hsome, hshape, hdistinct, hjoined⟩

/-- Nothing is wrong with a document exactly if it is well formed. -/
theorem report_eq_nil_iff_wellFormed (document : Json) :
    report document = [] ↔ WellFormed document := by
  unfold report
  split
  · next nodes hnodes =>
    have hnone : (if nodes.isEmpty then
        [Report.nodesFault "workflow must contain at least one node"] else []) = [] ↔
          nodes ≠ [] := by
      simp
    have hscan := Report.nodesFaults_eq_nil_iff 0 [] nodes
    simp only [List.not_mem_nil, false_imp_iff, implies_true, and_true] at hscan
    rw [wellFormed_iff_of_nodes hnodes]
    dsimp only
    rw [List.append_eq_nil_iff, List.append_eq_nil_iff, hnone, hscan, and_assoc]
    -- Once the nodes are in order, the collected names are exactly those of the nodes.
    refine and_congr_right fun _ => and_congr_right fun hshape => ?_
    exact Report.connectionsFaults_eq_nil_iff (fun _ => Report.mem_names_iff hshape.1) _
  · next hother =>
    refine iff_of_false (by simp) ?_
    rintro ⟨nodes, h⟩
    exact hother nodes h.field

-- A port that is no array and an output that is none are passed over.
example : report (.obj
    [("nodes", .arr [.obj
      [("id", .str "1"), ("name", .str "a"), ("type", .str "noop"),
        ("position", .arr [.int 0, .float 0.5]), ("parameters", .obj []),
        ("typeVersion", .int 1)]]),
      ("connections", .obj
        [("a", .obj
          [("main", .arr [.arr [.obj [("node", .str "a")]], .null]), ("error", .str "b")])])]) =
    [] := by
  rfl

end FlowGraph.Document
