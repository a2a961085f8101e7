import FlowGraph.Document.Form
import FlowGraph.Document.Report
import FlowGraph.Proofs.Document.Content
import FlowGraph.Workflow.Check

/-!
The report on a workflow and the report on its document agree. Of what can be wrong
with a document only two things can come out of generation: that there is no node, and
that two nodes have one name, and both are as the workflow declares them.
-/

namespace FlowGraph

/-- Only the names count for which elements are repeated. -/
theorem map_repeated {α : Type} (name : α → String) (elements : List α) :
    (repeated name elements).map name = repeated id (elements.map name) := by
  have hgo (seen : List String) : (repeated.go name seen elements).map name =
      repeated.go id seen (elements.map name) := by
    induction elements generalizing seen with
    | nil => rfl
    | cons a rest ih =>
      simp only [repeated.go, List.map_cons, id]
      split <;> simp [ih]
  exact hgo []

structure GraphNode.Formed (g : GraphNode) : Prop where
  id : g.id ≠ ""
  name : g.name ≠ ""
  type : g.type ≠ ""
  x : g.point.x.isFinite = true
  y : g.point.y.isFinite = true
  version : g.version.isFinite = true

theorem Uuid.text_ne_empty (u : Uuid) : u.text ≠ "" := by
  intro htext
  have hchars := congrArg String.toList htext
  simp [Uuid.text] at hchars

theorem Target.typeName_ne_empty (t : Target) : t.typeName ≠ "" := by
  cases t <;> decide

theorem Target.isFinite_version (t : Target) : t.version.isFinite = true := by
  cases t <;> decide

namespace Document

namespace Report

variable {g : GraphNode} {nodes : List GraphNode} {names : List String}

theorem nonEmpty?_name (hg : g.Formed) : nonEmpty? g.toJson "name" = some g.name := by
  have hget : g.toJson.get? "name" = some (.str g.name) := rfl
  rw [nonEmpty?, hget]
  exact if_neg hg.name

/-- Nothing is wrong with the data value of a node that is formed. -/
theorem nodeFaults_toJson (hg : g.Formed) (index : Nat) : nodeFaults index g.toJson = [] := by
  have hid : nonEmpty? g.toJson "id" = some g.id := if_neg hg.id
  have htype : nonEmpty? g.toJson "type" = some g.type := if_neg hg.type
  have hpoint : g.toJson.get? "position" =
      some (.arr [.ofFloat g.point.x, .ofFloat g.point.y]) := rfl
  have hparameters : g.toJson.get? "parameters" = some (.obj g.parameters) := rfl
  have hversion : g.toJson.get? "typeVersion" = some (.ofFloat g.version) := rfl
  have hobject (fields : Fields Json) : (Json.obj fields).isObject = true := rfl
  have hnode : g.toJson.isObject = true := rfl
  simp [nodeFaults, hnode, hid, htype, nonEmpty?_name hg, hpoint, hparameters, hversion, hobject,
    isPoint, Json.isNumber, Json.ofFloat, hg.x, hg.y, hg.version]

/-- The scan of a document's nodes remembers every name and that of a workflow's entries
only the new ones; they find the same repetitions. -/
theorem nodesFaults_toJson (hnodes : ∀ g ∈ nodes, g.Formed) (index : Nat)
    {seen known : List String} (hseen : ∀ name, name ∈ seen ↔ name ∈ known) :
    nodesFaults index seen (nodes.map GraphNode.toJson) =
      (repeated.go GraphNode.name known nodes).map fun g => duplicateFault g.name := by
  induction nodes generalizing index seen known with
  | nil => rfl
  | cons g nodes ih =>
    obtain ⟨hg, hrest⟩ := List.forall_mem_cons.mp hnodes
    rw [List.map_cons, nodesFaults, nonEmpty?_name hg]
    simp only [nodeFaults_toJson hg, List.nil_append, repeated.go, List.contains_iff_mem, hseen]
    by_cases hknown : g.name ∈ known
    · have hstill (name : String) : name ∈ g.name :: seen ↔ name ∈ known := by
        rw [List.mem_cons, hseen]
        exact or_iff_right_of_imp fun hname => hname ▸ hknown
      rw [if_pos hknown, if_pos hknown, ih hrest (index + 1) hstill]
      rfl
    · rw [if_neg hknown, if_neg hknown]
      refine ih hrest (index + 1) fun name => ?_
      rw [List.mem_cons, List.mem_cons, hseen]

theorem filterMap_nonEmpty?_toJson (hnodes : ∀ g ∈ nodes, g.Formed) :
    (nodes.map GraphNode.toJson).filterMap (fun node => nonEmpty? node "name") =
      nodes.map GraphNode.name := by
  rw [List.filterMap_map, ← List.filterMap_eq_map]
  exact List.filterMap_congr fun g hg => nonEmpty?_name (hnodes g hg)

theorem targets_toJson (ports : Fields Outputs) :
    targets (ports.map fun (port, outputs) =>
      (port, .arr (outputs.map fun links => .arr (links.map Link.toJson)))) =
      (ports.flatMap fun (_, outputs) => outputs.flatten).map Link.toJson := by
  rw [targets, List.flatMap_map, List.map_flatMap]
  refine List.flatMap_congr fun (port, outputs) _ => ?_
  change (outputs.map fun links => Json.arr (links.map Link.toJson)).flatMap _ = _
  rw [List.flatMap_map, List.map_flatten, List.flatMap_def]
  rfl

theorem connectionsFaults_toJson {wiring : Wiring} (hsources : ∀ s ∈ wiring.names, s ∈ names)
    (hlinks : ∀ link ∈ wiring.links, link.node ∈ names) :
    connectionsFaults names (some wiring.toJson) = [] := by
  rw [Wiring.toJson, connectionsFaults, List.flatMap_map, List.flatMap_eq_nil_iff]
  rintro ⟨source, ports⟩ hmem
  have hsource : source ∈ names := hsources source (List.mem_map_of_mem hmem)
  simp only [sourceFaults, targets_toJson, List.contains_iff_mem, hsource, if_true, List.nil_append,
    List.flatMap_map, List.flatMap_eq_nil_iff]
  intro link hlink
  have htarget : link.node ∈ names := hlinks link (List.mem_flatMap.mpr ⟨_, hmem, hlink⟩)
  have hget : link.toJson.get? "node" = some (.str link.node) := rfl
  simp [targetFaults, hget, htarget]

end Report

end Document

namespace Workflow

variable (w : Workflow)

theorem filter_report_duplicateNode :
    (w.report.filter fun diag => diag.rule = .duplicateNode) = w.duplicateEntries := by
  simp [report, rules, duplicateParameters, duplicateVariables, shadowedParameters,
    duplicateEntries, danglingConnections, unconnectedEntries, duplicate, List.filter_map,
    Function.comp_def, List.filter_flatMap]

/-- The rule on entries speaks of the names that are repeated, in the words of the rule on
documents. -/
theorem map_duplicateEntries :
    (w.duplicateEntries.map fun diag => { message := diag.message, rule := .graphDuplicateNode }) =
      (repeated id (w.entries.map Entry.name)).map Document.Report.duplicateFault := by
  have hwords : "duplicate " ++ "node" ++ " name '" = "duplicate node name '" := rfl
  rw [← map_repeated, duplicateEntries, List.map_map, List.map_map]
  refine List.map_congr_left fun e _ => ?_
  change Diagnostic.mk ("duplicate " ++ "node" ++ " name '" ++ e.name ++ "'") none .error _ = _
  rw [hwords]
  rfl

theorem isError_of_mem_duplicateEntries {diag : Diagnostic} (hdiag : diag ∈ w.duplicateEntries) :
    diag.isError = true := by
  obtain ⟨e, -, rfl⟩ := List.mem_map.mp hdiag
  rfl

end Workflow

namespace Document

variable {h : Host} {ids : IdSource} {o : GenerateOptions} {w : Workflow} {d : Document}

/-- A document has its nodes under the names that they are declared by. -/
theorem map_name_nodes (hd : ofWorkflow h ids o w = .ok d) :
    d.nodes.map GraphNode.name = w.nodeNames := by
  obtain ⟨s, nodes, -, hnodes, -, rfl⟩ := ofWorkflow_eq_ok_iff.mp hd
  exact map_name_of_generateNodes hnodes

theorem map_name_entries (hd : ofWorkflow h ids o w = .ok d) :
    w.entries.map Entry.name = w.nodeNames := by
  obtain ⟨s, ns, hentries, -, -⟩ := nodes_of_ofWorkflow hd
  simp [Workflow.nodeNames, hentries, Entry.name, Entry.nodeName?, Function.comp_def]

/-- Generation gives a node all that it needs, if it has a name and a finite place. -/
theorem formed_of_ofWorkflow (hnames : ∀ name ∈ w.nodeNames, name ≠ "")
    (hd : ofWorkflow h ids o w = .ok d)
    (hfinite : ∀ g ∈ d.nodes, g.point.x.isFinite = true ∧ g.point.y.isFinite = true) :
    ∀ g ∈ d.nodes, g.Formed := by
  obtain ⟨s, ns, hentries, hlength, hmade⟩ := nodes_of_ofWorkflow hd
  intro g hg
  obtain ⟨hx, hy⟩ := hfinite g hg
  have hname : g.name ∈ w.nodeNames := map_name_nodes hd ▸ List.mem_map_of_mem hg
  obtain ⟨i, hi⟩ := List.mem_iff_getElem?.mp hg
  have hlt : i < ns.length := hlength ▸ (List.getElem?_eq_some_iff.mp hi).1
  obtain ⟨g', hg', hmade⟩ := hmade i ns[i] (List.getElem?_eq_getElem hlt)
  obtain rfl : g' = g := Option.some.inj (hg'.symm.trans hi)
  obtain ⟨target, pairs, -, -, rfl⟩ := generateNode_eq_ok_iff.mp hmade
  exact ⟨Uuid.text_ne_empty _, hnames _ hname, target.typeName_ne_empty, hx, hy,
    target.isFinite_version⟩

/-- Nothing is wrong with the connections of a document. -/
theorem connectionsFaults_of_ofWorkflow (hd : ofWorkflow h ids o w = .ok d) :
    Report.connectionsFaults w.nodeNames (some d.wiring.toJson) = [] := by
  obtain ⟨s, nodes, -, -, hends, rfl⟩ := ofWorkflow_eq_ok_iff.mp hd
  refine Report.connectionsFaults_toJson (fun source hsource => ?_) fun link hlink => ?_
  · obtain ⟨c, hc, rfl⟩ := (w.mem_names_wiring source).mp hsource
    exact (hends c hc).1
  · obtain ⟨c, hc, htarget⟩ := w.exists_of_mem_links_wiring hlink
    exact htarget ▸ (hends c hc).2

theorem report_of_formed (hnodes : ∀ g ∈ d.nodes, g.Formed) :
    report d.toJson =
      (if d.nodes.map GraphNode.name = [] then
        [{ message := "workflow must contain at least one node", rule := .graphNodes }] else []) ++
      (repeated id (d.nodes.map GraphNode.name)).map Report.duplicateFault ++
      Report.connectionsFaults (d.nodes.map GraphNode.name) (some d.wiring.toJson) := by
  have hget : d.toJson.get? "nodes" = some (.arr (d.nodes.map GraphNode.toJson)) := rfl
  have hconnections : d.toJson.get? "connections" = some d.wiring.toJson := rfl
  have hempty : (d.nodes.map GraphNode.toJson).isEmpty = true ↔
      d.nodes.map GraphNode.name = [] := by
    simp
  have hduplicates := Report.nodesFaults_toJson hnodes 0 fun name => Iff.refl (name ∈ [])
  rw [report, hget, hconnections]
  simp only [Report.filterMap_nonEmpty?_toJson hnodes, hduplicates, hempty, Report.nodesFault]
  rw [← map_repeated, List.map_map]
  rfl

/-- The report on a document says what the report on its workflow says of repeated
names, in the same words and order, and that there is no node if none is declared. -/
theorem report_ofWorkflow_agrees (h : Host) (ids : IdSource) (o : GenerateOptions) (w : Workflow)
    (d : Document) (hnames : ∀ name ∈ w.nodeNames, name ≠ "") (hd : ofWorkflow h ids o w = .ok d)
    (hfinite : ∀ g ∈ d.nodes, g.point.x.isFinite = true ∧ g.point.y.isFinite = true) :
    report d.toJson =
      (if w.nodeNames = [] then
        [{ message := "workflow must contain at least one node", rule := .graphNodes }] else []) ++
      ((w.report.filter fun diag => diag.rule = .duplicateNode).map fun diag =>
        { message := diag.message, rule := .graphDuplicateNode }) ∧
    (w.nodeNames ≠ [] → (∀ diag ∈ w.report, diag.isError = false) → report d.toJson = []) ∧
    ∀ diag ∈ report d.toJson, diag.rule ≠ .graphConnections ∧ diag.rule ≠ .graphNodeShape := by
  have hreport := report_of_formed (formed_of_ofWorkflow hnames hd hfinite)
  rw [map_name_nodes hd, connectionsFaults_of_ofWorkflow hd, List.append_nil,
    ← map_name_entries hd, ← w.map_duplicateEntries, map_name_entries hd,
    ← w.filter_report_duplicateNode] at hreport
  refine ⟨hreport, fun hsome hclean => ?_, fun diag hdiag => ?_⟩
  · have hnone : (w.report.filter fun diag => diag.rule = .duplicateNode) = [] := by
      refine List.eq_nil_iff_forall_not_mem.mpr fun diag hdiag => ?_
      have herror : diag.isError = true := by
        rw [w.filter_report_duplicateNode] at hdiag
        exact w.isError_of_mem_duplicateEntries hdiag
      simp [hclean diag (List.mem_filter.mp hdiag).1] at herror
    rw [hreport, if_neg hsome, hnone]
    rfl
  · rw [hreport] at hdiag
    rcases List.mem_append.mp hdiag with hdiag | hdiag
    · split at hdiag
      · obtain rfl := List.mem_singleton.mp hdiag
        decide
      · cases hdiag
    · obtain ⟨e, -, rfl⟩ := List.mem_map.mp hdiag
      simp

def twins : Workflow where
  name := "Twins"
  params := []
  vars := []
  entries := [.node ⟨"Twin", "noop", [], none, ⟨2, 3⟩⟩, .node ⟨"Twin", "wait", [], none, ⟨3, 3⟩⟩]
  connections := [⟨⟨"Twin", "main"⟩, ⟨"Twin", "main"⟩, ⟨4, 3⟩⟩]
  pos := ⟨1, 1⟩

theorem report_twins :
    ∃ d, ofWorkflow { env := fun _ => none, now := "" } (IdSource.ofSeed 1 2) {} twins = .ok d ∧
      report d.toJson =
        [{ message := "duplicate node name 'Twin'", rule := .graphDuplicateNode }] := by
  have hmade : ∃ d, ofWorkflow { env := fun _ => none, now := "" } (IdSource.ofSeed 1 2) {} twins =
      .ok d ∧ ∀ g ∈ d.nodes, g.point.x.isFinite = true ∧ g.point.y.isFinite = true :=
    ⟨_, rfl, by decide⟩
  obtain ⟨d, hd, hfinite⟩ := hmade
  obtain ⟨hreport, -, -⟩ := report_ofWorkflow_agrees _ _ _ twins d (by decide) hd hfinite
  exact ⟨d, hd, hreport.trans rfl⟩

end Document

end FlowGraph
