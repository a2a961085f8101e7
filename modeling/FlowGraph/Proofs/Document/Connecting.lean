import FlowGraph.Document.Form
import FlowGraph.Document.Generate
import FlowGraph.Proofs.Document.Wiring
import Mathlib.Order.Basic

/-!
Documents to which links are added one by one. Whatever the order of nodes, ports and
indices, each output has the links that it had and then those that were added to it, outputs
that are missing before it are there but empty, and all else stays as it was. So a document
that had no links at all gets nothing that holds none.
-/

namespace FlowGraph

theorem exists_of_mem_mapM {α β : Type} {f : α → Option β} {as : List α} {bs : List β}
    (hbs : as.mapM f = some bs) {b : β} (hb : b ∈ bs) : ∃ a ∈ as, f a = some b := by
  induction as generalizing bs with
  | nil =>
    cases hbs
    cases hb
  | cons a as ih =>
    rw [List.mapM_cons] at hbs
    obtain ⟨first, hfirst, hbs⟩ := Option.bind_eq_some_iff.mp hbs
    obtain ⟨rest, hrest, hbs⟩ := Option.bind_eq_some_iff.mp hbs
    cases hbs
    rcases List.mem_cons.mp hb with rfl | hb
    · exact ⟨a, List.mem_cons_self, hfirst⟩
    · obtain ⟨a', ha', hvalue⟩ := ih hrest hb
      exact ⟨a', List.mem_cons_of_mem a ha', hvalue⟩

namespace Outputs

variable {outputs : Outputs} {index : Nat} {link : Link}

def Closed (outputs : Outputs) : Prop :=
  ∃ links ∈ outputs.getLast?, links ≠ []

theorem closed_iff : outputs.Closed ↔ outputs.getD (outputs.length - 1) [] ≠ [] := by
  rw [Closed, List.getLast?_eq_getElem?, List.getD_eq_getElem?_getD]
  cases outputs[outputs.length - 1]? with
  | none => simp
  | some links => simp

/-- A link is added to the last output, or the last output stays as it is. -/
theorem Closed.add (houtputs : outputs = [] ∨ outputs.Closed) :
    (outputs.add index link).Closed := by
  rw [closed_iff, length_add, getD_add]
  split
  · simp
  · next hlast =>
    rcases houtputs with rfl | hclosed
    · simp at hlast
    · have hlength : max outputs.length (index + 1) = outputs.length := by omega
      rw [hlength]
      exact closed_iff.mp hclosed

end Outputs

namespace Wiring

variable {wiring : Wiring} {wires : List Wire} {s p : String}

/-- Every node that is named has a port, and of every port the last output has a link. -/
def Closed (wiring : Wiring) : Prop :=
  ∀ node ∈ wiring, node.2 ≠ [] ∧ ∀ port ∈ node.2, port.2.Closed

theorem closed_nil : Closed [] := by
  simp [Closed]

theorem closed_place (ports : Fields Outputs) (hports : ∀ port ∈ ports, port.2.Closed)
    (p : String) (index : Nat) (link : Link) :
    (ports.place p fun outputs => (outputs.getD []).add index link) ≠ [] ∧
      ∀ port ∈ ports.place p fun outputs => (outputs.getD []).add index link, port.2.Closed := by
  refine ⟨?_, Fields.forall_mem_place hports ?_ ?_⟩
  · intro hnil
    have hname : p ∈ Fields.names
        (ports.place p fun outputs => (outputs.getD []).add index link) :=
      Fields.mem_names_place.mpr (Or.inl rfl)
    rw [hnil] at hname
    cases hname
  · exact Outputs.Closed.add (Or.inl rfl)
  · intro outputs hmem
    exact Outputs.Closed.add (Or.inr (hports (p, outputs) hmem))

/-- A link that is added leaves no node, port or last output without one. -/
theorem Closed.add (hw : wiring.Closed) (x : Wire) :
    (wiring.add x.source x.port x.index x.link).Closed := by
  apply Fields.forall_mem_place hw
  · exact closed_place [] (by simp) x.port x.index x.link
  · intro ports hmem
    exact closed_place ports (hw (x.source, ports) hmem).2 x.port x.index x.link

theorem Closed.addAll (hw : wiring.Closed) (wires : List Wire) : (wiring.addAll wires).Closed := by
  induction wires generalizing wiring with
  | nil => exact hw
  | cons x wires ih => exact ih (hw.add x)

def indices (wires : List Wire) (s p : String) : List Nat :=
  (wires.filter fun x => x.source = s ∧ x.port = p).map Wire.index

theorem mem_indices {i : Nat} :
    i ∈ indices wires s p ↔ ∃ x ∈ wires, x.source = s ∧ x.port = p ∧ x.index = i := by
  simp [indices, and_assoc]

theorem indices_eq_nil_iff :
    indices wires s p = [] ↔ ∀ x ∈ wires, ¬ (x.source = s ∧ x.port = p) := by
  simp [indices]

/-- A port gets as many outputs as its largest index asks for, and loses none. -/
theorem Adds.length_eq {before after : Wiring} (hadds : Adds before wires after) {m : Nat}
    (hm : (indices wires s p).max? = some m) :
    (after.outputs s p).length = max (before.outputs s p).length (1 + m) := by
  obtain ⟨hmem, hlargest⟩ := List.max?_eq_some_iff.mp hm
  refine eq_of_forall_lt_iff fun i => ?_
  rw [hadds.length, lt_max_iff, Nat.add_comm, Nat.lt_succ_iff]
  refine or_congr_right ⟨?_, ?_⟩
  · rintro ⟨x, hx, hs, hp, hi⟩
    have hindex : x.index ≤ m := hlargest x.index (mem_indices.mpr ⟨x, hx, hs, hp, rfl⟩)
    omega
  · intro hi
    obtain ⟨x, hx, hs, hp, rfl⟩ := mem_indices.mp hmem
    exact ⟨x, hx, hs, hp, hi⟩

/-- A port that no link leaves from stays as it is. -/
theorem outputs?_addAll (hw : wiring.Sorted) (huntouched : indices wires s p = []) :
    (wiring.addAll wires).outputs? s p = wiring.outputs? s p := by
  rw [indices_eq_nil_iff] at huntouched
  induction wires generalizing wiring with
  | nil => rfl
  | cons x wires ih =>
    obtain ⟨hx, hrest⟩ := List.forall_mem_cons.mp huntouched
    have hother : ¬ (s = x.source ∧ p = x.port) := fun heq => hx ⟨heq.1.symm, heq.2.symm⟩
    refine (ih hw.add hrest).trans ?_
    rw [outputs?_add hw, if_neg hother]

/-- What is read by name is sorted, and each value is read from some value. -/
theorem sorted?_eq_some {α : Type} {form : Json → Option α} {v : Json} {fields : Fields α}
    (hfields : sorted? form v = some fields) :
    fields.Ascending ∧ ∀ pair ∈ fields, ∃ value, form value = some pair.2 := by
  obtain ⟨given, -, hfields⟩ := Option.bind_eq_some_iff.mp hfields
  obtain ⟨pairs, hpairs, hfields⟩ := Option.bind_eq_some_iff.mp hfields
  cases hfields
  refine ⟨Fields.ascending_sorted pairs, Fields.forall_mem_sorted ?_⟩
  intro pair hpair
  obtain ⟨field, -, hfield⟩ := exists_of_mem_mapM hpairs hpair
  obtain ⟨a, ha, rfl⟩ := Option.map_eq_some_iff.mp hfield
  exact ⟨field.2, ha⟩

/-- A wiring that was read from a data value is sorted by name. -/
theorem sorted_ofJson? {v : Json} (hw : ofJson? v = some wiring) : wiring.Sorted := by
  obtain ⟨hnames, hports⟩ := sorted?_eq_some hw
  refine ⟨hnames, ?_⟩
  intro node hnode
  obtain ⟨value, hvalue⟩ := hports node hnode
  exact (sorted?_eq_some hvalue).1

end Wiring

namespace Document

variable {d : Document}

theorem sorted_wiring_ofJson? {v : Json} (hd : ofJson? v = some d) : d.wiring.Sorted := by
  obtain ⟨fields, -, hd⟩ := Option.bind_eq_some_iff.mp hd
  obtain ⟨nodes, -, hd⟩ := Option.bind_eq_some_iff.mp hd
  obtain ⟨wiring, hwiring, hd⟩ := Option.bind_eq_some_iff.mp hd
  obtain ⟨instanceId, -, hd⟩ := Option.bind_eq_some_iff.mp hd
  obtain ⟨name, -, hd⟩ := Option.bind_eq_some_iff.mp hd
  obtain ⟨active, -, hd⟩ := Option.bind_eq_some_iff.mp hd
  obtain ⟨executionOrder, -, hd⟩ := Option.bind_eq_some_iff.mp hd
  cases hd
  obtain ⟨value, -, hvalue⟩ := Option.bind_eq_some_iff.mp hwiring
  exact Wiring.sorted_ofJson? hvalue

/-- Links that are made one after the other, in a document whose nodes and ports are sorted
by name, as those of a new document are and those of a document that was read. Each output
has the links that it had and behind them the new ones, in order; the links that are counted
are as many more as were made; a port has outputs up to the largest index that was used, or
as many as it had; ports without a new link stay as they are, and so does all that is not
wiring. If there were no links at all, then no node and no port is named without a link, and
no port has an empty output at its end. -/
theorem connectAll_keeps_history :
    (∀ name ids, (empty name ids).wiring.Sorted) ∧
    (∀ v d, ofJson? v = some d → d.wiring.Sorted) ∧
    ∀ (d : Document) (wires : List Wire), d.wiring.Sorted →
      (d.connectAll wires).wiring.Sorted ∧
      (∀ s p i, ((d.connectAll wires).wiring.outputs s p).getD i [] =
        (d.wiring.outputs s p).getD i [] ++
          (wires.filter fun x => x.source = s ∧ x.port = p ∧ x.index = i).map Wire.link) ∧
      (d.connectAll wires).connectionCount = d.connectionCount + wires.length ∧
      (∀ s p m, (Wiring.indices wires s p).max? = some m →
        ((d.connectAll wires).wiring.outputs s p).length =
          max (d.wiring.outputs s p).length (1 + m)) ∧
      (∀ s p, Wiring.indices wires s p = [] →
        (d.connectAll wires).wiring.outputs? s p = d.wiring.outputs? s p) ∧
      (∀ s, s ∈ (d.connectAll wires).wiring.names ↔
        s ∈ d.wiring.names ∨ ∃ x ∈ wires, x.source = s) ∧
      d.connectAll wires = { d with wiring := (d.connectAll wires).wiring } ∧
      (d.wiring = [] → ∀ node ∈ (d.connectAll wires).wiring, node.2 ≠ [] ∧
        ∀ port ∈ node.2, port.2.getLast? ≠ some [] ∧ ∃ links ∈ port.2, links ≠ []) := by
  refine ⟨fun name ids => Wiring.sorted_nil, fun v d => sorted_wiring_ofJson?, ?_⟩
  intro d wires hd
  have hadds := Wiring.adds_addAll hd wires
  rw [connectAll_eq]
  refine ⟨hd.addAll wires, hadds.links, hadds.count, fun s p m => hadds.length_eq,
    fun s p => Wiring.outputs?_addAll hd, hadds.sources, rfl, ?_⟩
  intro hempty node hnode
  rw [hempty] at hnode
  obtain ⟨hports, hclosed⟩ := Wiring.closed_nil.addAll wires node hnode
  refine ⟨hports, ?_⟩
  intro port hport
  obtain ⟨links, hlast, hlinks⟩ := hclosed port hport
  refine ⟨?_, links, List.mem_of_getLast? hlast, hlinks⟩
  intro hnone
  rw [hnone] at hlast
  exact hlinks (Option.some.inj hlast).symm

def halfWired : Document where
  nodes := []
  wiring := [("check", [("main", [[], [⟨"no", "main", 0⟩]])])]
  instanceId := "1"
  name := "half"

def lateWires : List Wire :=
  [⟨"check", "main", 3, ⟨"late", "main", 0⟩⟩, ⟨"start", "main", 0, ⟨"check", "main", 0⟩⟩,
    ⟨"check", "main", 1, ⟨"also", "main", 0⟩⟩]

theorem connectAll_keeps_halfWired :
    ofJson? halfWired.toJson = some halfWired ∧
      ((halfWired.connectAll lateWires).wiring.outputs "check" "main").getD 1 [] =
        [⟨"no", "main", 0⟩, ⟨"also", "main", 0⟩] ∧
      ((halfWired.connectAll lateWires).wiring.outputs "check" "main").length = 4 ∧
      (halfWired.connectAll lateWires).connectionCount = 4 ∧
      (halfWired.connectAll lateWires).wiring.outputs? "check" "error" = none := by
  obtain ⟨-, hread, hall⟩ := connectAll_keeps_history
  have hstored : ofJson? halfWired.toJson = some halfWired := rfl
  obtain ⟨-, hlinks, hcount, hlength, huntouched, -⟩ :=
    hall halfWired lateWires (hread halfWired.toJson halfWired hstored)
  refine ⟨hstored, (hlinks "check" "main" 1).trans (by decide), ?_, hcount,
    (huntouched "check" "error" (by decide)).trans rfl⟩
  rw [hlength "check" "main" 3 (by decide)]
  rfl

end Document

end FlowGraph
