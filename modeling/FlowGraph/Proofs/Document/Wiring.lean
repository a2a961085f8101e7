import FlowGraph.Document
import FlowGraph.Proofs.Fields

/-!
Wirings as what they were made from. A link that is added goes to the end of the
links at its place and nothing else changes, so after any number of links each place
has those that were added there, in order.
-/

namespace FlowGraph

structure Wire where
  source : String
  port : String
  index : Nat
  link : Link

namespace Outputs

variable {outputs : Outputs} {index : Nat} {link : Link}

/-- A link goes to the end of those at its output, and the other outputs keep theirs. -/
theorem getD_add (i : Nat) : (outputs.add index link).getD i [] =
    if i = index then outputs.getD i [] ++ [link] else outputs.getD i [] := by
  fun_induction Outputs.add outputs index link generalizing i with
  | case1 => cases i <;> simp
  | case2 links rest => cases i <;> simp
  | case3 index ih =>
    cases i with
    | zero => simp
    | succ i => simpa using ih i
  | case4 index links rest ih =>
    cases i with
    | zero => simp
    | succ i => simpa using ih i

theorem length_add : (outputs.add index link).length = max outputs.length (index + 1) := by
  fun_induction Outputs.add outputs index link with
  | case1 => simp
  | case2 links rest => simp
  | case3 index ih => simpa using ih
  | case4 index links rest ih =>
    simp only [List.length_cons, ih]
    omega

theorem length_flatten_add :
    (outputs.add index link).flatten.length = outputs.flatten.length + 1 := by
  fun_induction Outputs.add outputs index link with
  | case1 => simp
  | case2 links rest =>
    simp only [List.flatten_cons, List.length_append, List.length_singleton]
    omega
  | case3 index ih => simpa using ih
  | case4 index links rest ih =>
    simp only [List.flatten_cons, List.length_append, ih]
    omega

end Outputs

namespace Wiring

variable {wiring before after : Wiring} {source port s p : String} {index i : Nat} {link : Link}

def Sorted (wiring : Wiring) : Prop :=
  wiring.Ascending ∧ ∀ pair ∈ wiring, pair.2.Ascending

def outputs? (wiring : Wiring) (source port : String) : Option Outputs :=
  (wiring.get? source).bind fun ports => ports.get? port

def outputs (wiring : Wiring) (source port : String) : Outputs :=
  (wiring.outputs? source port).getD []

theorem sorted_nil : Sorted [] :=
  ⟨Fields.ascending_nil, by simp⟩

theorem Sorted.ascending_getD (hw : wiring.Sorted) (s : String) :
    ((wiring.get? s).getD []).Ascending := by
  cases hget : wiring.get? s with
  | none => exact Fields.ascending_nil
  | some ports => exact hw.2 (s, ports) (Fields.mem_of_get? hget)

/-- Nodes and ports stay sorted by name. -/
theorem Sorted.add (hw : wiring.Sorted) : (wiring.add source port index link).Sorted := by
  have hports (ports : Fields Outputs) (hp : ports.Ascending) :
      (ports.place port fun outputs => (outputs.getD []).add index link).Ascending := hp.place
  refine ⟨hw.1.place, Fields.forall_mem_place hw.2 ?_ fun ports hmem => ?_⟩
  · exact hports [] Fields.ascending_nil
  · exact hports ports (hw.2 (source, ports) hmem)

theorem get?_add (hw : wiring.Sorted) : (wiring.add source port index link).get? s =
    if s = source then
      some (((wiring.get? source).getD []).place port fun outputs =>
        (outputs.getD []).add index link)
    else wiring.get? s :=
  Fields.get?_place hw.1

/-- Adding a link changes the outputs of one port of one node. -/
theorem outputs?_add (hw : wiring.Sorted) : (wiring.add source port index link).outputs? s p =
    if s = source ∧ p = port then some ((wiring.outputs source port).add index link)
    else wiring.outputs? s p := by
  rw [outputs?, get?_add hw]
  by_cases hs : s = source
  · subst hs
    rw [if_pos rfl, Option.bind_some, Fields.get?_place (hw.ascending_getD s)]
    have hports (q : String) : ((wiring.get? s).getD []).get? q = wiring.outputs? s q := by
      rw [outputs?]
      cases wiring.get? s <;> rfl
    rw [hports, hports]
    simp [outputs]
  · simp [hs, outputs?]

theorem length_links_add :
    (wiring.add source port index link).links.length = wiring.links.length + 1 := by
  refine Fields.length_flatMap_place (fun ports : Fields Outputs =>
    ports.flatMap fun pair => pair.2.flatten) 1 fun ports => ?_
  refine (Fields.length_flatMap_place List.flatten 1 fun outputs => ?_).trans ?_
  · rw [Outputs.length_flatten_add]
    cases outputs <;> rfl
  · cases ports <;> rfl

theorem Sorted.outputs?_of_mem (hw : wiring.Sorted) {ports : Fields Outputs} {outputs : Outputs}
    (hports : (s, ports) ∈ wiring) (houtputs : (p, outputs) ∈ ports) :
    wiring.outputs? s p = some outputs := by
  rw [outputs?, hw.1.get?_eq_some_iff.mpr hports, Option.bind_some]
  exact Fields.Ascending.get?_eq_some_iff (hw.2 (s, ports) hports) |>.mpr houtputs

/-- Every link stands somewhere in the wiring. -/
theorem Sorted.exists_of_mem_links (hw : wiring.Sorted) (hlink : link ∈ wiring.links) :
    ∃ s p i, link ∈ (wiring.outputs s p).getD i [] := by
  obtain ⟨⟨s, ports⟩, hports, hlink⟩ := List.mem_flatMap.mp hlink
  obtain ⟨⟨p, outputs⟩, houtputs, hlink⟩ := List.mem_flatMap.mp hlink
  obtain ⟨links, hlinks, hlink⟩ := List.mem_flatten.mp hlink
  obtain ⟨i, hi⟩ := List.mem_iff_getElem?.mp hlinks
  refine ⟨s, p, i, ?_⟩
  rw [Wiring.outputs, hw.outputs?_of_mem hports houtputs, Option.getD_some,
    List.getD_eq_getElem?_getD, hi]
  exact hlink

/-- All of the given links are added, in order, and nothing else. -/
structure Adds (before : Wiring) (wires : List Wire) (after : Wiring) : Prop where
  sources : ∀ s, s ∈ after.names ↔ s ∈ before.names ∨ ∃ x ∈ wires, x.source = s
  ports : ∀ s p, (after.outputs? s p).isSome ↔
    (before.outputs? s p).isSome ∨ ∃ x ∈ wires, x.source = s ∧ x.port = p
  links : ∀ s p i, (after.outputs s p).getD i [] = (before.outputs s p).getD i [] ++
    (wires.filter fun x => x.source = s ∧ x.port = p ∧ x.index = i).map Wire.link
  length : ∀ s p i, i < (after.outputs s p).length ↔
    i < (before.outputs s p).length ∨ ∃ x ∈ wires, x.source = s ∧ x.port = p ∧ i ≤ x.index
  count : after.links.length = before.links.length + wires.length

theorem Adds.refl (wiring : Wiring) : Adds wiring [] wiring where
  sources := by simp
  ports := by simp
  links := by simp
  length := by simp
  count := by simp

theorem Adds.trans {between : Wiring} {xs ys : List Wire} (hxs : Adds before xs between)
    (hys : Adds between ys after) : Adds before (xs ++ ys) after where
  sources s := by
    rw [hys.sources, hxs.sources]
    simp only [List.mem_append, or_and_right, exists_or, or_assoc]
  ports s p := by
    rw [hys.ports, hxs.ports]
    simp only [List.mem_append, or_and_right, exists_or, or_assoc]
  links s p i := by
    rw [hys.links, hxs.links, List.filter_append, List.map_append, List.append_assoc]
  length s p i := by
    rw [hys.length, hxs.length]
    simp only [List.mem_append, or_and_right, exists_or, or_assoc]
  count := by
    rw [hys.count, hxs.count, List.length_append]
    omega

/-- One link is added by `Wiring.add`, and nothing else changes. -/
theorem adds_add (hw : wiring.Sorted) (x : Wire) :
    Adds wiring [x] (wiring.add x.source x.port x.index x.link) where
  sources s := by
    rw [add, Fields.mem_names_place]
    simp [eq_comm, or_comm]
  ports s p := by
    rw [outputs?_add hw]
    split
    · next h => simp [h]
    · next h =>
      have hother : ¬ (x.source = s ∧ x.port = p) := fun hx => h ⟨hx.1.symm, hx.2.symm⟩
      simp [hother]
  links s p i := by
    rw [outputs, outputs?_add hw]
    split
    · next h =>
      obtain ⟨rfl, rfl⟩ := h
      rw [Option.getD_some, Outputs.getD_add]
      split
      · next hi => simp [hi]
      · next hi => simp [hi, eq_comm]
    · next h =>
      have hother : ¬ (x.source = s ∧ x.port = p ∧ x.index = i) :=
        fun hx => h ⟨hx.1.symm, hx.2.1.symm⟩
      simp [hother, outputs]
  length s p i := by
    rw [outputs, outputs?_add hw]
    split
    · next h =>
      obtain ⟨rfl, rfl⟩ := h
      rw [Option.getD_some, Outputs.length_add, lt_max_iff, Nat.lt_succ_iff]
      simp [outputs]
    · next h =>
      have hother : ¬ (x.source = s ∧ x.port = p) := fun hx => h ⟨hx.1.symm, hx.2.symm⟩
      simp [← and_assoc, hother, outputs]
  count := length_links_add

def addAll (wiring : Wiring) (wires : List Wire) : Wiring :=
  wires.foldl (fun w x => w.add x.source x.port x.index x.link) wiring

theorem Sorted.addAll (hw : wiring.Sorted) (wires : List Wire) : (wiring.addAll wires).Sorted := by
  induction wires generalizing wiring with
  | nil => exact hw
  | cons x wires ih => exact ih hw.add

/-- After any number of links each place has those that were added there, in order. -/
theorem adds_addAll (hw : wiring.Sorted) (wires : List Wire) :
    Adds wiring wires (wiring.addAll wires) := by
  induction wires generalizing wiring with
  | nil => exact Adds.refl wiring
  | cons x wires ih => exact (adds_add hw x).trans (ih hw.add)

end Wiring

namespace Document

def connectAll (d : Document) (wires : List Wire) : Document :=
  wires.foldl (fun d x => d.connect x.source x.port x.index x.link) d

theorem connectAll_eq (d : Document) (wires : List Wire) :
    d.connectAll wires = { d with wiring := d.wiring.addAll wires } := by
  induction wires generalizing d with
  | nil => rfl
  | cons x wires ih => exact ih (d.connect x.source x.port x.index x.link)

end Document

end FlowGraph
