import FlowGraph.Fields
import Mathlib.Data.String.Basic

/-!
Fields and their names. Fields that are put together are looked up from the front. If the
names are sorted, placing a value keeps them sorted, changes the value of its own name and
leaves all others as they are.
-/

namespace FlowGraph.Fields

variable {α : Type} {fields : Fields α} {name other : String} {change : Option α → α}

def names (fields : Fields α) : List String :=
  fields.map Prod.fst

def Ascending (fields : Fields α) : Prop :=
  fields.names.Pairwise (· < ·)

theorem ascending_nil : Ascending ([] : Fields α) :=
  List.Pairwise.nil

theorem ascending_cons {key : String} {value : α} {rest : Fields α} :
    Ascending ((key, value) :: rest) ↔ (∀ later ∈ rest.names, key < later) ∧ rest.Ascending :=
  List.pairwise_cons

theorem get?_eq_none_iff : fields.get? name = none ↔ name ∉ fields.names := by
  induction fields with
  | nil => simp [names]
  | cons pair rest ih =>
    obtain ⟨key, value⟩ := pair
    by_cases hkey : key = name
    · simp [get?, names, hkey]
    · have hne : name ≠ key := fun heq => hkey heq.symm
      rw [get?, if_neg hkey, ih]
      simp [names, hne]

theorem mem_of_get? {value : α} (hvalue : fields.get? name = some value) :
    (name, value) ∈ fields := by
  induction fields with
  | nil => cases hvalue
  | cons pair rest ih =>
    obtain ⟨key, first⟩ := pair
    rw [get?] at hvalue
    split at hvalue
    · next hkey =>
      cases hvalue
      exact hkey ▸ List.mem_cons_self
    · exact List.mem_cons_of_mem _ (ih hvalue)

/-- A name that is new comes last. -/
theorem set_of_not_mem (hname : name ∉ fields.names) (value : α) :
    fields.set name value = fields ++ [(name, value)] := by
  induction fields with
  | nil => rfl
  | cons pair rest ih =>
    obtain ⟨key, old⟩ := pair
    have hnew : name ≠ key ∧ name ∉ names rest := by
      simpa [names] using hname
    rw [set, if_neg hnew.1.symm, ih hnew.2, List.cons_append]

theorem get?_append (fields more : Fields α) (name : String) :
    get? (fields ++ more) name = (fields.get? name).or (more.get? name) := by
  induction fields with
  | nil => rfl
  | cons pair rest ih =>
    obtain ⟨key, value⟩ := pair
    rw [List.cons_append, get?, get?]
    split
    · rfl
    · exact ih

theorem get?_append_last {front : Fields α} {name : String} (hfront : front.get? name = none)
    (value : α) : get? (front ++ [(name, value)]) name = some value := by
  rw [get?_append, hfront]
  simp [get?]

/-- Names with what is found for them, where something is. -/
theorem get?_filterMap (names : List String) (find : String → Option α) (name : String) :
    get? (names.filterMap fun key => (find key).map fun value => (key, value)) name =
      if name ∈ names then find name else none := by
  induction names with
  | nil => rfl
  | cons key names ih =>
    rw [List.filterMap_cons]
    by_cases hkey : key = name
    · subst hkey
      cases hfind : find key with
      | some value => simp [get?]
      | none => simpa [hfind] using ih
    · have hne : name ≠ key := Ne.symm hkey
      cases hfind : find key with
      | some value => simpa [get?, hkey, hne] using ih
      | none => simpa [hne] using ih

/-- In sorted fields a name stands once, so that looking it up finds every pair. -/
theorem Ascending.get?_eq_some_iff (hfields : fields.Ascending) {value : α} :
    fields.get? name = some value ↔ (name, value) ∈ fields := by
  refine ⟨mem_of_get?, fun hmem => ?_⟩
  induction fields with
  | nil => cases hmem
  | cons pair rest ih =>
    obtain ⟨key, first⟩ := pair
    obtain ⟨hlater, hrest⟩ := ascending_cons.mp hfields
    rcases List.mem_cons.mp hmem with heq | hmem
    · cases heq
      simp [get?]
    · have hlt : key < name := hlater name (List.mem_map_of_mem hmem)
      rw [get?, if_neg hlt.ne]
      exact ih hrest hmem

theorem mem_names_place : other ∈ (fields.place name change).names ↔
    other = name ∨ other ∈ fields.names := by
  induction fields with
  | nil => simp [place, names]
  | cons pair rest ih =>
    obtain ⟨key, value⟩ := pair
    rw [place]
    split
    · next hkey => simp [names, hkey]
    · split
      · simp [names]
      · simp only [names, List.map_cons, List.mem_cons] at ih ⊢
        rw [ih]
        exact or_left_comm

/-- A name is placed behind the smaller ones. -/
theorem Ascending.place (hfields : fields.Ascending) : (fields.place name change).Ascending := by
  induction fields with
  | nil => simp [Fields.place, Ascending, names]
  | cons pair rest ih =>
    obtain ⟨key, value⟩ := pair
    obtain ⟨hlater, hrest⟩ := ascending_cons.mp hfields
    rw [Fields.place]
    split
    · exact ascending_cons.mpr ⟨hlater, hrest⟩
    · next hne =>
      split
      · next hlt =>
        refine ascending_cons.mpr ⟨fun later hmem => ?_, hfields⟩
        rcases List.mem_cons.mp hmem with rfl | hmem
        · exact hlt
        · exact hlt.trans (hlater later hmem)
      · next hnot =>
        refine ascending_cons.mpr ⟨fun later hmem => ?_, ih hrest⟩
        rcases mem_names_place.mp hmem with rfl | hmem
        · exact lt_of_le_of_ne (not_lt.mp hnot) (Ne.symm hne)
        · exact hlater later hmem

/-- Placing changes what one name stands for. -/
theorem get?_place (hfields : fields.Ascending) : (fields.place name change).get? other =
    if other = name then some (change (fields.get? name)) else fields.get? other := by
  induction fields with
  | nil => simp [place, get?, eq_comm]
  | cons pair rest ih =>
    obtain ⟨key, value⟩ := pair
    obtain ⟨hlater, hrest⟩ := ascending_cons.mp hfields
    rw [place]
    split
    · next hkey =>
      subst hkey
      simp only [get?, if_true, eq_comm (a := other)]
      split <;> rfl
    · next hne =>
      have hkey : key ≠ name := fun heq => hne heq.symm
      split
      · next hlt =>
        -- The name is smaller than all that are there, so it was missing.
        have hmissing : get? ((key, value) :: rest) name = none := by
          refine get?_eq_none_iff.mpr fun hmem => ?_
          rcases List.mem_cons.mp hmem with heq | hmem
          · exact hne heq
          · exact lt_asymm hlt (hlater name hmem)
        rw [get?, hmissing]
        simp only [eq_comm (a := other)]
      · rw [get?, ih hrest, get?, get?, if_neg hkey]
        by_cases hother : key = other
        · subst hother
          simp [hkey]
        · simp [hother]

/-- Placing leads from names and values that all fulfil a condition to such ones. -/
theorem forall_mem_place {P : String × α → Prop} (hfields : ∀ pair ∈ fields, P pair)
    (hnew : P (name, change none))
    (hchange : ∀ value, (name, value) ∈ fields → P (name, change (some value))) :
    ∀ pair ∈ fields.place name change, P pair := by
  induction fields with
  | nil => simpa [place] using hnew
  | cons pair rest ih =>
    obtain ⟨key, value⟩ := pair
    obtain ⟨hfirst, hrest⟩ := List.forall_mem_cons.mp hfields
    rw [place]
    split
    · next hkey =>
      subst hkey
      exact List.forall_mem_cons.mpr ⟨hchange value List.mem_cons_self, hrest⟩
    · split
      · exact List.forall_mem_cons.mpr ⟨hnew, hfields⟩
      · refine List.forall_mem_cons.mpr ⟨hfirst, ih hrest fun later hmem => ?_⟩
        exact hchange later (List.mem_cons_of_mem _ hmem)

section Sorted

variable {pairs : List (String × α)}

/-- All the pairs are placed one after the other in sorted fields. -/
theorem Ascending.foldl_place (hfields : fields.Ascending) :
    (pairs.foldl (fun fields pair => fields.place pair.1 fun _ => pair.2) fields).Ascending := by
  induction pairs generalizing fields with
  | nil => exact hfields
  | cons pair pairs ih => exact ih hfields.place

theorem ascending_sorted (pairs : List (String × α)) : (sorted pairs).Ascending :=
  ascending_nil.foldl_place

theorem forall_mem_foldl_place {P : String × α → Prop}
    (hfields : ∀ pair ∈ fields, P pair) (hpairs : ∀ pair ∈ pairs, P pair) :
    ∀ pair ∈ pairs.foldl (fun fields pair => fields.place pair.1 fun _ => pair.2) fields,
      P pair := by
  induction pairs generalizing fields with
  | nil => exact hfields
  | cons pair pairs ih =>
    obtain ⟨hpair, hrest⟩ := List.forall_mem_cons.mp hpairs
    refine ih (forall_mem_place hfields hpair ?_) hrest
    intro value _
    exact hpair

theorem forall_mem_sorted {P : String × α → Prop} (hpairs : ∀ pair ∈ pairs, P pair) :
    ∀ pair ∈ sorted pairs, P pair :=
  forall_mem_foldl_place (by simp) hpairs

end Sorted

/-- What the values hold grows by as much as what the placed value holds. -/
theorem length_flatMap_place {β : Type} (parts : α → List β) (growth : Nat)
    (hchange : ∀ old, (parts (change old)).length = (old.elim [] parts).length + growth) :
    ((fields.place name change).flatMap fun pair => parts pair.2).length =
      (fields.flatMap fun pair => parts pair.2).length + growth := by
  induction fields with
  | nil => simp [place, hchange]
  | cons pair rest ih =>
    obtain ⟨key, value⟩ := pair
    rw [place]
    split
    · simp only [List.flatMap_cons, List.length_append, hchange, Option.elim_some]
      omega
    · split
      · simp only [List.flatMap_cons, List.length_append, hchange, Option.elim_none,
          List.length_nil]
        omega
      · simp only [List.flatMap_cons, List.length_append, ih]
        omega

end FlowGraph.Fields
