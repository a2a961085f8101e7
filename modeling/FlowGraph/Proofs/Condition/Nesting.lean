import FlowGraph.Target.Parameters
import Mathlib.Logic.Relation

/-!
Settings within settings. What stands for the conditions of a branch can be an object that
holds conditions itself, to any depth. The conditions are those of the innermost settings,
and so is the combinator: one that is named further out is lost on the way.
-/

namespace FlowGraph

namespace Conditions

variable {s t : Settings}

def Encloses (s t : Settings) : Prop :=
  given? s = some (.obj t) ∧ Fields.has t "conditions" = true

def Innermost (s : Settings) : Prop :=
  ∀ t, ¬ Encloses s t

/-- How conditions are joined if the settings do not say it: as their text says it, else
all of them have to hold. -/
def implied (s : Settings) : Combinator :=
  match given? s with
  | some (.str text) => (ofText text).combinator
  | _ => .all

/-- Settings whose conditions are an object with conditions of its own give way to that object. -/
theorem ofSettings_of_encloses (hst : Encloses s t) : ofSettings s = ofSettings t := by
  obtain ⟨hgiven, hholds⟩ := hst
  rw [ofSettings]
  split
  · next text htext => cases hgiven.symm.trans htext
  · next items hitems => cases hgiven.symm.trans hitems
  · next fields hfields =>
    cases hgiven.symm.trans hfields
    rw [if_pos hholds]
  · next hnone =>
    cases hnone t hgiven

theorem implied_eq_all (hs : ∀ text, given? s ≠ some (.str text)) : implied s = .all := by
  unfold implied
  split
  · next text htext => exact absurd htext (hs text)
  · rfl

/-- Settings that give their conditions themselves are joined as they say, else as it is implied. -/
theorem combinator_of_innermost (hs : Innermost s) :
    (ofSettings s).combinator =
      ((s.text? "combinator").map Combinator.ofText).getD (implied s) := by
  rw [ofSettings]
  split
  · next text htext => rw [implied, htext]
  · next items hitems =>
    rw [implied_eq_all fun text htext => by cases hitems.symm.trans htext]
  · next fields hfields =>
    have hholds : ¬ Fields.has fields "conditions" = true := fun hholds =>
      hs fields ⟨hfields, hholds⟩
    rw [if_neg hholds, implied_eq_all fun text htext => by cases hfields.symm.trans htext]
  · next htext _ _ => rw [implied_eq_all htext]

open Relation

/-- Whatever encloses the innermost settings counts for nothing. -/
theorem ofSettings_of_reaches (hst : ReflTransGen Encloses s t) : ofSettings s = ofSettings t := by
  induction hst with
  | refl => rfl
  | tail _ hlast ih => rw [ih, ofSettings_of_encloses hlast]

theorem Encloses.sizeOf_lt (hst : Encloses s t) : sizeOf t < sizeOf s := by
  have hsize := sizeOf_given?_lt hst.1
  simp only [Json.obj.sizeOf_spec] at hsize
  omega

/-- Enclosed settings are smaller, so there is an end to it. -/
theorem exists_innermost (s : Settings) : ∃ t, ReflTransGen Encloses s t ∧ Innermost t := by
  by_cases hs : Innermost s
  · exact ⟨s, .refl, hs⟩
  · obtain ⟨t, hst⟩ : ∃ t, Encloses s t := by simpa [Innermost] using hs
    obtain ⟨u, htu, hu⟩ := exists_innermost t
    exact ⟨u, .head hst htu, hu⟩
termination_by sizeOf s
decreasing_by exact hst.sizeOf_lt

end Conditions

namespace Target

open Conditions Relation

def combinator? (parameters : Fields Json) : Option Json :=
  (parameters.get? "conditions").bind (·.get? "combinator")

theorem combinator?_branchParameters (ids : Nat → Uuid) (s : Settings) :
    combinator? (branchParameters ids s) = some (.str (ofSettings s).combinator.name) :=
  rfl

theorem combinator?_of_reaches {s t : Settings} (hst : ReflTransGen Encloses s t)
    (ht : Innermost t) (ids : Nat → Uuid) :
    combinator? (branchParameters ids s) =
      some (.str (((t.text? "combinator").map Combinator.ofText).getD (implied t)).name) := by
  rw [combinator?_branchParameters, ofSettings_of_reaches hst, combinator_of_innermost ht]

/-- Settings that give their conditions themselves are joined by the combinator that they
name, in whatever form the conditions come. Around other settings a combinator is lost:
the innermost settings alone decide, by the combinator that they name or, if they name
none, by the one that their conditions imply. There always are innermost settings. -/
theorem branchParameters_combinator (ids : Nat → Uuid) (s : Settings) :
    (∀ c, s.text? "combinator" = some c → Innermost s →
      combinator? (branchParameters ids s) = some (.str (Combinator.ofText c).name)) ∧
    (∀ t c, TransGen Encloses s t → Innermost t → t.text? "combinator" = some c →
      combinator? (branchParameters ids s) = some (.str (Combinator.ofText c).name)) ∧
    (∀ t, ReflTransGen Encloses s t → Innermost t → t.text? "combinator" = none →
      combinator? (branchParameters ids s) = some (.str (implied t).name)) ∧
    ∃ t, ReflTransGen Encloses s t ∧ Innermost t := by
  refine ⟨?_, ?_, ?_, exists_innermost s⟩
  · intro c hc hs
    rw [combinator?_of_reaches .refl hs, hc, Option.map_some, Option.getD_some]
  · intro t c hst ht hc
    rw [combinator?_of_reaches hst.to_reflTransGen ht, hc, Option.map_some, Option.getD_some]
  · intro t hst ht hnone
    rw [combinator?_of_reaches hst ht, hnone, Option.map_none, Option.getD_none]

def doublyNested : Settings :=
  [("combinator", .str " OR "),
    ("conditions", .obj [("conditions", .obj [("conditions", .str "a && b")])])]

theorem branchParameters_combinator_doublyNested :
    Combinator.ofText " OR " = .any ∧
      ∀ ids, combinator? (branchParameters ids doublyNested) = some (.str "and") := by
  have houter : Encloses doublyNested [("conditions", .obj [("conditions", .str "a && b")])] :=
    ⟨rfl, rfl⟩
  have hinner : Encloses [("conditions", .obj [("conditions", .str "a && b")])]
      [("conditions", .str "a && b")] :=
    ⟨rfl, rfl⟩
  have hinnermost : Innermost [("conditions", .str "a && b")] := by
    rintro t ⟨hgiven, -⟩
    cases hgiven
  have himplied : implied [("conditions", .str "a && b")] = .all := by
    decide +kernel
  refine ⟨by decide, fun ids => ?_⟩
  obtain ⟨-, -, hlost, -⟩ := branchParameters_combinator ids doublyNested
  rw [hlost _ (.head houter (.single hinner)) hinnermost rfl, himplied]
  rfl

def nestedList : Settings :=
  [("combinator", .str "or"),
    ("conditions", .obj [("conditions", .arr [.str "a == 1", .str "b == 2"])])]

/-- A combinator beside an object of conditions is not looked at, also if no other one is
named: both conditions have to hold where one would do. -/
theorem branchParameters_drops_combinator :
    nestedList.text? "combinator" = some "or" ∧ Combinator.ofText "or" = .any ∧
      (∀ t, TransGen Encloses nestedList t → t.text? "combinator" = none) ∧
      ∀ ids, combinator? (branchParameters ids nestedList) = some (.str "and") := by
  have houter : Encloses nestedList [("conditions", .arr [.str "a == 1", .str "b == 2"])] :=
    ⟨rfl, rfl⟩
  have hinnermost : Innermost [("conditions", .arr [.str "a == 1", .str "b == 2"])] := by
    rintro t ⟨hgiven, -⟩
    cases hgiven
  refine ⟨rfl, by decide, ?_, fun ids => ?_⟩
  · intro t ht
    obtain ⟨u, ⟨hu, -⟩, hut⟩ := TransGen.head'_iff.mp ht
    cases hu
    rcases ReflTransGen.cases_head hut with rfl | ⟨next, hnext, -⟩
    · rfl
    · exact absurd hnext (hinnermost next)
  · rw [combinator?_of_reaches (.single houter) hinnermost]
    rfl

end Target

end FlowGraph
