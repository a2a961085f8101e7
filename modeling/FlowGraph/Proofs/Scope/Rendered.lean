import FlowGraph.Proofs.Json.Printed
import FlowGraph.Proofs.Scope.Given

/-!
Values that are given as their own texts. The text of a value, read as one of the type that
accepts it, is the value again, and a value that has been read as one of a type is not
changed by reading it so once more.
-/

namespace FlowGraph

theorem Decimal.trim_ofInt (i : Int) : Text.trim (ofInt i) = ofInt i := by
  have hblank (c : Char) (hc : c ∈ ofInt i) : Text.isBlank c = false := by
    rcases isDigit_of_mem_ofInt hc with hdigit | rfl
    · exact Text.not_isBlank_of_isDigit hdigit
    · decide
  refine Text.trim_of_starts_ends ?_ ?_
  · intro c hc
    exact hblank c (List.mem_of_mem_head? hc)
  · intro c hc
    exact hblank c (List.mem_of_getLast? hc)

namespace Json

theorem numberOfText?_render {i : Int} (hi : Decimal.inInt64 i = true) :
    numberOfText? (render (.int i)) = some (.int i) := by
  have htext : (render (.int i)).toList = Decimal.ofInt i := by
    rw [render, compact, compactChars, String.toList_ofList]
    simp
  rw [numberOfText?, htext, Decimal.trim_ofInt, Decimal.int64?_ofInt hi]

theorem Within.ofString?_compact {v : Json} (hv : Within maxLevels v) :
    ofString? v.compact = some v := by
  rw [ofString?, compact, String.toList_ofList]
  exact hv.read?_compactChars

end Json

namespace ParamType

variable {type : ParamType} {v : Json}

/-- The text of a value is read as that value by the type that accepts it. -/
theorem read?_render (haccepts : type.accepts v = true) (hv : v.Within Json.maxLevels) :
    type.read? v.render = some v := by
  cases type with
  | string =>
    cases v with
    | str s => rfl
    | _ => cases haccepts
  | number =>
    cases v with
    | int i =>
      cases hv with
      | int _ hi => rw [read?, Json.numberOfText?_render hi]
    | float x => cases hv
    | _ => cases haccepts
  | boolean =>
    cases v with
    | bool b => cases b <;> rfl
    | _ => cases haccepts
  | array =>
    cases v with
    | arr items => exact Option.filter_eq_some_iff.mpr ⟨hv.ofString?_compact, rfl⟩
    | _ => cases haccepts
  | object =>
    cases v with
    | obj fields => exact Option.filter_eq_some_iff.mpr ⟨hv.ofString?_compact, rfl⟩
    | _ => cases haccepts

/-- Only a text is read, and a type for texts takes it as it stands. -/
theorem coerce_of_accepts (haccepts : type.accepts v = true) : type.coerce v = v := by
  cases v with
  | str s =>
    cases type with
    | string => rfl
    | _ => cases haccepts
  | _ => rfl

/-- What has been read as a value of a type stays that value. -/
theorem coerce_coerce (type : ParamType) (w : Json) :
    type.coerce (type.coerce w) = type.coerce w := by
  cases w with
  | str text =>
    cases hread : type.read? text with
    | none =>
      have hkept : type.coerce (.str text) = .str text := by
        simp [coerce, hread]
      rw [hkept, hkept]
    | some v =>
      have hv : type.coerce (.str text) = v := by
        simp [coerce, hread]
      rw [hv]
      rcases read?_cases hread with haccepts | ⟨rfl, -⟩
      · exact coerce_of_accepts haccepts
      · rfl
  | _ => rfl

/-- A value that a type accepts comes back from its text, with the order of its fields, if its
numbers are integers of 64 bits and it nests at most 127 levels deep. What a value of any kind
is read as stays the same when it is read again. -/
theorem coerce_restores_rendered (type : ParamType) :
    (∀ v : Json, type.accepts v = true → v.Within 127 → type.coerce (.str v.render) = v) ∧
      ∀ w : Json, type.coerce (type.coerce w) = type.coerce w := by
  refine ⟨?_, type.coerce_coerce⟩
  intro v haccepts hv
  simp [coerce, read?_render haccepts hv]

def nested : Json :=
  .obj [("z\"\n", .arr [.int (-0x8000000000000000), .null, .str "\x01\\ é", .arr []]),
    ("a", .obj [("", .bool true)])]

theorem within_nested : nested.Within 127 := by
  have hinner : Json.Within 125 (.arr []) := .arr (by simp)
  have hfirst : Json.Within 126
      (.arr [.int (-0x8000000000000000), .null, .str "\x01\\ é", .arr []]) := by
    refine .arr ?_
    simp only [List.forall_mem_cons, List.not_mem_nil, false_imp_iff, implies_true, and_true]
    exact ⟨.int 125 (by decide), .null 125, .str 125 _, hinner⟩
  have hsecond : Json.Within 126 (.obj [("", .bool true)]) := by
    refine .obj (by decide) ?_
    intro name v hmem
    cases List.mem_singleton.mp hmem
    exact .bool 125 true
  refine .obj (by decide) ?_
  intro name v hmem
  rcases List.mem_pair.mp hmem with heq | heq
  · cases heq
    exact hfirst
  · cases heq
    exact hsecond

theorem coerce_restores_nested :
    ParamType.object.coerce (.str nested.render) = nested ∧
      ParamType.object.coerce (ParamType.object.coerce (.str nested.render)) = nested := by
  obtain ⟨hrestores, hagain⟩ := coerce_restores_rendered .object
  have hnested := hrestores nested rfl within_nested
  refine ⟨hnested, ?_⟩
  rw [hagain, hnested]

end ParamType

end FlowGraph
