import FlowGraph.Proofs.Decimal
import FlowGraph.Proofs.Scope.Binding

/-!
Parameters that are given as texts. A text is read as a value of the declared type; what
does not write such a value stays a text, which only a parameter for texts can have.
Numbers that are not finite are read too, though no data value stands for them: their
texts leave a parameter without a value and pass every constraint. No other text does.
-/

namespace FlowGraph

namespace ParamType

variable {type : ParamType} {text : String} {v : Json}

theorem not_accepts_null (type : ParamType) : type.accepts .null = false := by
  cases type <;> rfl

theorem accepts_number_of_isNumber (hv : v.isNumber = true) :
    ParamType.number.accepts v = true := by
  cases v with
  | int i => rfl
  | float x => rfl
  | _ => cases hv

/-- What is read has the type, unless it is a number that is not finite. -/
theorem read?_cases (hv : type.read? text = some v) :
    type.accepts v = true ∨ v = .null ∧ type = .number ∧ Json.NotFinite text := by
  cases type with
  | string =>
    obtain rfl : Json.str text = v := by simpa [read?] using hv
    exact Or.inl rfl
  | number =>
    rcases Json.numberOfText?_cases hv with hnumber | ⟨hnull, htext⟩
    · exact Or.inl (accepts_number_of_isNumber hnumber)
    · exact Or.inr ⟨hnull, rfl, htext⟩
  | boolean =>
    unfold read? at hv
    dsimp only at hv
    split at hv
    · cases hv
      exact Or.inl rfl
    · cases hv
      exact Or.inl rfl
    · cases hv
  | array => exact Or.inl (Option.filter_eq_some_iff.mp hv).2
  | object => exact Or.inl (Option.filter_eq_some_iff.mp hv).2

/-- Only a number that is not finite is read as null. -/
theorem coerce_text_eq_null_iff :
    type.coerce (.str text) = .null ↔ type = .number ∧ Json.NotFinite text := by
  constructor
  · intro hnull
    cases hread : type.read? text with
    | none => simp [coerce, hread] at hnull
    | some v =>
      obtain rfl : v = .null := by simpa [coerce, hread] using hnull
      rcases read?_cases hread with haccepts | ⟨-, hcase⟩
      · rw [not_accepts_null] at haccepts
        cases haccepts
      · exact hcase
  · rintro ⟨rfl, htext⟩
    have hread : ParamType.number.read? text = some .null := htext.numberOfText?_eq
    simp [coerce, hread]

end ParamType

theorem Param.Admits.ne_null {p : Param} {v : Json} (hv : p.Admits v) : v ≠ .null := by
  rintro rfl
  have htype := hv.type
  rw [ParamType.not_accepts_null] at htype
  cases htype

namespace Scope

variable {s : Scope} {h : Host} {given : Fields Json} {p : Param} {w : Json}

theorem paramValue_of_given (hgiven : given.get? p.name = some w) :
    s.paramValue h given p = .ok (p.type.coerce w) := by
  simp [paramValue, hgiven]

/-- A given value that the declaration admits is bound, and so is null. -/
theorem bindParams_cons_of_given (hgiven : given.get? p.name = some w)
    (hw : p.type.coerce w = .null ∨ p.Admits (p.type.coerce w)) (rest : List Param) :
    s.bindParams h given (p :: rest) =
      bindParams { s with params := s.params.set p.name ⟨p.type, p.type.coerce w⟩ } h given
        rest := by
  have hvalue : s.paramValue h given p = .ok (p.type.coerce w) := paramValue_of_given hgiven
  have hbind := bindParam_eq_ok_iff.mpr ⟨_, hvalue, hw, rfl⟩
  unfold bindParams
  rw [advance, hbind]

/-- Every other value is refused in the name of its parameter. -/
theorem exists_bindParams_cons_refused (hgiven : given.get? p.name = some w)
    (hnull : p.type.coerce w ≠ .null) (hw : ¬ p.Admits (p.type.coerce w)) (rest : List Param) :
    ∃ violation, s.bindParams h given (p :: rest) =
      (s, some (.invalidParameter p.name violation)) := by
  have hviolates : p.violation? (p.type.coerce w) ≠ none := by
    rw [Ne, p.violation?_eq_none_iff]
    exact not_or.mpr ⟨hnull, hw⟩
  obtain ⟨violation, hviolation⟩ := Option.ne_none_iff_exists'.mp hviolates
  refine ⟨violation, ?_⟩
  have hbind : s.bindParam h given p = .error (.invalidParameter p.name violation) := by
    simp [bindParam, paramValue_of_given hgiven, hviolation]
  unfold bindParams
  rw [advance, hbind]

/-- A parameter given as a text is refused in its own name, or bound to a value that its
declaration admits and that is not null. The one exception is a number that is not
finite: it is bound as null, and nothing that the declaration asks for is looked at. -/
theorem bindParams_given_text (s : Scope) (h : Host) (given : Fields Json) (p : Param)
    (text : String) (hgiven : given.get? p.name = some (.str text)) (rest : List Param) :
    (¬ (p.type = .number ∧ Json.NotFinite text) →
      (¬ p.Admits (p.type.coerce (.str text)) ∧ ∃ violation,
        s.bindParams h given (p :: rest) = (s, some (.invalidParameter p.name violation))) ∨
      ∃ v, p.type.coerce (.str text) = v ∧ v ≠ .null ∧ p.Admits v ∧
        s.bindParams h given (p :: rest) =
          bindParams { s with params := s.params.set p.name ⟨p.type, v⟩ } h given rest) ∧
    (p.type = .number ∧ Json.NotFinite text →
      s.bindParams h given (p :: rest) =
        bindParams { s with params := s.params.set p.name ⟨p.type, .null⟩ } h given rest) := by
  constructor
  · intro hfinite
    have hnull : p.type.coerce (.str text) ≠ .null := fun heq =>
      hfinite (ParamType.coerce_text_eq_null_iff.mp heq)
    by_cases hadmits : p.Admits (p.type.coerce (.str text))
    · right
      exact ⟨_, rfl, hnull, hadmits, bindParams_cons_of_given hgiven (Or.inr hadmits) rest⟩
    · left
      exact ⟨hadmits, exists_bindParams_cons_refused hgiven hnull hadmits rest⟩
  · intro hnot
    have hnull : p.type.coerce (.str text) = .null := ParamType.coerce_text_eq_null_iff.mpr hnot
    rw [bindParams_cons_of_given hgiven (Or.inl hnull), hnull]

def bounded : Param where
  name := "x"
  type := .number
  default := none
  required := true
  constraints := { min := some 0, max := some 10 }
  pos := ⟨1, 1⟩

def bareHost : Host where
  env _ := none
  now := ""

/-- A number outside the bounds is refused, and one beyond all numbers is not. -/
theorem bindParams_given_text_bounded :
    (∃ violation, bindParams {} bareHost [("x", .str " 99 ")] [bounded] =
      ({}, some (.invalidParameter "x" violation))) ∧
    bindParams {} bareHost [("x", .str "1e400")] [bounded] =
      ({ params := [("x", ⟨.number, .null⟩)] }, none) := by
  constructor
  · have hfinite : ¬ (bounded.type = .number ∧ Json.NotFinite " 99 ") := by
      rintro ⟨-, hint, -⟩
      revert hint
      decide
    rcases (bindParams_given_text {} bareHost [("x", .str " 99 ")] bounded " 99 " rfl []).1 hfinite
      with ⟨-, hrefused⟩ | ⟨v, rfl, -, hadmits, -⟩
    · exact hrefused
    · exact absurd (by decide) (hadmits.max 10 99 rfl rfl)
  · have hfloat : (Decimal.float? (Text.trim "1e400".toList)).map Float.isFinite = some false := by
      decide +kernel
    have hlarge : Json.NotFinite "1e400" := ⟨by decide, Option.map_eq_some_iff.mp hfloat⟩
    exact (bindParams_given_text {} bareHost [("x", .str "1e400")] bounded "1e400" rfl []).2
      ⟨rfl, hlarge⟩

/-- The bounds of a parameter do not hold back a text that names no number: no violation
is found, and the value that is bound is not admitted. -/
theorem bindParams_nan_passes_bounds :
    bindParams {} bareHost [("x", .str "nan")] [bounded] =
        ({ params := [("x", ⟨.number, .null⟩)] }, none) ∧
      ¬ bounded.Admits .null := by
  refine ⟨rfl, ?_⟩
  intro hnull
  exact hnull.ne_null rfl

end Scope

end FlowGraph
