import FlowGraph.Proofs.Grammar.Reading
import FlowGraph.Proofs.Text

/-!
The values that tokens and entries stand for. Number texts, texts with spans,
constraints and places are computed while reading; here they are shown to be what
the grammar says they are.
-/

namespace FlowGraph.Grammar

open FlowGraph.Parser

/-- A number text has the value that the grammar gives it, and a text that it gives none has none.
-/
theorem numberValue?_eq_some_iff (text : String) (v : Json) :
    numberValue? text = some v ↔ NumberText text v := by
  constructor
  · intro h
    simp only [numberValue?] at h
    split at h
    · next i hi =>
      split at hi
      · cases hi
      · next hpoint =>
        obtain rfl : Json.int i = v := Option.some.inj h
        exact NumberText.integer i (by simpa using hpoint) hi
    · next hi =>
      split at h
      · next x hx =>
        split at h
        · next hfinite =>
          obtain rfl : Json.float x = v := Option.some.inj h
          refine NumberText.decimal x ?_ hx hfinite
          split at hi
          · next hpoint => exact Or.inl (by simpa using hpoint)
          · exact Or.inr hi
        · cases h
      · cases h
  · intro h
    cases h with
    | integer i hpoint hi => simp [numberValue?, hpoint, hi]
    | decimal x hint hx hfinite =>
      rcases hint with hpoint | hint
      · simp [numberValue?, hpoint, hx, hfinite]
      · simp [numberValue?, hint, hx, hfinite]

theorem ofName?_eq_some_iff (text : String) (type : ParamType) :
    ParamType.ofName? text = some type ↔ type.name = text := by
  constructor
  · intro h
    unfold ParamType.ofName? at h
    split at h <;> cases h <;> rfl
  · rintro rfl
    cases type <;> rfl

def named (es : List (Token × Expr)) : List (String × Expr) :=
  es.map fun (key, e) => (key.text, e)

namespace Restriction

def applyTo (before : Constraints) : Restriction → Constraints
  | .min x => { before with min := some x }
  | .max x => { before with max := some x }
  | .pattern text => { before with pattern := some text }
  | .allowed values => { before with allowed := some values }

theorem foldl_applyTo (rs : List Restriction) (before : Constraints) :
    rs.foldl applyTo before =
      { min := (combined rs).min.or before.min
        max := (combined rs).max.or before.max
        pattern := (combined rs).pattern.or before.pattern
        allowed := (combined rs).allowed.or before.allowed } := by
  induction rs generalizing before with
  | nil => rfl
  | cons r rs ih =>
    rw [List.foldl_cons, ih]
    cases r <;> simp [combined, applyTo, List.filterMap_cons, min?, max?, pattern?, allowed?,
      List.getLast?_cons]

/-- Restrictions that are applied one after the other leave the last one of each kind. -/
theorem foldl_applyTo_empty (rs : List Restriction) : rs.foldl applyTo {} = combined rs := by
  simp [foldl_applyTo]

end Restriction

section Constants

variable {e : Expr}

theorem fold?_float?_eq_some_iff {x : Float} :
    e.fold?.bind Json.float? = some x ↔ FoldsToNumber e x := by
  simp only [Option.bind_eq_some_iff, Expr.fold?_eq_some_iff, FoldsToNumber]

theorem fold?_str?_eq_some_iff {text : String} :
    e.fold?.bind Json.str? = some text ↔ e.Denotes (.str text) := by
  rw [← Expr.fold?_eq_some_iff, Option.bind_eq_some_iff]
  constructor
  · rintro ⟨v, hv, htext⟩
    cases v <;> simp_all [Json.str?]
  · intro hv
    exact ⟨_, hv, rfl⟩

theorem fold?_arr?_eq_some_iff {values : List Json} :
    e.fold?.bind Json.arr? = some values ↔ e.Denotes (.arr values) := by
  rw [← Expr.fold?_eq_some_iff, Option.bind_eq_some_iff]
  constructor
  · rintro ⟨v, hv, hvalues⟩
    cases v <;> simp_all [Json.arr?]
  · intro hv
    exact ⟨_, hv, rfl⟩

end Constants

/-- One entry of a constraint block puts its restriction in the place of earlier ones of its kind.
-/
theorem constrain_eq_ok_iff (before after : Constraints) (key : Token) (e : Expr)
    (first : Option Token) :
    constrain before key e first = .ok after ↔
      ∃ r, Restriction.Of (key.text, e) r ∧ after = r.applyTo before := by
  constructor
  · intro h
    simp only [constrain] at h
    split at h
    · next hkey =>
      split at h
      · next x hx =>
        refine ⟨.min x, ?_, (Except.ok.inj h).symm⟩
        exact hkey ▸ Restriction.Of.min e x (fold?_float?_eq_some_iff.mp hx)
      · cases h
    · next hkey =>
      split at h
      · next x hx =>
        refine ⟨.max x, ?_, (Except.ok.inj h).symm⟩
        exact hkey ▸ Restriction.Of.max e x (fold?_float?_eq_some_iff.mp hx)
      · cases h
    · next hkey =>
      split at h
      · next text htext =>
        refine ⟨.pattern text, ?_, (Except.ok.inj h).symm⟩
        exact hkey ▸ Restriction.Of.pattern e text (fold?_str?_eq_some_iff.mp htext)
      · cases h
    · next hkey =>
      split at h
      · next values hvalues =>
        refine ⟨.allowed values, ?_, (Except.ok.inj h).symm⟩
        exact hkey ▸ Restriction.Of.allowed e values (fold?_arr?_eq_some_iff.mp hvalues)
      · cases h
    · cases h
  · rintro ⟨r, hr, rfl⟩
    generalize hentry : (key.text, e) = entry at hr
    cases hr with
    | min e x hx =>
      obtain ⟨hkey, rfl⟩ := Prod.mk.inj hentry
      simp [constrain, hkey, fold?_float?_eq_some_iff.mpr hx, Restriction.applyTo]
    | max e x hx =>
      obtain ⟨hkey, rfl⟩ := Prod.mk.inj hentry
      simp [constrain, hkey, fold?_float?_eq_some_iff.mpr hx, Restriction.applyTo]
    | pattern e text hs =>
      obtain ⟨hkey, rfl⟩ := Prod.mk.inj hentry
      simp [constrain, hkey, fold?_str?_eq_some_iff.mpr hs, Restriction.applyTo]
    | allowed e values hv =>
      obtain ⟨hkey, rfl⟩ := Prod.mk.inj hentry
      simp [constrain, hkey, fold?_arr?_eq_some_iff.mpr hv, Restriction.applyTo]

theorem point?_eq_some_iff (e : Expr) (p : Point) : point? e = some p ↔ FoldsToPoint e p := by
  unfold FoldsToPoint
  simp only [← Expr.fold?_eq_some_iff]
  constructor
  · intro h
    unfold point? at h
    split at h
    · next a b hfold =>
      split at h
      · next x y hx hy =>
        obtain rfl : Point.mk x y = p := Option.some.inj h
        exact ⟨a, b, hfold, hx, hy⟩
      · cases h
    · cases h
  · rintro ⟨a, b, hfold, hx, hy⟩
    simp [point?, hfold, hx, hy]

/-- Entries named `position` are taken out, and the last of them is the place. -/
theorem splitPoint_eq_ok_iff (before : Option Point) (es : List (Token × Expr))
    (parameters : List (String × Expr)) (point : Option Point) :
    splitPoint before es = .ok (parameters, point) ↔
      parameters = (named es).filter (fun entry => entry.1 ≠ "position") ∧
      ∃ points, List.Forall₂ (fun entry p => FoldsToPoint entry.2 p)
        ((named es).filter fun entry => entry.1 = "position") points ∧
        point = points.getLast?.or before := by
  induction es generalizing before parameters with
  | nil => simp [splitPoint, named, eq_comm]
  | cons pair es ih =>
    obtain ⟨key, e⟩ := pair
    by_cases hkey : key.text = "position"
    · have hnamed : named ((key, e) :: es) = (key.text, e) :: named es := rfl
      rw [splitPoint, if_pos hkey, hnamed, List.filter_cons_of_neg (by simp [hkey]),
        List.filter_cons_of_pos (by simp [hkey])]
      cases hpoint : point? e with
      | none =>
        constructor
        · intro h
          cases h
        · rintro ⟨-, points, hall, -⟩
          cases hall with
          | cons hp _ => simp [(point?_eq_some_iff e _).mpr hp] at hpoint
      | some p =>
        constructor
        · intro h
          obtain ⟨hparameters, points, hall, hlast⟩ := (ih (some p) parameters).mp h
          refine ⟨hparameters, p :: points, List.Forall₂.cons ?_ hall, ?_⟩
          · exact (point?_eq_some_iff e p).mp hpoint
          · rw [hlast, List.getLast?_cons]
            cases points.getLast? <;> rfl
        · rintro ⟨hparameters, points, hall, hlast⟩
          cases hall with
          | @cons _ q _ points hq hall =>
            have hpq : p = q := by
              have hq' := (point?_eq_some_iff e q).mpr hq
              simpa [hpoint] using hq'
            refine (ih (some p) parameters).mpr ⟨hparameters, points, hall, ?_⟩
            rw [hlast, List.getLast?_cons, hpq]
            cases points.getLast? <;> rfl
    · have hnamed : named ((key, e) :: es) = (key.text, e) :: named es := rfl
      rw [splitPoint, if_neg hkey, hnamed, List.filter_cons_of_pos (by simp [hkey]),
        List.filter_cons_of_neg (by simp [hkey])]
      constructor
      · intro h
        obtain ⟨⟨more, q⟩, hsplit, hpair⟩ := bind_eq_ok.mp h
        cases hpair
        obtain ⟨rfl, points, hall, hlast⟩ := (ih before more).mp hsplit
        exact ⟨rfl, points, hall, hlast⟩
      · rintro ⟨rfl, points, hall, hlast⟩
        exact bind_eq_ok.mpr ⟨(_, point), (ih before _).mpr ⟨rfl, points, hall, hlast⟩, rfl⟩

/-- A constraint block is read like any other block, and its entries are combined. -/
theorem constraints_reads_iff {before c : Constraints} {ts rest : List Token} :
    (constraints before ts).Reads c rest ↔
      ∃ es rs, (bodyEntries ts).Reads es rest ∧ List.Forall₂ Restriction.Of (named es) rs ∧
        c = rs.foldl Restriction.applyTo before := by
  match ts with
  | [] => simp [not_constraints_reads_nil, not_bodyEntries_reads_nil]
  | t :: more =>
    by_cases ht : t.kind = .rbrace
    · rw [constraints_reads_close ht]
      simp only [bodyEntries_reads_close ht]
      constructor
      · rintro ⟨rfl, rfl⟩
        exact ⟨[], [], ⟨rfl, rfl⟩, List.Forall₂.nil, rfl⟩
      · rintro ⟨es, rs, ⟨rfl, rfl⟩, hrs, rfl⟩
        cases hrs
        exact ⟨rfl, rfl⟩
    · rw [constraints_reads_cons ht]
      simp only [bodyEntries_reads_cons ht]
      constructor
      · rintro ⟨hk, colon, value, e, after, combined, hmore, hcolon, hexpr, hcombined, hrest⟩
        have hlt : (skip .comma after).val.length < value.length :=
          Nat.lt_of_le_of_lt (skip .comma after).property (reads_length hexpr)
        obtain ⟨r, hr, rfl⟩ := (constrain_eq_ok_iff _ _ _ _ _).mp hcombined
        obtain ⟨es, rs, hentries, hrs, rfl⟩ := constraints_reads_iff.mp hrest
        exact ⟨(t, e) :: es, r :: rs, ⟨hk, colon, value, e, after, es, hmore, hcolon, hexpr,
          hentries, rfl⟩, List.Forall₂.cons hr hrs, rfl⟩
      · rintro ⟨es, rs, ⟨hk, colon, value, e, after, es', hmore, hcolon, hexpr, hentries, rfl⟩,
          hrs, rfl⟩
        have hlt : (skip .comma after).val.length < value.length :=
          Nat.lt_of_le_of_lt (skip .comma after).property (reads_length hexpr)
        obtain _ | ⟨hr, hrs⟩ := hrs
        refine ⟨hk, colon, value, e, after, _, hmore, hcolon, hexpr,
          (constrain_eq_ok_iff _ _ _ _ _).mpr ⟨_, hr, rfl⟩, ?_⟩
        exact constraints_reads_iff.mpr ⟨es', _, hentries, hrs, rfl⟩
termination_by ts.length
decreasing_by
  all_goals
    simp only [List.length_cons, hmore]
    omega

end FlowGraph.Grammar
