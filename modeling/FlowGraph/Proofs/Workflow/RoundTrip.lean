import FlowGraph.Workflow.Form

/-!
The data value of a workflow keeps all of it: reading it gives the workflow back. Only
numbers that the data format does not have are lost, so bounds and places have to be finite.
-/

namespace FlowGraph

namespace Json

theorem nat?_ofNat (n : Nat) : nat? (.ofNat n) = some n := by
  simp [nat?, ofNat]

/-- A finite number is written and read without loss. -/
theorem float?_ofFloat {x : Float} (hx : x.isFinite = true) : (ofFloat x).float? = some x := by
  rw [ofFloat, if_pos hx]
  rfl

theorem ofFloat_ne_null {x : Float} (hx : x.isFinite = true) : ofFloat x ≠ .null := by
  rw [ofFloat, if_pos hx]
  exact Json.noConfusion

section

variable {α : Type} {form : Json → Option α} {value : α → Json}

/-- A list is read item by item as it was written. -/
theorem list?_arr_map {as : List α} (h : ∀ a ∈ as, form (value a) = some a) :
    list? form (.arr (as.map value)) = some as := by
  induction as with
  | nil => rfl
  | cons a as ih =>
    obtain ⟨ha, has⟩ := List.forall_mem_cons.mp h
    have htail : (as.map value).mapM form = some as := ih has
    change List.mapM form (value a :: as.map value) = _
    rw [List.mapM_cons, ha, htail]
    rfl

/-- Null stands for nothing, since nothing else is written so. -/
theorem nullable?_ofOption {o : Option α} (hne : ∀ a ∈ o, value a ≠ .null)
    (h : ∀ a ∈ o, form (value a) = some a) : nullable? form (ofOption value o) = some o := by
  cases o with
  | none => rfl
  | some a =>
    have hform : form (value a) = some a := h a rfl
    have hvalue : value a ≠ .null := hne a rfl
    unfold ofOption nullable?
    split
    · next hnull => exact absurd hnull hvalue
    · rw [hform]
      rfl

end

end Json

namespace Expr

theorem untagged?_tagged (aside : Bool) (tag : String) (v : Json) :
    untagged? aside (tagged tag v) = some (tag, v, aside) := by
  cases aside <;> rfl

theorem toJson_ne_null (e : Expr) : e.toJson ≠ .null := by
  cases e <;> exact Json.noConfusion

theorem formOf?_tagged (aside : Bool) (tag : String) (v : Json) :
    formOf? aside (tagged tag v) =
      match Shape.ofTag? tag with
      | none => none
      | some .literal => some (.literal v)
      | some .ident => v.str?.map .ident
      | some .call => (callParts? v).bind fun (name, args) => (formsOf? aside args).map (.call name)
      | some .template => v.str?.map .template
      | some .object => v.arr?.bind fun entries => (entriesOf? aside entries).map .object
      | some .array => v.arr?.bind fun items => (formsOf? aside items).map .array := by
  rw [formOf?]
  split
  · next hnone =>
    rw [untagged?_tagged] at hnone
    cases hnone
  · next hsome =>
    rw [untagged?_tagged] at hsome
    cases hsome
    cases Shape.ofTag? tag with
    | none => rfl
    | some shape =>
      cases shape with
      | literal | ident | template => rfl
      | call =>
        dsimp only
        split
        · next hparts =>
          rw [hparts]
          rfl
        · next hparts =>
          rw [hparts]
          rfl
      | object => cases v <;> rfl
      | array => cases v <;> rfl

mutual

/-- An expression is read back from its value, be that value set aside or not. -/
theorem formOf?_toJson (aside : Bool) (e : Expr) : formOf? aside e.toJson = some e := by
  cases e with
  | literal v => rw [toJson, formOf?_tagged]; rfl
  | ident name => rw [toJson, formOf?_tagged]; rfl
  | call name args =>
    have hargs := formsOf?_itemsToJson aside args
    rw [toJson, formOf?_tagged]
    change (formsOf? aside (itemsToJson args)).map (Expr.call name) = _
    rw [hargs]
    rfl
  | template text => rw [toJson, formOf?_tagged]; rfl
  | object entries =>
    have hentries := entriesOf?_entriesToJson aside entries
    rw [toJson, formOf?_tagged]
    change (entriesOf? aside (entriesToJson entries)).map Expr.object = _
    rw [hentries]
    rfl
  | array items =>
    have hitems := formsOf?_itemsToJson aside items
    rw [toJson, formOf?_tagged]
    change (formsOf? aside (itemsToJson items)).map Expr.array = _
    rw [hitems]
    rfl

theorem formsOf?_itemsToJson (aside : Bool) (es : List Expr) :
    formsOf? aside (itemsToJson es) = some es := by
  cases es with
  | nil => rw [itemsToJson, formsOf?]
  | cons e es => rw [itemsToJson, formsOf?, formOf?_toJson aside e, formsOf?_itemsToJson aside es]

theorem entriesOf?_entriesToJson (aside : Bool) (entries : List (String × Expr)) :
    entriesOf? aside (entriesToJson entries) = some entries := by
  match entries with
  | [] => rw [entriesToJson, entriesOf?]
  | (name, e) :: entries =>
    rw [entriesToJson, entriesOf?, formOf?_toJson aside e, entriesOf?_entriesToJson aside entries]

end

end Expr

theorem ParamType.ofName?_name (t : ParamType) : ofName? t.name = some t := by
  cases t <;> rfl

theorem Position.ofJson?_toJson (p : Position) : ofJson? p.toJson = some p := by
  simp [ofJson?, toJson, Json.record?, Fields.field?, Fields.get?, Json.nat?_ofNat]

namespace Constraints

/-- Bounds that the data format can write. -/
structure Finite (c : Constraints) : Prop where
  min : ∀ x ∈ c.min, x.isFinite = true
  max : ∀ x ∈ c.max, x.isFinite = true

theorem nullable?_bound {o : Option Float} (ho : ∀ x ∈ o, x.isFinite = true) :
    Json.nullable? Json.float? (.ofOption Json.ofFloat o) = some o :=
  Json.nullable?_ofOption (fun x hx => Json.ofFloat_ne_null (ho x hx))
    fun x hx => Json.float?_ofFloat (ho x hx)

theorem ofJson?_toJson {c : Constraints} (h : c.Finite) : ofJson? c.toJson = some c := by
  have hpattern : Json.nullable? Json.str? (.ofOption Json.str c.pattern) = some c.pattern :=
    Json.nullable?_ofOption (fun _ _ => Json.noConfusion) fun _ _ => rfl
  have hallowed : Json.nullable? Json.arr? (.ofOption Json.arr c.allowed) = some c.allowed :=
    Json.nullable?_ofOption (fun _ _ => Json.noConfusion) fun _ _ => rfl
  simp [ofJson?, toJson, Json.record?, Fields.optional?, Fields.get?, nullable?_bound h.min,
    nullable?_bound h.max, hpattern, hallowed]

end Constraints

theorem Param.ofJson?_toJson {p : Param} (h : p.constraints.Finite) :
    ofJson? p.toJson = some p := by
  have hdefault : Json.nullable? Expr.ofJson? (.ofOption Expr.toJson p.default) = some p.default :=
    Json.nullable?_ofOption (fun e _ => e.toJson_ne_null) fun e _ => e.formOf?_toJson false
  simp [ofJson?, toJson, Json.record?, Fields.field?, Fields.optional?, Fields.get?, Json.str?,
    Json.bool?, Json.choice?, ParamType.ofName?_name, hdefault, Constraints.ofJson?_toJson h,
    Position.ofJson?_toJson]

theorem Variable.ofJson?_toJson (v : Variable) : ofJson? v.toJson = some v := by
  simp [ofJson?, toJson, Json.record?, Fields.field?, Fields.get?, Json.str?, Expr.ofJson?,
    Expr.formOf?_toJson, Position.ofJson?_toJson]

namespace Point

structure Finite (p : Point) : Prop where
  x : p.x.isFinite = true
  y : p.y.isFinite = true

theorem ofJson?_toJson {p : Point} (h : p.Finite) : ofJson? p.toJson = some p := by
  simp [ofJson?, toJson, Json.pair?, Json.float?_ofFloat h.x, Json.float?_ofFloat h.y]

end Point

theorem parametersOfJson?_parametersToJson (parameters : List (String × Expr)) :
    parametersOfJson? (parametersToJson parameters) = some parameters :=
  Expr.entriesOf?_entriesToJson true parameters

namespace Entry

/-- The place of an entry, if it has one, is finite. -/
def Finite : Entry → Prop
  | .node n => ∀ p ∈ n.point, p.Finite
  | .module _ => True

theorem ofJson?_toJson {e : Entry} (h : e.Finite) : ofJson? e.toJson = some e := by
  cases e with
  | node n =>
    have hpoint : Json.nullable? Point.ofJson? (.ofOption Point.toJson n.point) = some n.point :=
      Json.nullable?_ofOption (fun _ _ => Json.noConfusion) fun p hp =>
        Point.ofJson?_toJson (h p hp)
    simp [ofJson?, toJson, kind?, Node.ofJson?, Node.toFields, Json.record?, Fields.field?,
      Fields.optional?, Fields.get?, Json.str?, parametersOfJson?_parametersToJson, hpoint,
      Position.ofJson?_toJson]
  | module m =>
    simp [ofJson?, toJson, kind?, ModuleRef.ofJson?, ModuleRef.toFields, Json.record?,
      Fields.field?, Fields.get?, Json.str?, parametersOfJson?_parametersToJson,
      Position.ofJson?_toJson]

end Entry

theorem Endpoint.ofJson?_toJson (e : Endpoint) : ofJson? e.toJson = some e := by
  simp [ofJson?, toJson, Json.record?, Fields.field?, Fields.get?, Json.str?]

theorem Connection.ofJson?_toJson (c : Connection) : ofJson? c.toJson = some c := by
  simp [ofJson?, toJson, Json.record?, Fields.field?, Fields.get?, Endpoint.ofJson?_toJson,
    Position.ofJson?_toJson]

namespace Workflow

/-- All numbers that a workflow declares beside its expressions are finite. -/
structure Finite (w : Workflow) : Prop where
  params : ∀ p ∈ w.params, p.constraints.Finite
  entries : ∀ e ∈ w.entries, e.Finite

/-- The fields of a workflow are read back one by one. -/
theorem ofBody?_body {w : Workflow} (h : w.Finite) : ofBody? w.body = some w := by
  have hparams : Json.list? Param.ofJson? (.arr (w.params.map Param.toJson)) = some w.params :=
    Json.list?_arr_map fun p hp => Param.ofJson?_toJson (h.params p hp)
  have hvars : Json.list? Variable.ofJson? (.arr (w.vars.map Variable.toJson)) = some w.vars :=
    Json.list?_arr_map fun v _ => v.ofJson?_toJson
  have hentries : Json.list? Entry.ofJson? (.arr (w.entries.map Entry.toJson)) = some w.entries :=
    Json.list?_arr_map fun e he => Entry.ofJson?_toJson (h.entries e he)
  have hconnections : Json.list? Connection.ofJson? (.arr (w.connections.map Connection.toJson)) =
      some w.connections :=
    Json.list?_arr_map fun c _ => c.ofJson?_toJson
  simp [ofBody?, body, Json.record?, Fields.field?, Fields.get?, Json.str?, hparams, hvars,
    hentries, hconnections, Position.ofJson?_toJson]

theorem ofJson?_toJson {w : Workflow} (h : w.Finite) : ofJson? w.toJson = some w := by
  simp [ofJson?, toJson, Json.record?, Fields.field?, Fields.get?, ofBody?_body h]

def Lacks (p q : Param) : Prop :=
  (p.default = none ∧ q.default = some (.literal .null)) ∨
    p.constraints.min.isSome ≠ q.constraints.min.isSome ∨
    p.constraints.max.isSome ≠ q.constraints.max.isSome ∨
    p.constraints.pattern.isSome ≠ q.constraints.pattern.isSome ∨
    p.constraints.allowed.isSome ≠ q.constraints.allowed.isSome

/-- Parameters that differ in such a way are different parameters. -/
theorem Lacks.ne {p q : Param} (h : Lacks p q) : p ≠ q := by
  rintro rfl
  rcases h with ⟨hnone, hsome⟩ | h | h | h | h
  · rw [hnone] at hsome
    cases hsome
  all_goals exact h rfl

/-- The data value of a workflow is read as that workflow again. So two workflows have
different values, in particular if a parameter has no default in one and the literal null in
the other, or a constraint in one only. -/
theorem toJson_keeps_all {w : Workflow} (hw : w.Finite) :
    ofJson? w.toJson = some w ∧
      ∀ v : Workflow, v.Finite → (v.toJson = w.toJson ↔ v = w) ∧
        ∀ (i : Nat) (p q : Param), w.params[i]? = some p → v.params[i]? = some q →
          Lacks p q ∨ Lacks q p → v.toJson ≠ w.toJson := by
  have hinjective {v : Workflow} (hv : v.Finite) (heq : v.toJson = w.toJson) : v = w := by
    have hread := ofJson?_toJson hv
    rw [heq, ofJson?_toJson hw] at hread
    exact (Option.some.inj hread).symm
  refine ⟨ofJson?_toJson hw, ?_⟩
  intro v hv
  refine ⟨⟨hinjective hv, congrArg toJson⟩, ?_⟩
  intro i p q hp hq hlacks heq
  have hsame : p = q := by
    rw [hinjective hv heq, hp] at hq
    exact Option.some.inj hq
  exact hlacks.elim (fun h => h.ne hsame) fun h => h.ne hsame.symm

/-- A workflow with every kind of declaration and of expression. -/
def mixed : Workflow where
  name := "mixed"
  params := [⟨"limit", .number, some (.literal .null), false, { min := some 0.5 }, ⟨2, 3⟩⟩]
  vars := [⟨"all", .array [.ident "limit", .template "$\x7blimit\x7d",
    .call "env" [.literal (.str "A")]], ⟨3, 3⟩⟩]
  entries := [.node ⟨"a", "set", [("v", .object [("k", .literal (.obj [("n", .null)]))])],
    some ⟨1.5, -2.0⟩, ⟨4, 3⟩⟩, .module ⟨"b", "./b.flow", [], ⟨5, 3⟩⟩]
  connections := [⟨⟨"a", "main"⟩, ⟨"b", "main"⟩, ⟨6, 3⟩⟩]
  pos := ⟨1, 1⟩

def mixedUnset : Workflow :=
  { mixed with params := [⟨"limit", .number, none, true, {}, ⟨2, 3⟩⟩] }

theorem finite_mixed : mixed.Finite where
  params := by
    intro p hp
    obtain rfl := List.mem_singleton.mp hp
    exact ⟨by rintro x ⟨⟩; decide, by rintro x ⟨⟩⟩
  entries := by
    intro e he
    rcases List.mem_cons.mp he with rfl | he
    · rintro p ⟨⟩
      exact ⟨by decide, by decide⟩
    · obtain rfl := List.mem_singleton.mp he
      trivial

theorem toJson_keeps_mixed :
    mixed.Finite ∧ mixedUnset.Finite ∧ ofJson? mixed.toJson = some mixed ∧
      mixedUnset.toJson ≠ mixed.toJson := by
  have hunset : mixedUnset.Finite :=
    ⟨by
      intro p hp
      obtain rfl := List.mem_singleton.mp hp
      exact ⟨by rintro x ⟨⟩, by rintro x ⟨⟩⟩, finite_mixed.entries⟩
  obtain ⟨hread, hdistinct⟩ := toJson_keeps_all finite_mixed
  refine ⟨finite_mixed, hunset, hread, ?_⟩
  exact (hdistinct _ hunset).2 0 _ _ rfl rfl (Or.inr (Or.inl ⟨rfl, rfl⟩))

end Workflow

end FlowGraph
