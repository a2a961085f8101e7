import FlowGraph.Proofs.Grammar.Acceptance
import FlowGraph.Proofs.Grammar.Sharpness
import Mathlib.Data.List.TakeWhile

/-!
A failed reading of a workflow points at the first token that cannot stand where
it stands. What comes before that token is the beginning of a workflow that is
read, and no list of tokens that goes on to include it is read.

Three faults are of another kind and stay outside: the value of a constraint and
the value of a `position` entry are looked at only after they have been read, and
a template without quotes that does not end is blamed on its start.
-/

namespace FlowGraph.Grammar

def Declared (ts : List Token) : Prop :=
  ∃ ps vs es cs, Declarations ts ps vs es cs

inductive OpensConstraints : List Token → Prop
  | mk (keyword name typeName opening : Token) (value after : List Token) (type : ParamType)
      (default : Option Expr) (hk : keyword.kind = .param) (hn : name.kind = .identifier)
      (ht : typeName.kind = .identifier) (htype : type.name = typeName.text)
      (hd : Default value default) (ho : opening.kind = .lbrace) :
      OpensConstraints (keyword :: name :: typeName :: value ++ opening :: after)

inductive OpensPosition : List Token → Prop
  | mk (keyword name tag opening key colon : Token) (inner after : List Token)
      (entries : List (String × Expr)) (hk : keyword.kind = .node) (hn : name.kind = .identifier)
      (ht : tag.kind = .string) (ho : opening.kind = .lbrace) (hi : Entries inner entries)
      (hkey : key.kind = .identifier) (htext : key.text = "position") (hc : colon.kind = .colon) :
      OpensPosition (keyword :: name :: tag :: opening :: inner ++ key :: colon :: after)

inductive Somewhere (P : List Token → Prop) : List Token → Prop
  | mk (keyword name opening : Token) (before rest : List Token) (hk : keyword.kind = .workflow)
      (hn : name.kind = .string) (ho : opening.kind = .lbrace) (hb : Declared before)
      (hr : P rest) : Somewhere P (keyword :: name :: opening :: before ++ rest)

def HasConstraintBlock : List Token → Prop :=
  Somewhere OpensConstraints

def HasPositionEntry : List Token → Prop :=
  Somewhere OpensPosition

end FlowGraph.Grammar

namespace FlowGraph.Parser

open Reader Grammar

def readType : Reader ParamType :=
  (oneOf [.identifier] .paramType).andThen fun t rest =>
    match ParamType.ofName? t.text with
    | none => .error ⟨.knownType, some t⟩
    | some type => .ok (type, rest)

def readDefault : Reader (Option Expr) := fun ts => outcome (default? ts)

def readConstraintBlock : Reader Constraints := fun ts => outcome (constraintBlock ts)

def readTyped : Reader (ParamType × Option Expr) :=
  readType.andThen fun type => readDefault.map (type, ·)

def readPort : Reader String := fun ts => outcome (port ts)

def readEndpoint (expected : Expected) : Reader Endpoint := fun ts =>
  outcome (endpoint expected ts)

def placeNode (pos : Position) (name tag : Token) (es : List (Token × Expr)) : Reader Node :=
  fun ts =>
    match splitPoint none es with
    | .error fault => .error fault
    | .ok (parameters, point) =>
      .ok ({ name := name.text, tag := tag.text, parameters, point, pos }, ts)

def readParam (pos : Position) : Reader Param := fun ts => outcome (param pos ts)

def readVar (pos : Position) : Reader Variable := fun ts => outcome (var pos ts)

def readNode (pos : Position) : Reader Node := fun ts => outcome (node pos ts)

def readModule (pos : Position) : Reader ModuleRef := fun ts => outcome (moduleRef pos ts)

def readConnection (pos : Position) : Reader Connection := fun ts => outcome (connection pos ts)

def readStatement : Reader Statement
  | [] => .error ⟨.statement, none⟩
  | t :: rest => outcome (statement t rest)

def readStatements : Reader (List Statement) := fun ts => outcome (statements ts)

section Equations

variable {pos : Position}

/-- Reading a parameter is reading its parts one after the other. -/
theorem readParam_eq :
    readParam pos = (oneOf [.identifier] .paramName).andThen fun name =>
      readTyped.andThen fun (type, default) =>
        readConstraintBlock.map fun constraints =>
          { name := name.text, type, default, required := default.isNone, constraints, pos } := by
  funext ts
  refine outcome_bind outcome_expect fun name afterName _ => ?_
  rw [readTyped, andThen_assoc, readType, andThen_assoc]
  refine outcome_bind outcome_expect fun typeName afterType _ => ?_
  dsimp only [andThen]
  cases ParamType.ofName? typeName.text with
  | none => rfl
  | some type =>
    change outcome (default? afterType >>= _) =
      (readDefault.map (type, ·)).andThen _ afterType
    rw [map_andThen]
    exact outcome_bind rfl fun default afterDefault _ =>
      outcome_bind rfl fun constraints rest _ => rfl

theorem readVar_eq :
    readVar pos = (oneOf [.identifier] .variableName).andThen fun name =>
      (oneOf [.equals] .variableEquals).andThen fun _ =>
        readExpr.map fun value => { name := name.text, value, pos } := by
  funext ts
  exact outcome_bind outcome_expect fun name afterName _ =>
    outcome_bind outcome_expect fun equals value _ => outcome_bind rfl fun e rest _ => rfl

theorem readNode_eq :
    readNode pos = (oneOf [.identifier] .nodeName).andThen fun name =>
      (oneOf [.string] .nodeType).andThen fun tag =>
        readBody.andThen (placeNode pos name tag) := by
  funext ts
  refine outcome_bind outcome_expect fun name afterName _ =>
    outcome_bind outcome_expect fun tag afterTag _ => outcome_bind rfl fun es rest _ => ?_
  unfold placeNode
  dsimp only
  cases splitPoint none es with
  | error fault => rfl
  | ok result => rfl

theorem readModule_eq :
    readModule pos = (oneOf [.identifier] .moduleName).andThen fun name =>
      (oneOf [.equals] .moduleEquals).andThen fun _ =>
        (oneOf [.string] .modulePath).andThen fun path =>
          readBody.map fun es =>
            { name := name.text, path := path.text,
              parameters := es.map fun (key, e) => (key.text, e), pos } := by
  funext ts
  exact outcome_bind outcome_expect fun name afterName _ =>
    outcome_bind outcome_expect fun equals afterEquals _ =>
      outcome_bind outcome_expect fun path afterPath _ => outcome_bind rfl fun es rest _ => rfl

theorem readEndpoint_eq {expected : Expected} :
    readEndpoint expected = (oneOf [.identifier] expected).andThen fun node =>
      readPort.map (⟨node.text, ·⟩) := by
  funext ts
  exact outcome_bind outcome_expect fun node afterNode _ => outcome_bind rfl fun port rest _ => rfl

theorem readConnection_eq :
    readConnection pos = (readEndpoint .sourceName).andThen fun source =>
      (oneOf [.arrow] .arrow).andThen fun _ =>
        (readEndpoint .targetName).map fun target => { source, target, pos } := by
  funext ts
  exact outcome_bind rfl fun source afterSource _ =>
    outcome_bind outcome_expect fun arrow afterArrow _ =>
      outcome_bind rfl fun target rest _ => rfl

/-- Statements are read in a loop that ends at the closing brace. -/
theorem loops_readStatements :
    Loops .rbrace (readStatement.separated .semicolon) readStatements where
  ends t more ht := outcome_eq_ok.mpr ((statements_reads_close ht).mpr ⟨rfl, rfl⟩)
  repeats ts hts := by
    rw [separated_andThen]
    cases ts with
    | nil =>
      rw [readStatements, statements]
      rfl
    | cons t more =>
      rw [readStatements, statements, if_neg (notFirst_cons.mp hts)]
      refine outcome_bind ?_ fun s after _ => outcome_bind rfl fun ss final _ => rfl
      rfl

end Equations

theorem completes_readType :
    Completes readType [⟨.identifier, "string", .start⟩] .string :=
  ⟨by simp, fun _ => rfl⟩

/-- A name that is no type is a fault of its own token. -/
theorem sharp_readType {ts : List Token} : Sharp [] [] (fun _ => True) readType ts := by
  by_cases hts : NotFirst .identifier ts
  · refine sharp_of_stop .paramType trivial (fun us hus => ?_) completes_readType ⟨_, rfl, by simp⟩
    cases us with
    | nil => rfl
    | cons u us =>
      have hu : u.kind ≠ .identifier := hts u hus.symm
      exact andThen_of_error (by simp [oneOf, hu])
  · obtain ⟨t, rest, rfl, ht⟩ := exists_cons_of_not_notFirst hts
    have hread (more : List Token) :
        readType (t :: more) = match ParamType.ofName? t.text with
          | none => .error ⟨.knownType, some t⟩
          | some type => .ok (type, more) :=
      andThen_of_ok (oneOf_eq_ok.mpr ⟨rfl, by simp [ht]⟩)
    cases hof : ParamType.ofName? t.text with
    | none =>
      refine sharp_of_stop .knownType trivial (fun us hus => ?_) completes_readType
        ⟨_, rfl, by simp⟩
      obtain ⟨more, rfl⟩ := List.head?_eq_some_iff.mp hus
      simp [hread, hof]
    | some type => exact sharp_of_token (a := type) trivial fun more => by simp [hread, hof]

theorem completes_readDefault :
    Completes readDefault [mark .equals, mark .null] (some (.literal .null)) :=
  ⟨by simp, fun rest => outcome_eq_ok.mpr ((default?_leaves_present rfl).mpr
    ⟨_, (expr_reads_null rfl).mpr ⟨rfl, rfl⟩, rfl⟩)⟩

/-- After an equals sign an expression has to come; else there is nothing to read. -/
theorem sharp_readDefault {ts : List Token} :
    Sharp joining [] (fun _ => True) readDefault ts := by
  by_cases hts : NotFirst .equals ts
  · refine sharp_of_absent none trivial (by decide) (fun us hus => ?_) hts
    exact outcome_eq_ok.mpr ((default?_leaves_absent hus).mpr ⟨rfl, rfl⟩)
  · obtain ⟨t, rest, rfl, ht⟩ := exists_cons_of_not_notFirst hts
    have hvalue : Sharp joining [] (fun _ => True) (readExpr.map some) rest :=
      (sharpExpr rest [] (by simp)).map fun _ _ => trivial
    refine hvalue.behind [t] (by simp) fun us => ?_
    change outcome (default? (t :: us)) = _
    rw [default?, if_pos ht]
    exact outcome_bind rfl fun e after _ => rfl

theorem completes_readConstraintBlock :
    Completes readConstraintBlock [mark .lbrace, mark .rbrace] {} :=
  ⟨by simp, fun rest => outcome_eq_ok.mpr ((constraintBlock_leaves_present rfl).mpr
    ((constraints_reads_close rfl).mpr ⟨rfl, rfl⟩))⟩

/-- Where no block of constraints stands there is nothing to read. -/
theorem sharp_readConstraintBlock {ts : List Token} (hts : NotFirst .lbrace ts) :
    Sharp joining joining (fun _ => True) readConstraintBlock ts := by
  refine sharp_of_absent {} trivial (by decide) (fun us hus => ?_) hts
  exact outcome_eq_ok.mpr ((constraintBlock_leaves_absent hus).mpr ⟨rfl, rfl⟩)

theorem readPort_dot {t : Token} {more : List Token} (ht : t.kind = .dot) :
    readPort (t :: more) = (oneOf [.identifier, .boolean] .portName).map Token.text more := by
  cases more with
  | nil => simp [readPort, port, ht, stop, outcome, Except.map, Reader.map, andThen, oneOf]
  | cons u more =>
    by_cases hu : u.kind = .identifier ∨ u.kind = .boolean
    · have hport : Leaves (port (t :: u :: more)) u.text more :=
        (port_leaves_present ht).mpr ⟨u, rfl, hu, rfl⟩
      have hone : oneOf [.identifier, .boolean] .portName (u :: more) = .ok (u, more) :=
        oneOf_eq_ok.mpr ⟨rfl, by simpa using hu⟩
      rw [Reader.map, andThen_of_ok hone]
      exact outcome_eq_ok.mpr hport
    · have hone : oneOf [.identifier, .boolean] .portName (u :: more) =
          .error ⟨.portName, some u⟩ := by
        simp [oneOf, hu]
      rw [Reader.map, andThen_of_error hone]
      simp [readPort, port, ht, hu, stop, outcome, Except.map]

theorem completes_readPort : Completes readPort [mark .dot, mark .identifier] "" :=
  ⟨by simp, fun rest => outcome_eq_ok.mpr ((port_leaves_present rfl).mpr
    ⟨mark .identifier, rfl, Or.inl rfl, rfl⟩)⟩

theorem sharp_readPort {ts : List Token} : Sharp joining [] (fun _ => True) readPort ts := by
  by_cases hts : NotFirst .dot ts
  · refine sharp_of_absent "main" trivial (by decide) (fun us hus => ?_) hts
    exact outcome_eq_ok.mpr ((port_leaves_absent hus).mpr ⟨rfl, rfl⟩)
  · obtain ⟨t, rest, rfl, ht⟩ := exists_cons_of_not_notFirst hts
    have hname : Sharp joining [] (fun _ => True) (oneOf [.identifier, .boolean] .portName) rest :=
      sharp_oneOf .identifier (by simp) (by decide) (by simp)
    exact (hname.map (f := Token.text) fun _ _ => trivial).behind [t] (by simp)
      fun us => readPort_dot ht

theorem advances_readType : Advances readType := by
  refine (advances_oneOf [.identifier] .paramType).andThen fun t ts type rest h => ?_
  cases hof : ParamType.ofName? t.text with
  | none => simp [hof] at h
  | some known =>
    simp only [hof, Except.ok.injEq, Prod.mk.injEq] at h
    exact Nat.le_of_eq (congrArg List.length h.2.symm)

theorem advances_readTyped : Advances readTyped :=
  advances_readType.andThen fun type => (shortens_outcome default?).map (type, ·)

theorem readTyped_eq_ok {ts rest : List Token} {type : ParamType} {default : Option Expr}
    (h : readTyped ts = .ok ((type, default), rest)) :
    ∃ typeName afterType, ts = typeName :: afterType ∧ typeName.kind = .identifier ∧
      ParamType.ofName? typeName.text = some type ∧ Leaves (default? afterType) default rest := by
  obtain ⟨known, afterType, htype, hdefault⟩ := andThen_eq_ok.mp h
  obtain ⟨typeName, _, hname, hknown⟩ := andThen_eq_ok.mp htype
  obtain ⟨rfl, hk⟩ := oneOf_eq_ok.mp hname
  obtain ⟨value, hvalue, hpair⟩ := map_eq_ok.mp hdefault
  obtain ⟨rfl, rfl⟩ := Prod.mk.inj hpair
  cases hof : ParamType.ofName? typeName.text with
  | none => simp [hof] at hknown
  | some found =>
    simp only [hof, Except.ok.injEq, Prod.mk.injEq] at hknown
    obtain ⟨rfl, rfl⟩ := hknown
    exact ⟨typeName, _, rfl, List.mem_singleton.mp hk, hof, outcome_eq_ok.mp hvalue⟩

theorem sharp_readTyped {ts : List Token} : Sharp joining [] (fun _ => True) readTyped ts := by
  refine sharp_readType.andThen advances_readType (List.nil_subset joining) (fun type _ => ?_) ?_
  · exact ⟨_, _, completes_readDefault.map (type, ·), trivial⟩
  · intro type rest _ _
    exact sharp_readDefault.map fun _ _ => trivial

section Declarations

variable {keyword : Token} {ts : List Token} (pos : Position)

/-- Without a constraint block a parameter fails at the first token that does not fit. -/
theorem sharp_readParam (hk : keyword.kind = .param) (h : ¬ OpensConstraints (keyword :: ts)) :
    Sharp joining [] (fun _ => True) (readParam keyword.pos) ts := by
  rw [readParam_eq]
  refine sharp_oneOf_andThen .identifier (by simp) (by decide) (by simp) (fun name => ?_) ?_
  · exact ⟨_, _, (completes_readType.andThen (completes_readDefault.map _)).andThen
      (completes_readConstraintBlock.map _), trivial⟩
  intro name afterName hts hn
  refine sharp_readTyped.andThen advances_readTyped (List.Subset.refl joining)
    (fun typed _ => ?_) ?_
  · exact ⟨_, _, completes_readConstraintBlock.map _, trivial⟩
  intro typed rest hread _
  obtain ⟨typeName, afterType, hafter, ht, htype, hdefault⟩ := readTyped_eq_ok hread
  obtain ⟨value, rfl, hd⟩ := default_of_leaves hdefault
  have hrest : NotFirst .lbrace rest := by
    by_contra hopen
    obtain ⟨opening, after, rfl, ho⟩ := exists_cons_of_not_notFirst hopen
    apply h
    rw [hts, hafter]
    exact OpensConstraints.mk keyword name typeName opening value after _ _ hk
      (List.mem_singleton.mp hn) ht ((ofName?_eq_some_iff _ _).mp htype) hd ho
  exact (sharp_readConstraintBlock hrest).map fun _ _ => trivial

theorem sharp_readVar : Sharp joining [] (fun _ => True) (readVar pos) ts := by
  rw [readVar_eq]
  refine sharp_oneOf_andThen .identifier (by simp) (by decide) (by simp) (fun name => ?_) ?_
  · exact ⟨_, _, (completes_oneOf .equals (by simp) (by decide)).andThen (completes_null.map _),
      trivial⟩
  intro name afterName _ _
  refine sharp_oneOf_andThen .equals (by simp) (by decide) (by simp) (fun _ => ?_) ?_
  · exact ⟨_, _, completes_null.map _, trivial⟩
  intro equals value _ _
  exact (sharpExpr value [] (by simp)).map fun _ _ => trivial

/-- A node is read with its place if every entry named `position` is a point. -/
theorem exists_placeNode {name tag : Token} {es : List (Token × Expr)}
    (h : ∀ entry ∈ es, Placeable entry) : ∃ n, placeNode pos name tag es = done n := by
  obtain ⟨parameters, point, hsplit⟩ := exists_splitPoint h none
  refine ⟨{ name := name.text, tag := tag.text, parameters, point, pos }, ?_⟩
  funext rest
  simp [placeNode, hsplit, done]

/-- Without an entry `position` a node fails at the first token that does not fit. -/
theorem sharp_readNode (hk : keyword.kind = .node) (h : ¬ OpensPosition (keyword :: ts)) :
    Sharp joining [] (fun _ => True) (readNode keyword.pos) ts := by
  rw [readNode_eq]
  have hplace (name tag : Token) (es : List (Token × Expr)) (hes : ∀ entry ∈ es, Placeable entry) :
      ∃ c n, Completes (placeNode keyword.pos name tag es) c n ∧ True := by
    obtain ⟨n, hn⟩ := exists_placeNode keyword.pos hes
    exact ⟨[], n, hn ▸ completes_done n, trivial⟩
  have hbody (name tag : Token) :
      ∃ c n, Completes (readBody.andThen (placeNode keyword.pos name tag)) c n ∧ True := by
    obtain ⟨c, n, hn, -⟩ := hplace name tag [] (by simp)
    exact ⟨_, n, completes_body.andThen hn, trivial⟩
  refine sharp_oneOf_andThen .identifier (by simp) (by decide) (by simp) (fun name => ?_) ?_
  · obtain ⟨c, n, hn, -⟩ := hbody name (mark .string)
    exact ⟨_, n, (completes_oneOf .string (by simp) (by decide)).andThen hn, trivial⟩
  intro name afterName hts hn
  refine sharp_oneOf_andThen .string (by simp) (by decide) (by simp) (hbody name) ?_
  intro tag afterTag hafterName ht
  have hsharp : Sharp joining [] (fun es => ∀ entry ∈ es, Placeable entry) readBody afterTag := by
    refine sharp_readBody fun opening inner hafterTag ho => ?_
    refine sharp_readBodyEntries Unplaced ?_ ?_ (fun _ _ _ hus hread => hus.step hread) ?_
    · exact fun key => ⟨_, _, completes_origin, fun _ => rfl⟩
    · intro key mid value hclear hkey hmid e htext
      exact absurd htext (hclear [] key mid value [] rfl Entries.nil hkey hmid)
    · intro before key mid after es hinner hentries hkey hmid htext
      apply h
      rw [hts, hafterName, hafterTag, hinner]
      exact OpensPosition.mk keyword name tag opening key mid before after es hk
        (List.mem_singleton.mp hn) (List.mem_singleton.mp ht) ho hentries hkey htext hmid
  refine hsharp.andThen (advances_outcome body) (List.Subset.refl joining) (hplace name tag) ?_
  intro es rest _ hes
  obtain ⟨n, hn⟩ := exists_placeNode keyword.pos hes
  rw [hn]
  exact sharp_done trivial

theorem sharp_readModule : Sharp joining [] (fun _ => True) (readModule pos) ts := by
  rw [readModule_eq]
  refine sharp_oneOf_andThen .identifier (by simp) (by decide) (by simp) (fun name => ?_) ?_
  · exact ⟨_, _, (completes_oneOf .equals (by simp) (by decide)).andThen
      ((completes_oneOf .string (by simp) (by decide)).andThen (completes_body.map _)), trivial⟩
  intro name afterName _ _
  refine sharp_oneOf_andThen .equals (by simp) (by decide) (by simp) (fun _ => ?_) ?_
  · exact ⟨_, _, (completes_oneOf .string (by simp) (by decide)).andThen (completes_body.map _),
      trivial⟩
  intro equals afterEquals _ _
  refine sharp_oneOf_andThen .string (by simp) (by decide) (by simp) (fun path => ?_) ?_
  · exact ⟨_, _, completes_body.map _, trivial⟩
  intro path afterPath _ _
  have hbody : Sharp joining [] (fun es => ∀ entry ∈ es, True) readBody afterPath := by
    refine sharp_readBody fun opening inner _ _ => ?_
    refine sharp_readBodyEntries (fun _ => True) ?_ ?_ (fun _ _ _ _ _ => trivial) trivial
    · exact fun key => ⟨_, _, completes_value, trivial⟩
    · exact fun _ _ _ _ _ _ _ => trivial
  exact hbody.map fun _ _ => trivial

theorem completes_readEndpoint (expected : Expected) :
    Completes (readEndpoint expected) [mark .identifier, mark .dot, mark .identifier] ⟨"", ""⟩ := by
  rw [readEndpoint_eq]
  exact (completes_oneOf .identifier (by simp) (by decide)).andThen (completes_readPort.map _)

theorem sharp_readEndpoint {expected : Expected} :
    Sharp joining [] (fun _ => True) (readEndpoint expected) ts := by
  rw [readEndpoint_eq]
  refine sharp_oneOf_andThen .identifier (by simp) (by decide) (by simp) (fun node => ?_) ?_
  · exact ⟨_, _, completes_readPort.map _, trivial⟩
  intro node afterNode _ _
  exact sharp_readPort.map fun _ _ => trivial

/-- A connection fails at the first token that does not fit. -/
theorem sharp_readConnection : Sharp joining [] (fun _ => True) (readConnection pos) ts := by
  rw [readConnection_eq]
  refine sharp_readEndpoint.andThen (advances_outcome (endpoint .sourceName))
    (List.Subset.refl joining) (fun source _ => ?_) ?_
  · exact ⟨_, _, (completes_oneOf .arrow (by simp) (by decide)).andThen
      ((completes_readEndpoint .targetName).map _), trivial⟩
  intro source afterSource _ _
  refine sharp_oneOf_andThen .arrow (by simp) (by decide) (by decide) (fun _ => ?_) ?_
  · exact ⟨_, _, (completes_readEndpoint .targetName).map _, trivial⟩
  intro arrow afterArrow _ _
  exact sharp_readEndpoint.map fun _ _ => trivial

end Declarations

theorem outcome_under {α β : Type} {t : Token} {ts : List Token} {f : α → β} {step : Step α ts}
    {p : Reader α} (h : outcome step = p ts) :
    outcome (step.under f : Step β (t :: ts)) = p.map f ts := by
  unfold Reader.map andThen
  rw [← h]
  cases step with
  | error fault => rfl
  | ok result => rfl

theorem readStatement_var {t : Token} {ts : List Token} (ht : t.kind = .var) :
    readStatement (t :: ts) = (readVar t.pos).map Statement.var ts := by
  rw [readStatement, statement, ht]
  exact outcome_under rfl

theorem completes_readStatement :
    Completes readStatement [mark .var, mark .identifier, mark .equals, mark .null]
      (.var { name := "", value := .literal .null, pos := .start }) := by
  have hvar : Completes (readVar .start) [mark .identifier, mark .equals, mark .null]
      { name := "", value := .literal .null, pos := .start } := by
    rw [readVar_eq]
    exact (completes_oneOf .identifier (by simp) (by decide)).andThen
      ((completes_oneOf .equals (by simp) (by decide)).andThen (completes_null.map _))
  exact ⟨by simp, fun rest => (readStatement_var rfl).trans ((hvar.map Statement.var).2 rest)⟩

/-- The keyword decides which declaration is read, and another token is no declaration. -/
theorem sharp_readStatement {ts : List Token} (hc : ¬ OpensConstraints ts)
    (hp : ¬ OpensPosition ts) :
    Sharp joining (.rbrace :: joining) (fun _ => True) readStatement ts := by
  have hstop (h : ∀ us, us.head? = ts.head? → readStatement us = .error ⟨.statement, us.head?⟩) :
      Sharp joining (.rbrace :: joining) (fun _ => True) readStatement ts :=
    sharp_of_stop .statement trivial h completes_readStatement ⟨mark .var, rfl, by decide⟩
  cases ts with
  | nil =>
    refine hstop fun us hus => ?_
    obtain rfl := List.head?_eq_none_iff.mp hus
    rfl
  | cons t rest =>
    -- The keyword decides which step reads the rest, and what is made of its result.
    have hbehind {α : Type} (step : (us : List Token) → Step α us) (f : α → Statement)
        (hstep : ∀ us, statement t us = (step us).under f)
        (hsharp : Sharp joining [] (fun _ => True) (fun us => outcome (step us)) rest) :
        Sharp joining (.rbrace :: joining) (fun _ => True) readStatement (t :: rest) := by
      refine (hsharp.map (f := f) fun _ _ => trivial).behind [t] (by simp) fun us => ?_
      change outcome (statement t us) = _
      rw [hstep]
      exact outcome_under rfl
    cases hk : t.kind with
    | param =>
      exact hbehind (param t.pos) .param (fun us => by rw [statement, hk]) (sharp_readParam hk hc)
    | var =>
      exact hbehind (var t.pos) .var (fun us => by rw [statement, hk]) (sharp_readVar t.pos)
    | node =>
      exact hbehind (node t.pos) (fun n => .entry (.node n)) (fun us => by rw [statement, hk])
        (sharp_readNode hk hp)
    | module =>
      exact hbehind (moduleRef t.pos) (fun m => .entry (.module m))
        (fun us => by rw [statement, hk]) (sharp_readModule t.pos)
    | connect =>
      exact hbehind (connection t.pos) .connection (fun us => by rw [statement, hk])
        (sharp_readConnection t.pos)
    | _ =>
      refine hstop fun us hus => ?_
      obtain ⟨more, rfl⟩ := List.head?_eq_some_iff.mp hus
      rw [readStatement, statement, hk]
      rfl

/-- No declaration here opens a constraint block or has an entry `position`, as
far as declarations can be read. -/
def Unhindered (ts : List Token) : Prop :=
  ∀ before rest, ts = before ++ rest → Declared before →
    ¬ OpensConstraints rest ∧ ¬ OpensPosition rest

theorem advances_readStatement : Advances readStatement := by
  intro ts s rest h
  cases ts with
  | nil => cases h
  | cons t ts =>
    obtain ⟨hlt, -⟩ := outcome_eq_ok.mp h
    exact hlt

/-- What is left after a declaration is as unhindered as before it. -/
theorem Unhindered.step {ts rest : List Token} {s : Statement} (h : Unhindered ts)
    (hread : readStatement.separated .semicolon ts = .ok (s, rest)) : Unhindered rest := by
  obtain ⟨after, hstatement, hrest⟩ := separated_eq_ok.mp hread
  cases ts with
  | nil => cases hstatement
  | cons t ts =>
    obtain ⟨separator, hs, hafter⟩ := exists_optional_skip .semicolon after
    rw [← hrest] at hafter
    intro before last hsplit hdeclared
    obtain ⟨ps, vs, es, cs, hdeclarations⟩ := hdeclared
    obtain ⟨ss, -, rfl, rfl, rfl, rfl⟩ := exists_statements hdeclarations
    obtain ⟨read, hts, hall⟩ :=
      declarations_cons_of_reads (outcome_eq_ok.mp hstatement) hs hdeclarations
    refine h (read ++ separator ++ before) last ?_ ⟨_, _, _, _, hall⟩
    rw [hts, hafter, hsplit]
    simp

/-- Declarations fail at the first token that does not fit one of them. -/
theorem sharp_readStatements {ts : List Token} (h : Unhindered ts) :
    Sharp joining joining (fun _ => True) readStatements ts := by
  have hloop : Sharp joining joining (fun ss => ∀ s ∈ ss, True) readStatements ts := by
    refine loops_readStatements.sharp Unhindered (by decide)
      (advances_readStatement.separated .semicolon) (advances_outcome statements) ?_
      (fun _ _ _ hus hread => hus.step hread) ts h
    intro us hus
    obtain ⟨hc, hp⟩ := hus [] us rfl ⟨[], [], [], [], Declarations.nil⟩
    exact sharp_separated (sharp_readStatement hc hp) advances_readStatement (by decide) (by decide)
  exact hloop.imp fun _ _ => trivial

def readWorkflow : Reader Workflow :=
  (oneOf [.workflow] .workflow).andThen fun keyword =>
    (oneOf [.string] .workflowName).andThen fun name =>
      (oneOf [.lbrace] .workflowBody).andThen fun _ =>
        readStatements.map (assemble name.text keyword.pos)

/-- Nothing may follow a workflow. -/
def atEnd : Except Fault (Workflow × List Token) → Except Fault Workflow
  | .error fault => .error fault
  | .ok (w, []) => .ok w
  | .ok (_, t :: _) => .error ⟨.endOfInput, some t⟩

theorem bind_eq_atEnd {α : Type} {P : List Token → Prop} {ts : List Token}
    {x : Except Fault (α × { rest : List Token // P rest })}
    {f : α × { rest : List Token // P rest } → Except Fault Workflow} {p : Reader α}
    {q : α → Reader Workflow} (hx : outcome x = p ts)
    (hf : ∀ a rest h, f (a, ⟨rest, h⟩) = atEnd (q a rest)) : x >>= f = atEnd (p.andThen q ts) := by
  unfold andThen
  rw [← hx]
  cases x with
  | error fault => rfl
  | ok result => exact hf result.1 result.2.val result.2.property

/-- Reading a workflow is reading its parts and then the end of the tokens. -/
theorem workflow_eq_atEnd (ts : List Token) : workflow ts = atEnd (readWorkflow ts) := by
  refine bind_eq_atEnd outcome_expect fun keyword afterKeyword _ =>
    bind_eq_atEnd outcome_expect fun name afterName _ =>
      bind_eq_atEnd outcome_expect fun opening inner _ => bind_eq_atEnd rfl fun ss rest _ => ?_
  cases rest with
  | nil => rfl
  | cons t more => rfl

theorem sharp_readWorkflow {ts : List Token} (hc : ¬ HasConstraintBlock ts)
    (hp : ¬ HasPositionEntry ts) : Sharp joining [] (fun _ => True) readWorkflow ts := by
  have hstatements := loops_readStatements.completes (by decide)
  refine sharp_oneOf_andThen .workflow (by simp) (by decide) (by simp) (fun keyword => ?_) ?_
  · exact ⟨_, _, (completes_oneOf .string (by simp) (by decide)).andThen
      ((completes_oneOf .lbrace (by simp) (by decide)).andThen (hstatements.map _)), trivial⟩
  intro keyword afterKeyword hts hk
  refine sharp_oneOf_andThen .string (by simp) (by decide) (by simp) (fun name => ?_) ?_
  · exact ⟨_, _, (completes_oneOf .lbrace (by simp) (by decide)).andThen (hstatements.map _),
      trivial⟩
  intro name afterName hafterKeyword hn
  refine sharp_oneOf_andThen .lbrace (by simp) (by decide) (by simp) (fun _ => ?_) ?_
  · exact ⟨_, _, hstatements.map _, trivial⟩
  intro opening inner hafterName ho
  have hclear : Unhindered inner := by
    intro before rest hinner hdeclared
    rw [hts, hafterKeyword, hafterName, hinner] at hc hp
    refine ⟨fun hr => hc ?_, fun hr => hp ?_⟩
    · exact Somewhere.mk keyword name opening before rest (List.mem_singleton.mp hk)
        (List.mem_singleton.mp hn) (List.mem_singleton.mp ho) hdeclared hr
    · exact Somewhere.mk keyword name opening before rest (List.mem_singleton.mp hk)
        (List.mem_singleton.mp hn) (List.mem_singleton.mp ho) hdeclared hr
  exact ((sharp_readStatements hclear).map fun _ _ => trivial).avoiding (List.nil_subset joining)

/-- A fault of reading lies at the first token that does not fit. -/
theorem exists_first_fault {ts : List Token} {fault : Fault} (hc : ¬ HasConstraintBlock ts)
    (hp : ¬ HasPositionEntry ts) (h : workflow ts = .error fault)
    (hne : fault.expected ≠ .templateEnd) :
    ∃ before after, ts = before ++ after ∧ fault.found = after.head? ∧
      (∃ completion w, (∀ t ∈ completion, t.kind ≠ .eof) ∧
        workflow (before ++ completion) = .ok w) ∧
      ∀ t ∈ after.head?, ∀ more, workflow (before ++ t :: more) = .error fault := by
  have hsharp := sharp_readWorkflow hc hp
  simp only [workflow_eq_atEnd] at h ⊢
  cases hread : readWorkflow ts with
  | error fault' =>
    rw [hread] at h
    cases h
    obtain ⟨before, after, hts, hblames⟩ := hsharp.exact fault hread hne
    obtain ⟨completion, w, hcompletion, -, -⟩ := hblames.completes
    refine ⟨before, after, hts, hblames.found, ⟨completion, w, hcompletion.1, ?_⟩, ?_⟩
    · have hall : readWorkflow (before ++ (completion ++ [])) = .ok (w, []) := hcompletion.2 []
      rw [List.append_nil] at hall
      rw [hall, atEnd]
    · intro t ht more
      rw [hblames.same t ht more, atEnd]
  | ok result =>
    -- The workflow is whole, and the token after it is the one too many.
    obtain ⟨w, rest⟩ := result
    obtain ⟨-, used, hts, hused⟩ := hsharp.steady w rest hread
    rw [hread] at h
    cases rest with
    | nil => cases h
    | cons t more =>
      cases h
      refine ⟨used, t :: more, hts, rfl, ⟨[], w, by simp, ?_⟩, fun u hu others => ?_⟩
      · rw [hused [] (Or.inr (by simp)), atEnd]
      · obtain rfl : t = u := by simpa using hu
        rw [hused (t :: others) (Or.inl rfl), atEnd]

end FlowGraph.Parser

namespace FlowGraph.Workflow

open FlowGraph.Parser FlowGraph.Parser.Reader FlowGraph.Grammar

theorem beforeEnd_append {ts more : List Token} (h : ∀ t ∈ ts, t.kind ≠ .eof) :
    beforeEnd (ts ++ more) = ts ++ beforeEnd more :=
  List.takeWhile_append_of_pos fun t ht => by simpa using h t ht

theorem beforeEnd_eq_self {ts : List Token} (h : ∀ t ∈ ts, t.kind ≠ .eof) : beforeEnd ts = ts :=
  List.takeWhile_eq_self_iff.mpr fun t ht => by simpa using h t ht

/-- A parse error names the token that was found, or the end of input if there was none. -/
theorem ofTokens_eq_error {ts : List Token} {e : ParseError} :
    Workflow.ofTokens ts = .error e ↔
      ∃ fault, workflow (beforeEnd ts) = .error fault ∧
        e = ⟨fault.expected, fault.found.getD (endToken ts)⟩ := by
  unfold Workflow.ofTokens
  cases workflow (beforeEnd ts) with
  | error fault => simp [located, Except.mapError, eq_comm]
  | ok w => simp [located, Except.mapError]

/-- A parse error points at the first token that cannot stand where it stands, or
at the end of input. The tokens before it can be completed to a workflow, and
every list of tokens that agrees up to and with it fails with the same error. -/
theorem ofTokens_fails_at_first_offence (ts : List Token) (e : ParseError)
    (hend : ∀ t ∈ ts, t.kind ≠ .eof) (hconstraints : ¬ HasConstraintBlock ts)
    (hposition : ¬ HasPositionEntry ts) (hfail : Workflow.ofTokens ts = .error e)
    (htemplate : e.expected ≠ .templateEnd) :
    ∃ i ≤ ts.length, e.found = (ts[i]?).getD (endToken ts) ∧
      (∃ more w, Workflow.ofTokens (ts.take i ++ more) = .ok w) ∧
      (i < ts.length → ∀ more, Workflow.ofTokens (ts.take (i + 1) ++ more) = .error e) := by
  obtain ⟨fault, hfault, rfl⟩ := ofTokens_eq_error.mp hfail
  rw [beforeEnd_eq_self hend] at hfault
  obtain ⟨before, after, rfl, hfound, ⟨completion, w, hno, hw⟩, hsame⟩ :=
    exists_first_fault hconstraints hposition hfault htemplate
  have hbefore : ∀ t ∈ before, t.kind ≠ .eof := fun t ht => hend t (List.mem_append_left after ht)
  refine ⟨before.length, by simp, ?_, ⟨completion, w, ?_⟩, fun hlt more => ?_⟩
  · rw [List.getElem?_append_right (Nat.le_refl _), Nat.sub_self, ← List.head?_eq_getElem?, hfound]
  · rw [List.take_left, Workflow.ofTokens, located_eq_ok, beforeEnd_append hbefore,
      beforeEnd_eq_self hno]
    exact hw
  · cases after with
    | nil => simp at hlt
    | cons t after =>
      have ht : t.kind ≠ .eof := hend t (by simp)
      have htake : (before ++ t :: after).take (before.length + 1) = before ++ [t] := by
        rw [List.take_length_add_append]
        rfl
      refine ofTokens_eq_error.mpr ⟨fault, ?_, by simp [hfound]⟩
      rw [htake, List.append_assoc, beforeEnd_append hbefore, List.singleton_append,
        show beforeEnd (t :: more) = t :: beforeEnd more by simp [beforeEnd, ht]]
      exact hsame t rfl (beforeEnd more)

def unclosed : List Token :=
  [⟨.workflow, "workflow", ⟨1, 1⟩⟩, ⟨.string, "w", ⟨1, 10⟩⟩, ⟨.lbrace, "\x7b", ⟨1, 14⟩⟩,
    ⟨.var, "var", ⟨1, 16⟩⟩, ⟨.identifier, "v", ⟨1, 20⟩⟩, ⟨.equals, "=", ⟨1, 22⟩⟩,
    ⟨.lbracket, "[", ⟨1, 24⟩⟩, ⟨.lbrace, "\x7b", ⟨1, 25⟩⟩, ⟨.identifier, "k", ⟨1, 27⟩⟩,
    ⟨.rbracket, "]", ⟨1, 29⟩⟩, ⟨.rbrace, "\x7d", ⟨1, 31⟩⟩]

theorem ofTokens_unclosed :
    Workflow.ofTokens unclosed = .error ⟨.objectColon, ⟨.rbracket, "]", ⟨1, 29⟩⟩⟩ := by
  refine ofTokens_eq_error.mpr ⟨⟨.objectColon, some ⟨.rbracket, "]", ⟨1, 29⟩⟩⟩, ?_, rfl⟩
  have hexpr : readExpr (unclosed.drop 6) =
      .error ⟨.objectColon, some ⟨.rbracket, "]", ⟨1, 29⟩⟩⟩ := by
    simp [unclosed, readExpr_array, readExpr_object, (loops_readItems _).repeats,
      loops_readMembers.repeats, notFirst_cons, andThen, Reader.map, Reader.separated, readMember,
      keyed, oneOf]
  have hstatements : readStatements (unclosed.drop 3) =
      .error ⟨.objectColon, some ⟨.rbracket, "]", ⟨1, 29⟩⟩⟩ := by
    simp only [unclosed, List.drop_succ_cons, List.drop_zero] at hexpr ⊢
    simp [loops_readStatements.repeats, notFirst_cons, readStatement_var, readVar_eq, hexpr,
      andThen, Reader.map, Reader.separated, oneOf]
  rw [beforeEnd_eq_self (by decide), workflow_eq_atEnd]
  simp only [unclosed, List.drop_succ_cons, List.drop_zero] at hstatements ⊢
  simp [readWorkflow, andThen, oneOf, Reader.map, hstatements, atEnd]

/-- Without parameters there are no constraint blocks. -/
theorem not_hasConstraintBlock {ts : List Token} (h : ∀ t ∈ ts, t.kind ≠ .param) :
    ¬ HasConstraintBlock ts := by
  intro hsome
  obtain ⟨_, _, _, _, _, -, -, -, -, hr⟩ := hsome
  obtain ⟨keyword, _, _, _, _, _, _, _, hk, -, -, -, -, -⟩ := hr
  exact h keyword (by simp) hk

theorem not_hasPositionEntry {ts : List Token} (h : ∀ t ∈ ts, t.text ≠ "position") :
    ¬ HasPositionEntry ts := by
  intro hsome
  obtain ⟨_, _, _, _, _, -, -, -, -, hr⟩ := hsome
  obtain ⟨_, _, _, _, key, _, _, _, _, -, -, -, -, -, -, htext, -⟩ := hr
  exact h key (by simp) htext

theorem ofTokens_unclosed_first_offence :
    ∃ i ≤ unclosed.length,
      (⟨.rbracket, "]", ⟨1, 29⟩⟩ : Token) = (unclosed[i]?).getD (endToken unclosed) ∧
      (∃ more w, Workflow.ofTokens (unclosed.take i ++ more) = .ok w) ∧
      (i < unclosed.length → ∀ more, Workflow.ofTokens (unclosed.take (i + 1) ++ more) =
        .error ⟨.objectColon, ⟨.rbracket, "]", ⟨1, 29⟩⟩⟩) :=
  ofTokens_fails_at_first_offence unclosed ⟨.objectColon, ⟨.rbracket, "]", ⟨1, 29⟩⟩⟩ (by decide)
    (not_hasConstraintBlock (by decide)) (not_hasPositionEntry (by decide)) ofTokens_unclosed
    (by decide)

end FlowGraph.Workflow
