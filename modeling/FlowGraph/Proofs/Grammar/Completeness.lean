import FlowGraph.Proofs.Grammar.Folding

/-!
What is derivable is read. One token decides how reading goes on, so a derivation
is read back whole as soon as what follows it cannot be taken for a part of it:
no bracket after a name, and no second separator.
-/

namespace FlowGraph.Grammar

open FlowGraph.Parser

theorem skip_append {kind : TokenKind} {separator rest : List Token}
    (hs : Optional kind separator) (hr : NotFirst kind rest) :
    (skip kind (separator ++ rest)).val = rest := by
  cases hs with
  | absent =>
    rcases skip_cases kind rest with ⟨t, ht, hrest⟩ | ⟨hrest, -⟩
    · rw [hrest] at hr
      exact absurd ht (notFirst_cons.mp hr)
    · exact hrest
  | present t ht =>
    rcases skip_cases kind ([t] ++ rest) with ⟨u, -, hrest⟩ | ⟨-, hfirst⟩
    · exact (List.cons.inj hrest).2.symm
    · exact absurd ht (notFirst_cons.mp hfirst)

theorem notFirst_append {kind other : TokenKind} {separator rest : List Token}
    (hs : Optional other separator) (hne : other ≠ kind) (hr : NotFirst kind rest) :
    NotFirst kind (separator ++ rest) := by
  cases hs with
  | absent => exact hr
  | present t ht => exact notFirst_cons.mpr (ht ▸ hne)

/-- The first token shows that an expression starts. -/
theorem exists_first_of_expression {ts : List Token} {e : Expr} (h : Expression ts e) :
    ∃ t more, ts = t :: more ∧ startsExpr t.kind = true := by
  cases h with
  | text t ht _ => exact ⟨t, [], rfl, by rw [ht]; rfl⟩
  | quoted t ht _ => exact ⟨t, [], rfl, by rw [ht]; rfl⟩
  | number t _ ht _ => exact ⟨t, [], rfl, by rw [ht]; rfl⟩
  | boolean t ht => exact ⟨t, [], rfl, by rw [ht]; rfl⟩
  | null t ht => exact ⟨t, [], rfl, by rw [ht]; rfl⟩
  | ident t ht => exact ⟨t, [], rfl, by rw [ht]; rfl⟩
  | call name opening closing inner args hn _ _ _ => exact ⟨name, _, rfl, by rw [hn]; rfl⟩
  | object opening closing inner members ho _ _ => exact ⟨opening, _, rfl, by rw [ho]; rfl⟩
  | array opening closing inner items ho _ _ => exact ⟨opening, _, rfl, by rw [ho]; rfl⟩
  | bare opening closing inner ho _ _ => exact ⟨opening, _, rfl, by rw [ho]; rfl⟩

theorem notFirst_of_expression {ts : List Token} {e : Expr} (h : Expression ts e)
    {kind : TokenKind} (hk : startsExpr kind = false) (rest : List Token) :
    NotFirst kind (ts ++ rest) := by
  obtain ⟨t, more, rfl, ht⟩ := exists_first_of_expression h
  refine notFirst_cons.mpr fun heq => ?_
  rw [heq, hk] at ht
  cases ht

theorem notFirst_of_items {ts : List Token} {es : List Expr} (h : Items ts es)
    {kind : TokenKind} (hk : startsExpr kind = false) {rest : List Token}
    (hr : NotFirst kind rest) : NotFirst kind (ts ++ rest) := by
  cases h with
  | nil => exact hr
  | cons item separator more e es he hs hm =>
    simpa only [List.append_assoc] using notFirst_of_expression he hk (separator ++ (more ++ rest))

theorem notFirst_of_members {ts : List Token} {es : List (String × Expr)} (h : Members ts es)
    {kind : TokenKind} (hk : startsExpr kind = false) {rest : List Token}
    (hr : NotFirst kind rest) : NotFirst kind (ts ++ rest) := by
  cases h with
  | nil => exact hr
  | cons key colon value separator more e members hkey hc he hs hm =>
    refine notFirst_cons.mpr ?_
    rcases hkey with hkey | hkey <;> rw [hkey] <;> rintro rfl <;> cases hk

theorem stringExpr_of_hasSpan {text : String} (h : HasSpan text) :
    stringExpr text = .template text :=
  if_pos ((Text.contains_eq_true_iff _ _).mpr h)

theorem stringExpr_of_not_hasSpan {text : String} (h : ¬ HasSpan text) :
    stringExpr text = .literal (.str text) :=
  if_neg fun hs => h ((Text.contains_eq_true_iff _ _).mp hs)

/-- Balanced braces inside of a template leave its depth as it was. -/
theorem templateEnds_of_balanced {inner : List Token} (h : Balanced inner) (depth : Nat)
    (ts rest : List Token) (text : String) (hts : TemplateEnds depth ts text rest) :
    TemplateEnds depth (inner ++ ts) (joined inner ++ text) rest := by
  induction h generalizing depth ts text with
  | nil => simpa using hts
  | plain t more ho hc _ ih =>
    have hdepth : depthAfter depth t = depth := by
      rw [depthAfter, if_neg (by exact ho), if_neg hc]
    refine (templateEnds_cons fun hend => hc hend.1).mpr ⟨joined more ++ text, ?_, ?_⟩
    · rw [hdepth]
      exact ih depth ts text hts
    · simp [String.append_assoc]
  | nested opening closing inner more ho _ hc _ ihInner ihMore =>
    have hopen : depthAfter depth opening = depth + 1 := by
      rw [depthAfter, if_pos (by exact ho)]
    have hclose : depthAfter (depth + 1) closing = depth := by
      rw [depthAfter, if_neg (by simp [hc]), if_pos hc, Nat.add_sub_cancel]
    have hmore : TemplateEnds (depth + 1) (closing :: (more ++ ts))
        (templatePiece closing ++ (joined more ++ text)) rest := by
      refine (templateEnds_cons fun hend => absurd hend.2 (Nat.succ_ne_zero depth)).mpr ?_
      rw [hclose]
      exact ⟨joined more ++ text, ihMore depth ts text hts, rfl⟩
    have hnot : ¬ (opening.kind = .rbrace ∧ depth = 0) := by
      rintro ⟨hr, -⟩
      rcases ho with ho | ho <;> rw [ho] at hr <;> cases hr
    have hinner := ihInner (depth + 1) _ _ hmore
    have hall := (templateEnds_cons (t := opening) hnot).mpr ⟨_, hopen ▸ hinner, rfl⟩
    simpa [String.append_assoc] using hall

mutual

/-- An expression is read back whole unless a bracket follows it. -/
theorem reads_of_expression {ts : List Token} {e : Expr} (h : Expression ts e) (rest : List Token)
    (hrest : NotFirst .lparen rest) : (expr (ts ++ rest)).Reads e rest := by
  match h with
  | .text t ht hs => exact (expr_reads_string ht).mpr ⟨(stringExpr_of_not_hasSpan hs).symm, rfl⟩
  | .quoted t ht hs => exact (expr_reads_string ht).mpr ⟨(stringExpr_of_hasSpan hs).symm, rfl⟩
  | .number t v ht hv =>
    exact (expr_reads_number ht).mpr ⟨v, (numberValue?_eq_some_iff _ _).mpr hv, rfl, rfl⟩
  | .boolean t ht => exact (expr_reads_boolean ht).mpr ⟨rfl, rfl⟩
  | .null t ht => exact (expr_reads_null ht).mpr ⟨rfl, rfl⟩
  | .ident t ht => exact (expr_reads_ident ht hrest).mpr ⟨rfl, rfl⟩
  | .call name opening closing inner args hn ho hi hc =>
    have hargs := items_reads_of_items hi closing rest (by rw [hc]; rfl) (by rw [hc]; decide)
    rw [hc] at hargs
    rw [show name :: opening :: inner ++ [closing] ++ rest =
      name :: opening :: (inner ++ closing :: rest) by simp]
    exact (expr_reads_call hn ho).mpr ⟨args, hargs, rfl⟩
  | .object opening closing inner members ho hi hc =>
    have hmembers := entries_reads_of_members hi closing rest hc
    rw [show opening :: inner ++ [closing] ++ rest = opening :: (inner ++ closing :: rest) by simp]
    exact (expr_reads_object ho).mpr ⟨members, hmembers, rfl⟩
  | .array opening closing inner es ho hi hc =>
    have hes := items_reads_of_items hi closing rest (by rw [hc]; rfl) (by rw [hc]; decide)
    rw [hc] at hes
    rw [show opening :: inner ++ [closing] ++ rest = opening :: (inner ++ closing :: rest) by simp]
    exact (expr_reads_array ho).mpr ⟨es, hes, rfl⟩
  | .bare opening closing inner ho hi hc =>
    have hend : TemplateEnds 0 (closing :: rest) "\x7d" rest :=
      (templateEnds_close hc).mpr ⟨rfl, rfl⟩
    have htext := templateEnds_of_balanced hi 0 (closing :: rest) rest "\x7d" hend
    rw [show opening :: inner ++ [closing] ++ rest = opening :: (inner ++ closing :: rest) by simp]
    exact (expr_reads_template ho).mpr ⟨_, htext, by rw [String.append_assoc]⟩

/-- The closing token must not be taken for the start of another item, nor for
the bracket of a call. -/
theorem items_reads_of_items {ts : List Token} {es : List Expr} (h : Items ts es) (closing : Token)
    (rest : List Token) (hstart : startsExpr closing.kind = false)
    (hclose : closing.kind ≠ .comma ∧ closing.kind ≠ .lparen) :
    (items closing.kind (ts ++ closing :: rest)).Reads es rest := by
  match h with
  | .nil => exact (items_reads_close rfl).mpr ⟨rfl, rfl⟩
  | .cons item separator more e es he hs hm =>
    have hcomma : NotFirst .comma (more ++ closing :: rest) :=
      notFirst_of_items hm rfl (notFirst_cons.mpr hclose.1)
    have hparen : NotFirst .lparen (more ++ closing :: rest) :=
      notFirst_of_items hm rfl (notFirst_cons.mpr hclose.2)
    have hexpr := reads_of_expression he (separator ++ (more ++ closing :: rest))
      (notFirst_append hs (by decide) hparen)
    have hitems := items_reads_of_items hm closing rest hstart hclose
    obtain ⟨t, tail, rfl, ht⟩ := exists_first_of_expression he
    have hne : t.kind ≠ closing.kind := by
      intro heq
      rw [heq, hstart] at ht
      cases ht
    rw [show t :: tail ++ separator ++ more ++ closing :: rest =
      t :: (tail ++ (separator ++ (more ++ closing :: rest))) by simp]
    exact (items_reads_cons hne).mpr ⟨e, _, es, hexpr, by rwa [skip_append hs hcomma], rfl⟩

theorem entries_reads_of_members {ts : List Token} {es : List (String × Expr)} (h : Members ts es)
    (closing : Token) (rest : List Token) (hc : closing.kind = .rbrace) :
    (entries (ts ++ closing :: rest)).Reads es rest := by
  match h with
  | .nil => exact (entries_reads_close hc).mpr ⟨rfl, rfl⟩
  | .cons key colon value separator more e members hk hcolon he hs hm =>
    have hcomma : NotFirst .comma (more ++ closing :: rest) :=
      notFirst_of_members hm rfl (notFirst_cons.mpr (by rw [hc]; decide))
    have hparen : NotFirst .lparen (more ++ closing :: rest) :=
      notFirst_of_members hm rfl (notFirst_cons.mpr (by rw [hc]; decide))
    have hexpr := reads_of_expression he (separator ++ (more ++ closing :: rest))
      (notFirst_append hs (by decide) hparen)
    have hentries := entries_reads_of_members hm closing rest hc
    have hne : key.kind ≠ .rbrace := by
      rcases hk with hk | hk <;> rw [hk] <;> decide
    rw [show key :: colon :: value ++ separator ++ more ++ closing :: rest =
      key :: colon :: (value ++ (separator ++ (more ++ closing :: rest))) by simp]
    exact (entries_reads_cons hne).mpr ⟨hk, colon, _, e, _, members, rfl, hcolon, hexpr,
      by rwa [skip_append hs hcomma], rfl⟩

end

theorem notFirst_of_entries {ts : List Token} {es : List (String × Expr)} (h : Entries ts es)
    {kind : TokenKind} (hk : kind ≠ .identifier) {rest : List Token} (hr : NotFirst kind rest) :
    NotFirst kind (ts ++ rest) := by
  cases h with
  | nil => exact hr
  | cons key colon value separator more e entries hkey hc he hs hm =>
    exact notFirst_cons.mpr (hkey ▸ hk.symm)

theorem bodyEntries_reads_of_entries {ts : List Token} {entries : List (String × Expr)}
    (h : Entries ts entries) (closing : Token) (rest : List Token) (hc : closing.kind = .rbrace) :
    ∃ es, named es = entries ∧ (bodyEntries (ts ++ closing :: rest)).Reads es rest := by
  induction h with
  | nil => exact ⟨[], rfl, (bodyEntries_reads_close hc).mpr ⟨rfl, rfl⟩⟩
  | cons key colon value separator more e entries hk hcolon he hs hm ih =>
    obtain ⟨es, rfl, hentries⟩ := ih
    have hcomma : NotFirst .comma (more ++ closing :: rest) :=
      notFirst_of_entries hm (by decide) (notFirst_cons.mpr (by rw [hc]; decide))
    have hparen : NotFirst .lparen (more ++ closing :: rest) :=
      notFirst_of_entries hm (by decide) (notFirst_cons.mpr (by rw [hc]; decide))
    have hexpr := reads_of_expression he (separator ++ (more ++ closing :: rest))
      (notFirst_append hs (by decide) hparen)
    have hne : key.kind ≠ .rbrace := by
      rw [hk]
      decide
    refine ⟨(key, e) :: es, rfl, ?_⟩
    rw [show key :: colon :: value ++ separator ++ more ++ closing :: rest =
      key :: colon :: (value ++ (separator ++ (more ++ closing :: rest))) by simp]
    exact (bodyEntries_reads_cons hne).mpr ⟨hk, colon, _, e, _, es, rfl, hcolon, hexpr,
      by rwa [skip_append hs hcomma], rfl⟩

/-- A block in braces is read back with its entries in order. -/
theorem body_reads_of_block {ts : List Token} {entries : List (String × Expr)}
    (h : Block ts entries) (rest : List Token) :
    ∃ es, named es = entries ∧ (body (ts ++ rest)).Reads es rest := by
  obtain ⟨opening, closing, inner, _, ho, hi, hc⟩ := h
  obtain ⟨es, hes, hread⟩ := bodyEntries_reads_of_entries hi closing rest hc
  exact ⟨es, hes, body_reads.mpr ⟨opening, _, by simp, ho, hread⟩⟩

def keywords : List TokenKind :=
  [.param, .var, .node, .module, .connect]

/-- After a declaration stands a semicolon, the next declaration, or the brace
that ends the workflow. -/
def EndsDeclaration (rest : List Token) : Prop :=
  ∀ t ∈ rest.head?, t.kind ∈ .semicolon :: .rbrace :: keywords

theorem EndsDeclaration.notFirst {rest : List Token} (h : EndsDeclaration rest) {kind : TokenKind}
    (hk : kind ∉ .semicolon :: .rbrace :: keywords) : NotFirst kind rest := by
  intro t ht heq
  exact hk (heq ▸ h t ht)

/-- A default value is taken where an equals sign stands and nowhere else. -/
theorem default?_leaves_of_default {ts : List Token} {d : Option Expr} (h : Default ts d)
    (rest : List Token) (hequals : NotFirst .equals rest) (hparen : NotFirst .lparen rest) :
    Leaves (default? (ts ++ rest)) d rest := by
  cases h with
  | absent => exact (default?_leaves_absent hequals).mpr ⟨rfl, rfl⟩
  | present equals value e hk he =>
    exact (default?_leaves_present hk).mpr ⟨e, reads_of_expression he rest hparen, rfl⟩

theorem constraintBlock_leaves_of_constraintBlock {ts : List Token} {c : Constraints}
    (h : ConstraintBlock ts c) (rest : List Token) (hrest : NotFirst .lbrace rest) :
    Leaves (constraintBlock (ts ++ rest)) c rest := by
  cases h with
  | absent => exact (constraintBlock_leaves_absent hrest).mpr ⟨rfl, rfl⟩
  | present _ entries rs hb hrs =>
    obtain ⟨opening, closing, inner, _, ho, hi, hc⟩ := hb
    obtain ⟨es, rfl, hread⟩ := bodyEntries_reads_of_entries hi closing rest hc
    rw [show opening :: inner ++ [closing] ++ rest = opening :: (inner ++ closing :: rest) by simp]
    refine (constraintBlock_leaves_present ho).mpr (constraints_reads_iff.mpr ?_)
    exact ⟨es, rs, hread, hrs, (Restriction.foldl_applyTo_empty rs).symm⟩

/-- A constraint block starts with a brace, so neither a default value nor a call
can be meant by it. -/
theorem notFirst_of_constraintBlock {ts : List Token} {c : Constraints} (h : ConstraintBlock ts c)
    {kind : TokenKind} (hk : kind ≠ .lbrace) {rest : List Token} (hr : NotFirst kind rest) :
    NotFirst kind (ts ++ rest) := by
  cases h with
  | absent => exact hr
  | present _ entries rs hb hrs =>
    obtain ⟨opening, closing, inner, _, ho, hi, hc⟩ := hb
    exact notFirst_cons.mpr (ho ▸ hk.symm)

/-- An endpoint without a port is read as one unless a dot follows it. -/
theorem endpoint_reads_of_endpointName {ts : List Token} {e : Endpoint} (h : EndpointName ts e)
    (expected : Expected) (rest : List Token) (hrest : NotFirst .dot rest) :
    (endpoint expected (ts ++ rest)).Reads e rest := by
  cases h with
  | plain node hn =>
    exact endpoint_reads.mpr
      ⟨node, rest, "main", rfl, hn, (port_leaves_absent hrest).mpr ⟨rfl, rfl⟩, rfl⟩
  | port node dot port hn hd hp =>
    exact endpoint_reads.mpr
      ⟨node, _, port.text, rfl, hn, (port_leaves_present hd).mpr ⟨port, rfl, hp, rfl⟩, rfl⟩

def ReadsAs (ts : List Token) (s : Statement) : Prop :=
  ∃ t more, ts = t :: more ∧ t.kind ∈ keywords ∧
    ∀ rest, EndsDeclaration rest → (statement t (more ++ rest)).Reads s rest

section Declarations

variable {ts : List Token}

/-- A parameter is read back whole, with its default value and its constraints. -/
theorem readsAs_param {p : Param} (h : ParamDeclaration ts p) : ReadsAs ts (.param p) := by
  obtain ⟨keyword, name, typeName, value, block, type, default, constraints, hk, hn, ht, htype, hd,
    hc⟩ := h
  refine ⟨keyword, name :: typeName :: value ++ block, rfl, by simp [hk, keywords], ?_⟩
  intro rest hrest
  have hequals : NotFirst .equals (block ++ rest) :=
    notFirst_of_constraintBlock hc (by decide) (hrest.notFirst (by decide))
  have hparen : NotFirst .lparen (block ++ rest) :=
    notFirst_of_constraintBlock hc (by decide) (hrest.notFirst (by decide))
  have hdefault := default?_leaves_of_default hd (block ++ rest) hequals hparen
  have hblock := constraintBlock_leaves_of_constraintBlock hc rest (hrest.notFirst (by decide))
  refine statement_reads.mpr (Or.inl ⟨hk, _, ?_, rfl⟩)
  exact param_reads.mpr ⟨name, typeName, _, type, default, _, constraints, by simp, hn, ht,
    (ofName?_eq_some_iff _ _).mpr htype, hdefault, hblock, rfl⟩

theorem readsAs_var {v : Variable} (h : VarDeclaration ts v) : ReadsAs ts (.var v) := by
  obtain ⟨keyword, name, equals, value, e, hk, hn, hq, he⟩ := h
  refine ⟨keyword, name :: equals :: value, rfl, by simp [hk, keywords], ?_⟩
  intro rest hrest
  have hexpr := reads_of_expression he rest (hrest.notFirst (by decide))
  refine statement_reads.mpr (Or.inr (Or.inl ⟨hk, _, ?_, rfl⟩))
  exact var_reads.mpr ⟨name, equals, _, e, rfl, hn, hq, hexpr, rfl⟩

theorem readsAs_node {n : Node} (h : NodeDeclaration ts n) : ReadsAs ts (.entry (.node n)) := by
  obtain ⟨keyword, name, tag, block, entries, point, hk, hn, ht, hb, points, hall, hlast⟩ := h
  refine ⟨keyword, name :: tag :: block, rfl, by simp [hk, keywords], ?_⟩
  intro rest _
  obtain ⟨es, rfl, hbody⟩ := body_reads_of_block hb rest
  have hsplit := (splitPoint_eq_ok_iff none es _ _).mpr ⟨rfl, points, hall, by simpa using hlast⟩
  refine statement_reads.mpr (Or.inr (Or.inr (Or.inl ⟨hk, _, ?_, rfl⟩)))
  exact node_reads.mpr ⟨name, tag, _, es, _, _, rfl, hn, ht, hbody, hsplit, rfl⟩

theorem readsAs_module {m : ModuleRef} (h : ModuleDeclaration ts m) :
    ReadsAs ts (.entry (.module m)) := by
  obtain ⟨keyword, name, equals, path, block, entries, hk, hn, hq, hp, hb⟩ := h
  refine ⟨keyword, name :: equals :: path :: block, rfl, by simp [hk, keywords], ?_⟩
  intro rest _
  obtain ⟨es, rfl, hbody⟩ := body_reads_of_block hb rest
  refine statement_reads.mpr (Or.inr (Or.inr (Or.inr (Or.inl ⟨hk, _, ?_, rfl⟩))))
  exact moduleRef_reads.mpr ⟨name, equals, path, _, es, rfl, hn, hq, hp, hbody, rfl⟩

theorem readsAs_connection {c : Connection} (h : ConnectDeclaration ts c) :
    ReadsAs ts (.connection c) := by
  obtain ⟨keyword, arrow, left, right, source, target, hk, hs, ha, ht⟩ := h
  refine ⟨keyword, left ++ arrow :: right, rfl, by simp [hk, keywords], ?_⟩
  intro rest hrest
  have hdot : NotFirst .dot (arrow :: (right ++ rest)) := notFirst_cons.mpr (by rw [ha]; decide)
  have hsource := endpoint_reads_of_endpointName hs .sourceName _ hdot
  have htarget := endpoint_reads_of_endpointName ht .targetName rest (hrest.notFirst (by decide))
  refine statement_reads.mpr (Or.inr (Or.inr (Or.inr (Or.inr ⟨hk, _, ?_, rfl⟩))))
  rw [show left ++ arrow :: right ++ rest = left ++ arrow :: (right ++ rest) by simp]
  exact connection_reads.mpr ⟨source, arrow, _, target, hsource, ha, htarget, rfl⟩

end Declarations

inductive Statements : List Token → List Statement → Prop
  | nil : Statements [] []
  | cons (ts separator rest : List Token) (s : Statement) (ss : List Statement)
      (hs : ReadsAs ts s) (hsep : Optional .semicolon separator) (hr : Statements rest ss) :
      Statements (ts ++ separator ++ rest) (s :: ss)

/-- Declarations by kind are statements in the order of the source. -/
theorem exists_statements {ts : List Token} {ps : List Param} {vs : List Variable}
    {es : List Entry} {cs : List Connection} (h : Declarations ts ps vs es cs) :
    ∃ ss, Statements ts ss ∧ ps = ss.filterMap Statement.param? ∧
      vs = ss.filterMap Statement.var? ∧ es = ss.filterMap Statement.entry? ∧
      cs = ss.filterMap Statement.connection? := by
  induction h with
  | nil => exact ⟨[], Statements.nil, rfl, rfl, rfl, rfl⟩
  | param ts separator rest p ps vs es cs hd hs _ ih =>
    obtain ⟨ss, hss, rfl, rfl, rfl, rfl⟩ := ih
    exact ⟨.param p :: ss, Statements.cons ts separator rest _ ss (readsAs_param hd) hs hss, rfl,
      rfl, rfl, rfl⟩
  | var ts separator rest v ps vs es cs hd hs _ ih =>
    obtain ⟨ss, hss, rfl, rfl, rfl, rfl⟩ := ih
    exact ⟨.var v :: ss, Statements.cons ts separator rest _ ss (readsAs_var hd) hs hss, rfl,
      rfl, rfl, rfl⟩
  | node ts separator rest n ps vs es cs hd hs _ ih =>
    obtain ⟨ss, hss, rfl, rfl, rfl, rfl⟩ := ih
    exact ⟨.entry (.node n) :: ss, Statements.cons ts separator rest _ ss (readsAs_node hd) hs hss,
      rfl, rfl, rfl, rfl⟩
  | module ts separator rest m ps vs es cs hd hs _ ih =>
    obtain ⟨ss, hss, rfl, rfl, rfl, rfl⟩ := ih
    exact ⟨.entry (.module m) :: ss,
      Statements.cons ts separator rest _ ss (readsAs_module hd) hs hss, rfl, rfl, rfl, rfl⟩
  | connection ts separator rest c ps vs es cs hd hs _ ih =>
    obtain ⟨ss, hss, rfl, rfl, rfl, rfl⟩ := ih
    exact ⟨.connection c :: ss,
      Statements.cons ts separator rest _ ss (readsAs_connection hd) hs hss, rfl, rfl, rfl, rfl⟩

theorem statements_first {ts : List Token} {ss : List Statement} (h : Statements ts ss)
    (closing : Token) (rest : List Token) (hc : closing.kind = .rbrace) :
    ∃ t more, ts ++ closing :: rest = t :: more ∧ t.kind ∈ .rbrace :: keywords := by
  cases h with
  | nil => exact ⟨closing, rest, rfl, by simp [hc]⟩
  | cons ts separator more s ss hs hsep hr =>
    obtain ⟨t, tail, rfl, ht, -⟩ := hs
    exact ⟨t, _, rfl, List.mem_cons_of_mem _ ht⟩

/-- Statements are read up to the brace that closes the workflow. -/
theorem statements_reads_of_statements {ts : List Token} {ss : List Statement}
    (h : Statements ts ss) (closing : Token) (rest : List Token) (hc : closing.kind = .rbrace) :
    (statements (ts ++ closing :: rest)).Reads ss rest := by
  induction h with
  | nil => exact (statements_reads_close hc).mpr ⟨rfl, rfl⟩
  | cons ts separator more s ss hs hsep hm ih =>
    obtain ⟨t, tail, rfl, ht, hread⟩ := hs
    obtain ⟨u, after, hfirst, hu⟩ := statements_first hm closing rest hc
    have hsemicolon : NotFirst .semicolon (more ++ closing :: rest) := by
      rw [hfirst]
      refine notFirst_cons.mpr fun heq => ?_
      rw [heq] at hu
      exact absurd hu (by decide)
    have hends : EndsDeclaration (separator ++ (more ++ closing :: rest)) := by
      rw [hfirst]
      intro v hv
      cases hsep with
      | absent =>
        obtain rfl : u = v := by simpa using hv
        exact List.mem_cons_of_mem _ hu
      | present w hw =>
        obtain rfl : w = v := by simpa using hv
        simp [hw]
    have hne : t.kind ≠ .rbrace := by
      intro heq
      rw [heq] at ht
      exact absurd ht (by decide)
    rw [show t :: tail ++ separator ++ more ++ closing :: rest =
      t :: (tail ++ (separator ++ (more ++ closing :: rest))) by simp]
    exact (statements_reads_cons hne).mpr
      ⟨s, _, ss, hread _ hends, by rwa [skip_append hsep hsemicolon], rfl⟩

/-- Every derivation of a workflow is read. -/
theorem workflow_of_derives {ts : List Token} {w : Workflow} (h : Derives ts w) :
    workflow ts = .ok w := by
  obtain ⟨keyword, name, opening, closing, inner, ps, vs, es, cs, hk, hn, ho, hd, hc⟩ := h
  obtain ⟨ss, hss, rfl, rfl, rfl, rfl⟩ := exists_statements hd
  have hread := statements_reads_of_statements hss closing [] hc
  exact workflow_eq_ok.mpr ⟨keyword, name, opening, _, ss, by simp, hk, hn, ho, hread, rfl⟩

end FlowGraph.Grammar
