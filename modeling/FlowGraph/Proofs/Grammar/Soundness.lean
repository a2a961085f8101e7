import FlowGraph.Proofs.Grammar.Folding
import FlowGraph.Proofs.Grammar.Reading

/-!
What is read is derivable. A step takes a beginning of its tokens that derives
what it makes of them, so an accepted list of tokens derives the workflow that is
read from it.
-/

namespace FlowGraph.Grammar

open FlowGraph.Parser

/-- What is passed over is a separator or nothing. -/
theorem exists_optional_skip (kind : TokenKind) (ts : List Token) :
    ∃ separator, Optional kind separator ∧ ts = separator ++ (skip kind ts).val := by
  rcases skip_cases kind ts with ⟨t, ht, hts⟩ | ⟨hts, -⟩
  · exact ⟨[t], Optional.present t ht, hts⟩
  · exact ⟨[], Optional.absent, hts.symm⟩

theorem expression_stringExpr (t : Token) (ht : t.kind = .string) :
    Expression [t] (stringExpr t.text) := by
  unfold stringExpr
  split
  · next hs => exact Expression.quoted t ht ((Text.contains_eq_true_iff _ _).mp hs)
  · next hs => exact Expression.text t ht fun h => hs ((Text.contains_eq_true_iff _ _).mpr h)

inductive Closes : Nat → List Token → Prop
  | balanced (ts : List Token) (h : Balanced ts) : Closes 0 ts
  | close (depth : Nat) (inner rest : List Token) (closing : Token) (hi : Balanced inner)
      (hc : closing.kind = .rbrace) (hr : Closes depth rest) :
      Closes (depth + 1) (inner ++ closing :: rest)

theorem Closes.plain {depth : Nat} {ts : List Token} (h : Closes depth ts) (t : Token)
    (ho : ¬ Opens t) (hc : t.kind ≠ .rbrace) : Closes depth (t :: ts) := by
  cases h with
  | balanced _ h => exact Closes.balanced _ (Balanced.plain t _ ho hc h)
  | close depth inner rest closing hi hk hr =>
    exact Closes.close depth (t :: inner) rest closing (Balanced.plain t inner ho hc hi) hk hr

theorem Closes.nested {depth : Nat} {ts : List Token} (h : Closes (depth + 1) ts) (t : Token)
    (ho : Opens t) : Closes depth (t :: ts) := by
  obtain ⟨-⟩ | ⟨_, inner, rest, closing, hi, hc, hr⟩ := h
  cases hr with
  | balanced _ hr => exact Closes.balanced _ (Balanced.nested t closing inner rest ho hi hc hr)
  | close depth between rest last hb hl hr =>
    have hb' := Balanced.nested t closing inner between ho hi hc hb
    simpa using Closes.close depth _ rest last hb' hl hr

/-- What stands between the start of a template and its end. -/
theorem closes_of_templateEnds {depth : Nat} {ts rest : List Token} {text : String}
    (h : TemplateEnds depth ts text rest) :
    ∃ inner closing, ts = inner ++ closing :: rest ∧ Closes depth inner ∧
      closing.kind = .rbrace ∧ text = joined inner ++ "\x7d" := by
  induction ts generalizing depth text with
  | nil => exact absurd h not_templateEnds_nil
  | cons t more ih =>
    by_cases hend : t.kind = .rbrace ∧ depth = 0
    · obtain ⟨ht, rfl⟩ := hend
      obtain ⟨rfl, rfl⟩ := (templateEnds_close ht).mp h
      exact ⟨[], t, rfl, Closes.balanced [] Balanced.nil, ht, rfl⟩
    · obtain ⟨text', hmore, rfl⟩ := (templateEnds_cons hend).mp h
      obtain ⟨inner, closing, rfl, hinner, hc, rfl⟩ := ih hmore
      refine ⟨t :: inner, closing, rfl, ?_, hc, by simp [String.append_assoc]⟩
      by_cases ho : Opens t
      · rw [depthAfter, if_pos (by exact ho)] at hinner
        exact hinner.nested t ho
      · rw [depthAfter, if_neg (by exact ho)] at hinner
        by_cases hr : t.kind = .rbrace
        · obtain ⟨d, rfl⟩ : ∃ d, depth = d + 1 :=
            Nat.exists_eq_succ_of_ne_zero fun hd => hend ⟨hr, hd⟩
          rw [if_pos hr] at hinner
          exact Closes.close d [] inner t Balanced.nil hr hinner
        · rw [if_neg hr] at hinner
          exact hinner.plain t ho hr

mutual

/-- What is read as an expression derives it. -/
theorem expression_of_reads {ts rest : List Token} {e : Expr} (h : (expr ts).Reads e rest) :
    ∃ read, ts = read ++ rest ∧ Expression read e := by
  match ts, h with
  | [], h => exact absurd h not_expr_reads_nil
  | t :: more, h =>
    cases hk : t.kind with
    | string =>
      obtain ⟨rfl, rfl⟩ := (expr_reads_string hk).mp h
      exact ⟨[t], rfl, expression_stringExpr t hk⟩
    | number =>
      obtain ⟨v, hv, rfl, rfl⟩ := (expr_reads_number hk).mp h
      exact ⟨[t], rfl, Expression.number t v hk ((numberValue?_eq_some_iff _ _).mp hv)⟩
    | boolean =>
      obtain ⟨rfl, rfl⟩ := (expr_reads_boolean hk).mp h
      exact ⟨[t], rfl, Expression.boolean t hk⟩
    | null =>
      obtain ⟨rfl, rfl⟩ := (expr_reads_null hk).mp h
      exact ⟨[t], rfl, Expression.null t hk⟩
    | identifier =>
      by_cases hcall : NotFirst .lparen more
      · obtain ⟨rfl, rfl⟩ := (expr_reads_ident hk hcall).mp h
        exact ⟨[t], rfl, Expression.ident t hk⟩
      · obtain ⟨p, inner, hmore, hp⟩ := exists_cons_of_not_notFirst hcall
        rw [hmore] at h ⊢
        obtain ⟨args, hargs, rfl⟩ := (expr_reads_call hk hp).mp h
        obtain ⟨read, closing, hinner, hitems, hc⟩ := items_of_reads hargs
        exact ⟨t :: p :: read ++ [closing], by simp [hinner],
          Expression.call t p closing read args hk hp hitems hc⟩
    | lbrace =>
      obtain ⟨members, hentries, rfl⟩ := (expr_reads_object hk).mp h
      obtain ⟨read, closing, rfl, hmembers, hc⟩ := members_of_reads hentries
      exact ⟨t :: read ++ [closing], by simp, Expression.object t closing read members hk hmembers
        hc⟩
    | lbracket =>
      obtain ⟨es, hes, rfl⟩ := (expr_reads_array hk).mp h
      obtain ⟨read, closing, rfl, hitems, hc⟩ := items_of_reads hes
      exact ⟨t :: read ++ [closing], by simp, Expression.array t closing read es hk hitems hc⟩
    | templateStart =>
      obtain ⟨text, htext, rfl⟩ := (expr_reads_template hk).mp h
      obtain ⟨inner, closing, rfl, hinner, hc, rfl⟩ := closes_of_templateEnds htext
      obtain ⟨_, hbalanced⟩ := hinner
      refine ⟨t :: inner ++ [closing], by simp, ?_⟩
      simpa only [String.append_assoc] using Expression.bare t closing inner hk hbalanced hc
    | _ => exact absurd h (not_expr_reads_other (by rw [hk]; rfl))
termination_by 2 * ts.length
decreasing_by
  · simp only [List.length_cons, hmore]
    omega
  all_goals
    simp only [List.length_cons]
    omega

/-- A list that is read ends with a token of the closing kind. -/
theorem items_of_reads {close : TokenKind} {ts rest : List Token} {es : List Expr}
    (h : (items close ts).Reads es rest) :
    ∃ read closing, ts = read ++ closing :: rest ∧ Items read es ∧ closing.kind = close := by
  match ts, h with
  | [], h => exact absurd h not_items_reads_nil
  | t :: more, h =>
    by_cases ht : t.kind = close
    · obtain ⟨rfl, rfl⟩ := (items_reads_close ht).mp h
      exact ⟨[], t, rfl, Items.nil, ht⟩
    · obtain ⟨e, after, es', hexpr, hitems, rfl⟩ := (items_reads_cons ht).mp h
      have hlt : (skip .comma after).val.length < (t :: more).length :=
        Nat.lt_of_le_of_lt (skip .comma after).property (reads_length hexpr)
      obtain ⟨item, hitem, he⟩ := expression_of_reads hexpr
      obtain ⟨separator, hs, hafter⟩ := exists_optional_skip .comma after
      obtain ⟨read, closing, hread, hr, hc⟩ := items_of_reads hitems
      refine ⟨item ++ separator ++ read, closing, ?_, Items.cons item separator read e es' he hs hr,
        hc⟩
      rw [hitem, hafter, hread]
      simp
termination_by 2 * ts.length + 1
decreasing_by all_goals omega

theorem members_of_reads {ts rest : List Token} {es : List (String × Expr)}
    (h : (entries ts).Reads es rest) :
    ∃ read closing, ts = read ++ closing :: rest ∧ Members read es ∧ closing.kind = .rbrace := by
  match ts, h with
  | [], h => exact absurd h not_entries_reads_nil
  | t :: more, h =>
    by_cases ht : t.kind = .rbrace
    · obtain ⟨rfl, rfl⟩ := (entries_reads_close ht).mp h
      exact ⟨[], t, rfl, Members.nil, ht⟩
    · obtain ⟨hk, colon, value, e, after, es', hmore, hcolon, hexpr, hentries, rfl⟩ :=
        (entries_reads_cons ht).mp h
      have hlt : (skip .comma after).val.length < value.length :=
        Nat.lt_of_le_of_lt (skip .comma after).property (reads_length hexpr)
      obtain ⟨item, hitem, he⟩ := expression_of_reads hexpr
      obtain ⟨separator, hs, hafter⟩ := exists_optional_skip .comma after
      obtain ⟨read, closing, hread, hr, hc⟩ := members_of_reads hentries
      refine ⟨t :: colon :: item ++ separator ++ read, closing, ?_,
        Members.cons t colon item separator read e es' hk hcolon he hs hr, hc⟩
      rw [hmore, hitem, hafter, hread]
      simp
termination_by 2 * ts.length + 1
decreasing_by all_goals (simp only [List.length_cons, hmore]; omega)

end

theorem entries_of_reads {ts rest : List Token} {es : List (Token × Expr)}
    (h : (bodyEntries ts).Reads es rest) :
    ∃ read closing, ts = read ++ closing :: rest ∧ Entries read (named es) ∧
      closing.kind = .rbrace := by
  match ts, h with
  | [], h => exact absurd h not_bodyEntries_reads_nil
  | t :: more, h =>
    by_cases ht : t.kind = .rbrace
    · obtain ⟨rfl, rfl⟩ := (bodyEntries_reads_close ht).mp h
      exact ⟨[], t, rfl, Entries.nil, ht⟩
    · obtain ⟨hk, colon, value, e, after, es', hmore, hcolon, hexpr, hentries, rfl⟩ :=
        (bodyEntries_reads_cons ht).mp h
      have hlt : (skip .comma after).val.length < value.length :=
        Nat.lt_of_le_of_lt (skip .comma after).property (reads_length hexpr)
      obtain ⟨item, hitem, he⟩ := expression_of_reads hexpr
      obtain ⟨separator, hs, hafter⟩ := exists_optional_skip .comma after
      obtain ⟨read, closing, hread, hr, hc⟩ := entries_of_reads hentries
      refine ⟨t :: colon :: item ++ separator ++ read, closing, ?_,
        Entries.cons t colon item separator read e (named es') hk hcolon he hs hr, hc⟩
      rw [hmore, hitem, hafter, hread]
      simp
termination_by ts.length
decreasing_by
  simp only [List.length_cons, hmore]
  omega

/-- A body that is read is a block of its entries. -/
theorem block_of_reads {ts rest : List Token} {es : List (Token × Expr)}
    (h : (body ts).Reads es rest) : ∃ read, ts = read ++ rest ∧ Block read (named es) := by
  obtain ⟨opening, inner, rfl, ho, hentries⟩ := body_reads.mp h
  obtain ⟨read, closing, rfl, hr, hc⟩ := entries_of_reads hentries
  exact ⟨opening :: read ++ [closing], by simp, Block.mk opening closing read (named es) ho hr hc⟩

theorem default_of_leaves {ts rest : List Token} {d : Option Expr}
    (h : Leaves (default? ts) d rest) : ∃ read, ts = read ++ rest ∧ Default read d := by
  by_cases hts : NotFirst .equals ts
  · obtain ⟨rfl, rfl⟩ := (default?_leaves_absent hts).mp h
    exact ⟨[], rfl, Default.absent⟩
  · obtain ⟨equals, more, rfl, hk⟩ := exists_cons_of_not_notFirst hts
    obtain ⟨e, hexpr, rfl⟩ := (default?_leaves_present hk).mp h
    obtain ⟨value, rfl, he⟩ := expression_of_reads hexpr
    exact ⟨equals :: value, rfl, Default.present equals value e hk he⟩

/-- Constraints that are read are those of a block, or there is no block. -/
theorem constraintBlock_of_leaves {ts rest : List Token} {c : Constraints}
    (h : Leaves (constraintBlock ts) c rest) :
    ∃ read, ts = read ++ rest ∧ ConstraintBlock read c := by
  by_cases hts : NotFirst .lbrace ts
  · obtain ⟨rfl, rfl⟩ := (constraintBlock_leaves_absent hts).mp h
    exact ⟨[], rfl, ConstraintBlock.absent⟩
  · obtain ⟨opening, more, rfl, ho⟩ := exists_cons_of_not_notFirst hts
    have hread := (constraintBlock_leaves_present ho).mp h
    obtain ⟨es, rs, hentries, hrs, rfl⟩ := constraints_reads_iff.mp hread
    obtain ⟨read, closing, rfl, hr, hc⟩ := entries_of_reads hentries
    refine ⟨opening :: read ++ [closing], by simp, ?_⟩
    rw [Restriction.foldl_applyTo_empty]
    exact ConstraintBlock.present _ (named es) rs
      (Block.mk opening closing read (named es) ho hr hc) hrs

theorem endpointName_of_reads {ts rest : List Token} {expected : Expected} {e : Endpoint}
    (h : (endpoint expected ts).Reads e rest) :
    ∃ read, ts = read ++ rest ∧ EndpointName read e := by
  obtain ⟨node, afterNode, name, rfl, hn, hport, rfl⟩ := endpoint_reads.mp h
  by_cases hdot : NotFirst .dot afterNode
  · obtain ⟨rfl, rfl⟩ := (port_leaves_absent hdot).mp hport
    exact ⟨[node], rfl, EndpointName.plain node hn⟩
  · obtain ⟨dot, more, rfl, hd⟩ := exists_cons_of_not_notFirst hdot
    obtain ⟨port, rfl, hp, rfl⟩ := (port_leaves_present hd).mp hport
    exact ⟨[node, dot, port], rfl, EndpointName.port node dot port hn hd hp⟩

section Declarations

variable {keyword : Token} {ts rest : List Token}

/-- A parameter that is read is declared by the tokens that were taken for it. -/
theorem paramDeclaration_of_reads {p : Param} (hk : keyword.kind = .param)
    (h : (param keyword.pos ts).Reads p rest) :
    ∃ read, keyword :: ts = read ++ rest ∧ ParamDeclaration read p := by
  obtain ⟨name, typeName, afterType, type, default, afterDefault, constraints, rfl, hn, ht, htype,
    hdefault, hblock, rfl⟩ := param_reads.mp h
  obtain ⟨value, rfl, hd⟩ := default_of_leaves hdefault
  obtain ⟨block, rfl, hc⟩ := constraintBlock_of_leaves hblock
  refine ⟨keyword :: name :: typeName :: value ++ block, by simp, ?_⟩
  exact ParamDeclaration.mk keyword name typeName value block type default constraints hk hn ht
    ((ofName?_eq_some_iff _ _).mp htype) hd hc

theorem varDeclaration_of_reads {v : Variable} (hk : keyword.kind = .var)
    (h : (var keyword.pos ts).Reads v rest) :
    ∃ read, keyword :: ts = read ++ rest ∧ VarDeclaration read v := by
  obtain ⟨name, equals, value, e, rfl, hn, hq, hexpr, rfl⟩ := var_reads.mp h
  obtain ⟨read, rfl, he⟩ := expression_of_reads hexpr
  exact ⟨keyword :: name :: equals :: read, rfl,
    VarDeclaration.mk keyword name equals read e hk hn hq he⟩

theorem nodeDeclaration_of_reads {n : Node} (hk : keyword.kind = .node)
    (h : (node keyword.pos ts).Reads n rest) :
    ∃ read, keyword :: ts = read ++ rest ∧ NodeDeclaration read n := by
  obtain ⟨name, tag, afterTag, es, parameters, point, rfl, hn, ht, hbody, hsplit, rfl⟩ :=
    node_reads.mp h
  obtain ⟨block, rfl, hb⟩ := block_of_reads hbody
  obtain ⟨rfl, points, hall, hlast⟩ := (splitPoint_eq_ok_iff none es _ _).mp hsplit
  refine ⟨keyword :: name :: tag :: block, rfl, ?_⟩
  exact NodeDeclaration.mk keyword name tag block (named es) point hk hn ht hb
    ⟨points, hall, by simpa using hlast⟩

theorem moduleDeclaration_of_reads {m : ModuleRef} (hk : keyword.kind = .module)
    (h : (moduleRef keyword.pos ts).Reads m rest) :
    ∃ read, keyword :: ts = read ++ rest ∧ ModuleDeclaration read m := by
  obtain ⟨name, equals, path, afterPath, es, rfl, hn, hq, hp, hbody, rfl⟩ := moduleRef_reads.mp h
  obtain ⟨block, rfl, hb⟩ := block_of_reads hbody
  exact ⟨keyword :: name :: equals :: path :: block, rfl,
    ModuleDeclaration.mk keyword name equals path block (named es) hk hn hq hp hb⟩

theorem connectDeclaration_of_reads {c : Connection} (hk : keyword.kind = .connect)
    (h : (connection keyword.pos ts).Reads c rest) :
    ∃ read, keyword :: ts = read ++ rest ∧ ConnectDeclaration read c := by
  obtain ⟨source, arrow, afterArrow, target, hsource, ha, htarget, rfl⟩ := connection_reads.mp h
  obtain ⟨left, rfl, hs⟩ := endpointName_of_reads hsource
  obtain ⟨right, rfl, ht⟩ := endpointName_of_reads htarget
  exact ⟨keyword :: left ++ arrow :: right, by simp,
    ConnectDeclaration.mk keyword arrow left right source target hk hs ha ht⟩

end Declarations

/-- A statement that is read, put before derived declarations, is one more
declaration of its kind. -/
theorem declarations_cons_of_reads {t : Token} {ts after separator rest : List Token}
    {s : Statement} {ss : List Statement} (h : (statement t ts).Reads s after)
    (hs : Optional .semicolon separator)
    (hr : Declarations rest (ss.filterMap Statement.param?) (ss.filterMap Statement.var?)
      (ss.filterMap Statement.entry?) (ss.filterMap Statement.connection?)) :
    ∃ read, t :: ts = read ++ after ∧
      Declarations (read ++ separator ++ rest) ((s :: ss).filterMap Statement.param?)
        ((s :: ss).filterMap Statement.var?) ((s :: ss).filterMap Statement.entry?)
        ((s :: ss).filterMap Statement.connection?) := by
  rcases statement_reads.mp h with ⟨hk, p, hp, rfl⟩ | ⟨hk, v, hv, rfl⟩ | ⟨hk, n, hn, rfl⟩ |
    ⟨hk, m, hm, rfl⟩ | ⟨hk, c, hc, rfl⟩
  · obtain ⟨read, hread, hd⟩ := paramDeclaration_of_reads hk hp
    exact ⟨read, hread, Declarations.param read separator rest p _ _ _ _ hd hs hr⟩
  · obtain ⟨read, hread, hd⟩ := varDeclaration_of_reads hk hv
    exact ⟨read, hread, Declarations.var read separator rest v _ _ _ _ hd hs hr⟩
  · obtain ⟨read, hread, hd⟩ := nodeDeclaration_of_reads hk hn
    exact ⟨read, hread, Declarations.node read separator rest n _ _ _ _ hd hs hr⟩
  · obtain ⟨read, hread, hd⟩ := moduleDeclaration_of_reads hk hm
    exact ⟨read, hread, Declarations.module read separator rest m _ _ _ _ hd hs hr⟩
  · obtain ⟨read, hread, hd⟩ := connectDeclaration_of_reads hk hc
    exact ⟨read, hread, Declarations.connection read separator rest c _ _ _ _ hd hs hr⟩

/-- Statements that are read are declarations, by kind and in order. -/
theorem declarations_of_reads {ts rest : List Token} {ss : List Statement}
    (h : (statements ts).Reads ss rest) :
    ∃ read closing, ts = read ++ closing :: rest ∧ closing.kind = .rbrace ∧
      Declarations read (ss.filterMap Statement.param?) (ss.filterMap Statement.var?)
        (ss.filterMap Statement.entry?) (ss.filterMap Statement.connection?) := by
  match ts, h with
  | [], h => exact absurd h not_statements_reads_nil
  | t :: more, h =>
    by_cases ht : t.kind = .rbrace
    · obtain ⟨rfl, rfl⟩ := (statements_reads_close ht).mp h
      exact ⟨[], t, rfl, ht, Declarations.nil⟩
    · obtain ⟨s, after, ss', hstatement, hstatements, rfl⟩ := (statements_reads_cons ht).mp h
      have hlt : (skip .semicolon after).val.length < (t :: more).length :=
        Nat.lt_of_le_of_lt (skip .semicolon after).property (reads_length hstatement)
      obtain ⟨separator, hs, hafter⟩ := exists_optional_skip .semicolon after
      obtain ⟨inner, closing, hinner, hc, hr⟩ := declarations_of_reads hstatements
      obtain ⟨read, hread, hd⟩ := declarations_cons_of_reads hstatement hs hr
      refine ⟨read ++ separator ++ inner, closing, ?_, hc, hd⟩
      rw [hread, hafter, hinner]
      simp
termination_by ts.length
decreasing_by exact hlt

/-- Whatever is read as a workflow derives it. -/
theorem derives_of_workflow {ts : List Token} {w : Workflow} (h : workflow ts = .ok w) :
    Derives ts w := by
  obtain ⟨keyword, name, opening, inner, ss, rfl, hk, hn, ho, hstatements, rfl⟩ :=
    workflow_eq_ok.mp h
  obtain ⟨read, closing, rfl, hc, hd⟩ := declarations_of_reads hstatements
  exact Derives.mk keyword name opening closing read _ _ _ _ hk hn ho hd hc

end FlowGraph.Grammar
