import FlowGraph.Proofs.Except
import FlowGraph.Proofs.Grammar

/-!
What each reading step does, as a relation between the tokens it is given, what
it makes of them and the tokens it leaves. Every later proof about reading goes
through the statements here and does not look into the steps again.
-/

namespace FlowGraph.Parser

open Text (Unread Left)

/-- The step succeeds with `a` and leaves `rest`. -/
def Step.Reads {α : Type} {ts : List Token} (step : Step α ts) (a : α) (rest : List Token) : Prop :=
  ∃ h, step = .ok (a, ⟨rest, h⟩)

def NotFirst (kind : TokenKind) (ts : List Token) : Prop :=
  ∀ t ∈ ts.head?, t.kind ≠ kind

section Steps

variable {α β : Type} {ts rest : List Token}

theorem notFirst_nil (kind : TokenKind) : NotFirst kind [] := by
  simp [NotFirst]

theorem notFirst_cons {kind : TokenKind} {t : Token} : NotFirst kind (t :: ts) ↔ t.kind ≠ kind := by
  simp [NotFirst]

theorem exists_cons_of_not_notFirst {kind : TokenKind} (h : ¬ NotFirst kind ts) :
    ∃ t more, ts = t :: more ∧ t.kind = kind := by
  cases ts with
  | nil => exact absurd (notFirst_nil kind) h
  | cons t more => exact ⟨t, more, rfl, not_not.mp fun ht => h (notFirst_cons.mpr ht)⟩

theorem reads_ok {a b : α} {after : Unread ts} :
    Step.Reads (.ok (b, after)) a rest ↔ a = b ∧ rest = after.val := by
  constructor
  · rintro ⟨h, he⟩
    cases he
    exact ⟨rfl, rfl⟩
  · rintro ⟨rfl, rfl⟩
    exact ⟨after.property, rfl⟩

theorem not_reads_error {a : α} {fault : Fault} :
    ¬ Step.Reads (.error fault : Step α ts) a rest := by
  rintro ⟨h, he⟩
  cases he

theorem not_reads_stop {a : α} {expected : Expected} {us : List Token} :
    ¬ Step.Reads (stop expected us : Step α ts) a rest :=
  not_reads_error

/-- A step after another reads what the other one leaves. -/
theorem reads_bind {x : Except Fault α} {f : α → Step β ts} {b : β} :
    Step.Reads (x >>= f) b rest ↔ ∃ a, x = .ok a ∧ (f a).Reads b rest := by
  cases x with
  | error fault => simpa [bind, Except.bind] using not_reads_error
  | ok a => simp [bind, Except.bind]

/-- The last of several steps, whose result is only put into another form. -/
theorem exists_reads_ok {us : List Token} {step : Step α us} {f : α → β} {b : β}
    {hshorter : ∀ after : List Token, after.length < us.length → after.length < ts.length} :
    (∃ a after, ∃ h : after.length < us.length, step = .ok (a, ⟨after, h⟩) ∧
      Step.Reads (.ok (f a, ⟨after, hshorter after h⟩) : Step β ts) b rest) ↔
    ∃ a, step.Reads a rest ∧ b = f a := by
  constructor
  · rintro ⟨a, after, h, hstep, hread⟩
    obtain ⟨rfl, rfl⟩ := reads_ok.mp hread
    exact ⟨a, ⟨h, hstep⟩, rfl⟩
  · rintro ⟨a, ⟨h, hstep⟩, rfl⟩
    exact ⟨a, rest, h, hstep, reads_ok.mpr ⟨rfl, rfl⟩⟩

theorem reads_under {t : Token} {f : α → β} {step : Step α ts} {b : β} :
    (step.under f : Step β (t :: ts)).Reads b rest ↔ ∃ a, step.Reads a rest ∧ b = f a := by
  cases step with
  | error fault =>
    have hnot (a : α) : ¬ (Step.Reads (.error fault : Step α ts) a rest) := not_reads_error
    simpa [Step.under, Except.map, hnot] using not_reads_error
  | ok result =>
    obtain ⟨a, after, h⟩ := result
    simp only [Step.under, Except.map, reads_ok]
    grind

/-- Every step takes a token. -/
theorem reads_length {step : Step α ts} {a : α} (h : step.Reads a rest) :
    rest.length < ts.length :=
  h.1

/-- A token that is expected is the first one and of the kind. -/
theorem expect_reads {kind : TokenKind} {expected : Expected} {t : Token} :
    (expect kind expected ts).Reads t rest ↔ ts = t :: rest ∧ t.kind = kind := by
  cases ts with
  | nil => simp [expect, not_reads_stop]
  | cons u us =>
    rw [expect]
    split
    · rw [reads_ok]
      simp only [Unread.tail, List.cons.injEq]
      grind
    · simp only [not_reads_stop, false_iff, List.cons.injEq]
      grind

/-- A separator is passed over if it stands there, and nothing else is. -/
theorem skip_cases (kind : TokenKind) (ts : List Token) :
    (∃ t, t.kind = kind ∧ ts = t :: (skip kind ts).val) ∨
      ((skip kind ts).val = ts ∧ NotFirst kind ts) := by
  cases ts with
  | nil => exact Or.inr ⟨rfl, notFirst_nil kind⟩
  | cons t rest =>
    by_cases ht : t.kind = kind
    · exact Or.inl ⟨t, ht, by simp [skip, ht, Left.tail]⟩
    · exact Or.inr ⟨by simp [skip, ht, Left.all], notFirst_cons.mpr ht⟩

end Steps

/-- The template whose inside starts with `ts`, at `depth` open braces, has the
text `text` up to its end, and `rest` follows it. -/
def TemplateEnds (depth : Nat) (ts : List Token) (text : String) (rest : List Token) : Prop :=
  ∃ h, templateText? depth ts = some (text, ⟨rest, h⟩)

def depthAfter (depth : Nat) (t : Token) : Nat :=
  if t.kind = .lbrace ∨ t.kind = .templateStart then depth + 1
  else if t.kind = .rbrace then depth - 1
  else depth

section Templates

variable {depth : Nat} {t : Token} {more rest : List Token} {text : String}

theorem not_templateEnds_nil : ¬ TemplateEnds depth [] text rest := by
  simp [TemplateEnds, templateText?]

theorem templateEnds_close (ht : t.kind = .rbrace) :
    TemplateEnds 0 (t :: more) text rest ↔ text = "\x7d" ∧ rest = more := by
  simp only [TemplateEnds, templateText?, ht]
  grind

/-- A token inside of a template adds its text and may open or close a brace. -/
theorem templateEnds_cons (ht : ¬ (t.kind = .rbrace ∧ depth = 0)) :
    TemplateEnds depth (t :: more) text rest ↔
      ∃ inner, TemplateEnds (depthAfter depth t) more inner rest ∧
        text = templatePiece t ++ inner := by
  rw [TemplateEnds, templateText?]
  simp only [ht, if_false, TemplateEnds, depthAfter]
  split
  · next hnone => simp [hnone]
  · next inner after h hsome =>
    simp only [hsome]
    grind

end Templates

section Expressions

variable {t : Token} {more rest : List Token} {e : Expr}

theorem not_expr_reads_nil : ¬ (expr []).Reads e rest := by
  rw [expr.eq_def]
  exact not_reads_stop

theorem expr_reads_string (ht : t.kind = .string) :
    (expr (t :: more)).Reads e rest ↔ e = stringExpr t.text ∧ rest = more := by
  rw [expr.eq_def]
  simp only [ht, reads_ok]

theorem expr_reads_number (ht : t.kind = .number) :
    (expr (t :: more)).Reads e rest ↔
      ∃ v, numberValue? t.text = some v ∧ e = .literal v ∧ rest = more := by
  rw [expr.eq_def]
  simp only [ht]
  cases numberValue? t.text with
  | none => simp [not_reads_stop]
  | some v => simp [reads_ok]

theorem expr_reads_boolean (ht : t.kind = .boolean) :
    (expr (t :: more)).Reads e rest ↔
      e = .literal (.bool (t.text = "true")) ∧ rest = more := by
  rw [expr.eq_def]
  simp only [ht, reads_ok]

theorem expr_reads_null (ht : t.kind = .null) :
    (expr (t :: more)).Reads e rest ↔ e = .literal .null ∧ rest = more := by
  rw [expr.eq_def]
  simp only [ht, reads_ok]

/-- A name is a name unless a bracket follows it, and then it is called. -/
theorem expr_reads_ident (ht : t.kind = .identifier) (hmore : NotFirst .lparen more) :
    (expr (t :: more)).Reads e rest ↔ e = .ident t.text ∧ rest = more := by
  rw [expr.eq_def]
  cases more with
  | nil => simp only [ht, reads_ok]
  | cons p more =>
    have hp : p.kind ≠ .lparen := notFirst_cons.mp hmore
    simp only [ht, hp, if_false, reads_ok]

theorem expr_reads_call {p : Token} (ht : t.kind = .identifier) (hp : p.kind = .lparen) :
    (expr (t :: p :: more)).Reads e rest ↔
      ∃ args, (items .rparen more).Reads args rest ∧ e = .call t.text args := by
  rw [expr.eq_def]
  simp only [ht, hp, if_true, reads_bind, Prod.exists, Subtype.exists]
  exact exists_reads_ok

theorem expr_reads_object (ht : t.kind = .lbrace) :
    (expr (t :: more)).Reads e rest ↔
      ∃ members, (entries more).Reads members rest ∧ e = .object members := by
  rw [expr.eq_def]
  simp only [ht, reads_bind, Prod.exists, Subtype.exists]
  exact exists_reads_ok

theorem expr_reads_array (ht : t.kind = .lbracket) :
    (expr (t :: more)).Reads e rest ↔
      ∃ es, (items .rbracket more).Reads es rest ∧ e = .array es := by
  rw [expr.eq_def]
  simp only [ht, reads_bind, Prod.exists, Subtype.exists]
  exact exists_reads_ok

/-- A template without quotes goes on to the brace that closes it. -/
theorem expr_reads_template (ht : t.kind = .templateStart) :
    (expr (t :: more)).Reads e rest ↔
      ∃ text, TemplateEnds 0 more text rest ∧ e = .template ("$\x7b" ++ text) := by
  rw [expr.eq_def]
  simp only [ht, TemplateEnds]
  cases templateText? 0 more with
  | none => simp [not_reads_stop]
  | some result =>
    obtain ⟨text, after, h⟩ := result
    simp only [reads_ok]
    grind

def startsExpr : TokenKind → Bool
  | .string | .number | .boolean | .null | .identifier | .lbrace | .lbracket | .templateStart =>
    true
  | _ => false

/-- Other tokens do not start an expression. -/
theorem not_expr_reads_other (ht : startsExpr t.kind = false) :
    ¬ (expr (t :: more)).Reads e rest := by
  rw [expr.eq_def]
  cases hk : t.kind <;> simp_all [startsExpr, not_reads_stop]

theorem items_reads_close {close : TokenKind} {es : List Expr} (ht : t.kind = close) :
    (items close (t :: more)).Reads es rest ↔ es = [] ∧ rest = more := by
  rw [items]
  simp only [ht, if_true, reads_ok]

/-- After each item one comma is passed over if it stands there. -/
theorem items_reads_cons {close : TokenKind} {es : List Expr} (ht : t.kind ≠ close) :
    (items close (t :: more)).Reads es rest ↔
      ∃ e after es', (expr (t :: more)).Reads e after ∧
        (items close (skip .comma after).val).Reads es' rest ∧ es = e :: es' := by
  rw [items]
  simp only [ht, if_false, reads_bind, Prod.exists, Subtype.exists]
  constructor
  · rintro ⟨e, after, h, hexpr, es', final, h₁, hitems, hread⟩
    obtain ⟨rfl, rfl⟩ := reads_ok.mp hread
    exact ⟨e, after, es', ⟨h, hexpr⟩, ⟨h₁, hitems⟩, rfl⟩
  · rintro ⟨e, after, es', ⟨h, hexpr⟩, ⟨h₁, hitems⟩, rfl⟩
    exact ⟨e, after, h, hexpr, es', rest, h₁, hitems, reads_ok.mpr ⟨rfl, rfl⟩⟩

theorem not_items_reads_nil {close : TokenKind} {es : List Expr} :
    ¬ (items close []).Reads es rest := by
  rw [items]
  exact not_reads_stop

theorem entries_reads_close {es : List (String × Expr)} (ht : t.kind = .rbrace) :
    (entries (t :: more)).Reads es rest ↔ es = [] ∧ rest = more := by
  rw [entries]
  simp only [ht, if_true, reads_ok]

/-- A key of an object is a name or a text, and a colon separates it from its value. -/
theorem entries_reads_cons {es : List (String × Expr)} (ht : t.kind ≠ .rbrace) :
    (entries (t :: more)).Reads es rest ↔
      (t.kind = .identifier ∨ t.kind = .string) ∧
        ∃ colon value e after es', more = colon :: value ∧ colon.kind = .colon ∧
          (expr value).Reads e after ∧ (entries (skip .comma after).val).Reads es' rest ∧
          es = (t.text, e) :: es' := by
  rw [entries]
  by_cases hkey : t.kind = .identifier ∨ t.kind = .string
  · simp only [ht, if_false, hkey, if_true, reads_bind, Prod.exists, Subtype.exists, true_and]
    constructor
    · rintro ⟨colon, value, h, hcolon, e, after, h₁, hexpr, es', final, h₂, hentries, hread⟩
      obtain ⟨rfl, hk⟩ := expect_reads.mp ⟨h, hcolon⟩
      obtain ⟨rfl, rfl⟩ := reads_ok.mp hread
      exact ⟨colon, value, e, after, es', rfl, hk, ⟨h₁, hexpr⟩, ⟨h₂, hentries⟩, rfl⟩
    · rintro ⟨colon, value, e, after, es', rfl, hk, ⟨h₁, hexpr⟩, ⟨h₂, hentries⟩, rfl⟩
      obtain ⟨h, hcolon⟩ := expect_reads.mpr ⟨rfl, hk⟩
      exact ⟨colon, value, h, hcolon, e, after, h₁, hexpr, es', rest, h₂, hentries,
        reads_ok.mpr ⟨rfl, rfl⟩⟩
  · simp [ht, hkey, not_reads_stop]

theorem not_entries_reads_nil {es : List (String × Expr)} : ¬ (entries []).Reads es rest := by
  rw [entries]
  exact not_reads_stop

end Expressions

section Blocks

variable {t : Token} {more rest : List Token}

theorem bodyEntries_reads_close {es : List (Token × Expr)} (ht : t.kind = .rbrace) :
    (bodyEntries (t :: more)).Reads es rest ↔ es = [] ∧ rest = more := by
  rw [bodyEntries]
  simp only [ht, if_true, reads_ok]

/-- A key of a body is a name. -/
theorem bodyEntries_reads_cons {es : List (Token × Expr)} (ht : t.kind ≠ .rbrace) :
    (bodyEntries (t :: more)).Reads es rest ↔
      t.kind = .identifier ∧ ∃ colon value e after es', more = colon :: value ∧
        colon.kind = .colon ∧ (expr value).Reads e after ∧
        (bodyEntries (skip .comma after).val).Reads es' rest ∧ es = (t, e) :: es' := by
  rw [bodyEntries]
  simp only [ht, if_false, reads_bind, Prod.exists, Subtype.exists]
  constructor
  · rintro ⟨key, after, h, hkey, colon, value, h₁, hcolon, e, after', h₂, hexpr, es', final, h₃,
      hentries, hread⟩
    obtain ⟨⟨rfl, rfl⟩, hk⟩ : (t = key ∧ more = after) ∧ key.kind = .identifier := by
      simpa using expect_reads.mp ⟨h, hkey⟩
    obtain ⟨rfl, hc⟩ := expect_reads.mp ⟨h₁, hcolon⟩
    obtain ⟨rfl, rfl⟩ := reads_ok.mp hread
    exact ⟨hk, colon, value, e, after', es', rfl, hc, ⟨h₂, hexpr⟩, ⟨h₃, hentries⟩, rfl⟩
  · rintro ⟨hk, colon, value, e, after', es', rfl, hc, ⟨h₂, hexpr⟩, ⟨h₃, hentries⟩, rfl⟩
    obtain ⟨h, hkey⟩ := expect_reads.mpr ⟨rfl, hk⟩
    obtain ⟨h₁, hcolon⟩ := expect_reads.mpr ⟨rfl, hc⟩
    exact ⟨t, _, h, hkey, colon, value, h₁, hcolon, e, after', h₂, hexpr, es', rest, h₃,
      hentries, reads_ok.mpr ⟨rfl, rfl⟩⟩

theorem not_bodyEntries_reads_nil {es : List (Token × Expr)} :
    ¬ (bodyEntries []).Reads es rest := by
  rw [bodyEntries]
  exact not_reads_stop

theorem body_reads {ts : List Token} {es : List (Token × Expr)} :
    (body ts).Reads es rest ↔
      ∃ opening inner, ts = opening :: inner ∧ opening.kind = .lbrace ∧
        (bodyEntries inner).Reads es rest := by
  simp only [body, reads_bind, Prod.exists, Subtype.exists]
  constructor
  · rintro ⟨opening, inner, h, hopen, es', final, h₁, hentries, hread⟩
    obtain ⟨rfl, hk⟩ := expect_reads.mp ⟨h, hopen⟩
    obtain ⟨rfl, rfl⟩ := reads_ok.mp hread
    exact ⟨opening, inner, rfl, hk, ⟨h₁, hentries⟩⟩
  · rintro ⟨opening, inner, rfl, hk, ⟨h₁, hentries⟩⟩
    obtain ⟨h, hopen⟩ := expect_reads.mpr ⟨rfl, hk⟩
    exact ⟨opening, inner, h, hopen, es, rest, h₁, hentries, reads_ok.mpr ⟨rfl, rfl⟩⟩

theorem constraints_reads_close {before c : Constraints} (ht : t.kind = .rbrace) :
    (constraints before (t :: more)).Reads c rest ↔ c = before ∧ rest = more := by
  rw [constraints]
  simp only [ht, if_true, reads_ok]

/-- An entry of a constraint block is combined with what came before it at once. -/
theorem constraints_reads_cons {before c : Constraints} (ht : t.kind ≠ .rbrace) :
    (constraints before (t :: more)).Reads c rest ↔
      t.kind = .identifier ∧ ∃ colon value e after combined, more = colon :: value ∧
        colon.kind = .colon ∧ (expr value).Reads e after ∧
        constrain before t e value.head? = .ok combined ∧
        (constraints combined (skip .comma after).val).Reads c rest := by
  rw [constraints]
  simp only [ht, if_false, reads_bind, Prod.exists, Subtype.exists]
  constructor
  · rintro ⟨key, after, h, hkey, colon, value, h₁, hcolon, e, after', h₂, hexpr, combined,
      hcombined, c', final, h₃, hrest, hread⟩
    obtain ⟨⟨rfl, rfl⟩, hk⟩ : (t = key ∧ more = after) ∧ key.kind = .identifier := by
      simpa using expect_reads.mp ⟨h, hkey⟩
    obtain ⟨rfl, hc⟩ := expect_reads.mp ⟨h₁, hcolon⟩
    obtain ⟨rfl, rfl⟩ := reads_ok.mp hread
    exact ⟨hk, colon, value, e, after', combined, rfl, hc, ⟨h₂, hexpr⟩, hcombined,
      ⟨h₃, hrest⟩⟩
  · rintro ⟨hk, colon, value, e, after', combined, rfl, hc, ⟨h₂, hexpr⟩, hcombined,
      ⟨h₃, hrest⟩⟩
    obtain ⟨h, hkey⟩ := expect_reads.mpr ⟨rfl, hk⟩
    obtain ⟨h₁, hcolon⟩ := expect_reads.mpr ⟨rfl, hc⟩
    exact ⟨t, _, h, hkey, colon, value, h₁, hcolon, e, after', h₂, hexpr, combined, hcombined,
      c, rest, h₃, hrest, reads_ok.mpr ⟨rfl, rfl⟩⟩

theorem not_constraints_reads_nil {before c : Constraints} :
    ¬ (constraints before []).Reads c rest := by
  rw [constraints]
  exact not_reads_stop

end Blocks

def Leaves {α : Type} {ts : List Token} (step : Except Fault (α × Left ts)) (a : α)
    (rest : List Token) : Prop :=
  ∃ h, step = .ok (a, ⟨rest, h⟩)

section Declarations

variable {ts rest : List Token} {pos : Position}

theorem leaves_ok {α : Type} {a b : α} {after : Left ts} :
    Leaves (.ok (b, after)) a rest ↔ a = b ∧ rest = after.val := by
  constructor
  · rintro ⟨h, he⟩
    cases he
    exact ⟨rfl, rfl⟩
  · rintro ⟨rfl, rfl⟩
    exact ⟨after.property, rfl⟩

theorem leaves_bind {α β : Type} {x : Except Fault α} {f : α → Except Fault (β × Left ts)} {b : β} :
    Leaves (x >>= f) b rest ↔ ∃ a, x = .ok a ∧ Leaves (f a) b rest := by
  cases x with
  | error fault =>
    simp only [bind, Except.bind, reduceCtorEq, false_and, exists_false, iff_false]
    rintro ⟨h, he⟩
    cases he
  | ok a => simp [bind, Except.bind]

/-- Without an equals sign there is no default value. -/
theorem default?_leaves_absent {d : Option Expr} (hts : NotFirst .equals ts) :
    Leaves (default? ts) d rest ↔ d = none ∧ rest = ts := by
  cases ts with
  | nil => simp [default?, leaves_ok, Left.all]
  | cons t more =>
    have ht : t.kind ≠ .equals := notFirst_cons.mp hts
    simp only [default?, ht, if_false, leaves_ok, Left.all]

theorem default?_leaves_present {t : Token} {d : Option Expr} (ht : t.kind = .equals) :
    Leaves (default? (t :: ts)) d rest ↔ ∃ e, (expr ts).Reads e rest ∧ d = some e := by
  simp only [default?, ht, if_true, leaves_bind, Prod.exists]
  constructor
  · rintro ⟨e, after, hexpr, hread⟩
    obtain ⟨rfl, rfl⟩ := leaves_ok.mp hread
    exact ⟨e, ⟨after.property, hexpr⟩, rfl⟩
  · rintro ⟨e, ⟨h, hexpr⟩, rfl⟩
    exact ⟨e, ⟨rest, h⟩, hexpr, leaves_ok.mpr ⟨rfl, rfl⟩⟩

theorem constraintBlock_leaves_absent {c : Constraints} (hts : NotFirst .lbrace ts) :
    Leaves (constraintBlock ts) c rest ↔ c = {} ∧ rest = ts := by
  cases ts with
  | nil => simp [constraintBlock, leaves_ok, Left.all]
  | cons t more =>
    have ht : t.kind ≠ .lbrace := notFirst_cons.mp hts
    simp only [constraintBlock, ht, if_false, leaves_ok, Left.all]

theorem constraintBlock_leaves_present {t : Token} {c : Constraints} (ht : t.kind = .lbrace) :
    Leaves (constraintBlock (t :: ts)) c rest ↔ (constraints {} ts).Reads c rest := by
  simp only [constraintBlock, ht, if_true, leaves_bind, Prod.exists]
  constructor
  · rintro ⟨c', after, hconstraints, hread⟩
    obtain ⟨rfl, rfl⟩ := leaves_ok.mp hread
    exact ⟨after.property, hconstraints⟩
  · rintro ⟨h, hconstraints⟩
    exact ⟨c, ⟨rest, h⟩, hconstraints, leaves_ok.mpr ⟨rfl, rfl⟩⟩

/-- A parameter is its name, its type, a default value and constraints, the last two if they are
there. -/
theorem param_reads {p : Param} :
    (param pos ts).Reads p rest ↔
      ∃ name typeName afterType type default afterDefault constraints,
        ts = name :: typeName :: afterType ∧ name.kind = .identifier ∧
        typeName.kind = .identifier ∧ ParamType.ofName? typeName.text = some type ∧
        Leaves (default? afterType) default afterDefault ∧
        Leaves (constraintBlock afterDefault) constraints rest ∧
        p = { name := name.text, type, default, required := default.isNone, constraints, pos } := by
  simp only [param, reads_bind, Prod.exists, Subtype.exists]
  constructor
  · rintro ⟨name, afterName, h, hname, typeName, afterType, h₁, htype, hread⟩
    obtain ⟨rfl, hn⟩ := expect_reads.mp ⟨h, hname⟩
    obtain ⟨rfl, ht⟩ := expect_reads.mp ⟨h₁, htype⟩
    cases hof : ParamType.ofName? typeName.text with
    | none =>
      simp only [hof] at hread
      exact absurd hread not_reads_error
    | some type =>
      simp only [hof, reads_bind, Prod.exists, Subtype.exists] at hread
      obtain ⟨default, afterDefault, hl, hdefault, constraints, final, hl', hblock, hread⟩ := hread
      obtain ⟨rfl, rfl⟩ := reads_ok.mp hread
      exact ⟨name, typeName, afterType, type, default, afterDefault, constraints, rfl, hn, ht, hof,
        ⟨hl, hdefault⟩, ⟨hl', hblock⟩, rfl⟩
  · rintro ⟨name, typeName, afterType, type, default, afterDefault, constraints, rfl, hn, ht, hof,
      ⟨hl, hdefault⟩, ⟨hl', hblock⟩, rfl⟩
    obtain ⟨h, hname⟩ := expect_reads.mpr ⟨rfl, hn⟩
    obtain ⟨h₁, htype⟩ := expect_reads.mpr ⟨rfl, ht⟩
    refine ⟨name, _, h, hname, typeName, afterType, h₁, htype, ?_⟩
    simp only [hof, reads_bind, Prod.exists, Subtype.exists]
    exact ⟨default, afterDefault, hl, hdefault, constraints, rest, hl', hblock,
      reads_ok.mpr ⟨rfl, rfl⟩⟩

theorem var_reads {v : Variable} :
    (var pos ts).Reads v rest ↔
      ∃ name equals value e, ts = name :: equals :: value ∧ name.kind = .identifier ∧
        equals.kind = .equals ∧ (expr value).Reads e rest ∧
        v = { name := name.text, value := e, pos } := by
  simp only [var, reads_bind, Prod.exists, Subtype.exists]
  constructor
  · rintro ⟨name, afterName, h, hname, equals, value, h₁, hequals, e, final, h₂, hexpr, hread⟩
    obtain ⟨rfl, hn⟩ := expect_reads.mp ⟨h, hname⟩
    obtain ⟨rfl, hq⟩ := expect_reads.mp ⟨h₁, hequals⟩
    obtain ⟨rfl, rfl⟩ := reads_ok.mp hread
    exact ⟨name, equals, value, e, rfl, hn, hq, ⟨h₂, hexpr⟩, rfl⟩
  · rintro ⟨name, equals, value, e, rfl, hn, hq, ⟨h₂, hexpr⟩, rfl⟩
    obtain ⟨h, hname⟩ := expect_reads.mpr ⟨rfl, hn⟩
    obtain ⟨h₁, hequals⟩ := expect_reads.mpr ⟨rfl, hq⟩
    exact ⟨name, _, h, hname, equals, value, h₁, hequals, e, rest, h₂, hexpr,
      reads_ok.mpr ⟨rfl, rfl⟩⟩

/-- A node is its name, its tag and a body whose entries `position` are set apart. -/
theorem node_reads {n : Node} :
    (node pos ts).Reads n rest ↔
      ∃ name tag afterTag es parameters point, ts = name :: tag :: afterTag ∧
        name.kind = .identifier ∧ tag.kind = .string ∧ (body afterTag).Reads es rest ∧
        splitPoint none es = .ok (parameters, point) ∧
        n = { name := name.text, tag := tag.text, parameters, point, pos } := by
  simp only [node, reads_bind, Prod.exists, Subtype.exists]
  constructor
  · rintro ⟨name, afterName, h, hname, tag, afterTag, h₁, htag, es, final, h₂, hbody, parameters,
      point, hsplit, hread⟩
    obtain ⟨rfl, hn⟩ := expect_reads.mp ⟨h, hname⟩
    obtain ⟨rfl, ht⟩ := expect_reads.mp ⟨h₁, htag⟩
    obtain ⟨rfl, rfl⟩ := reads_ok.mp hread
    exact ⟨name, tag, afterTag, es, parameters, point, rfl, hn, ht, ⟨h₂, hbody⟩, hsplit, rfl⟩
  · rintro ⟨name, tag, afterTag, es, parameters, point, rfl, hn, ht, ⟨h₂, hbody⟩, hsplit, rfl⟩
    obtain ⟨h, hname⟩ := expect_reads.mpr ⟨rfl, hn⟩
    obtain ⟨h₁, htag⟩ := expect_reads.mpr ⟨rfl, ht⟩
    exact ⟨name, _, h, hname, tag, afterTag, h₁, htag, es, rest, h₂, hbody, parameters, point,
      hsplit, reads_ok.mpr ⟨rfl, rfl⟩⟩

theorem moduleRef_reads {m : ModuleRef} :
    (moduleRef pos ts).Reads m rest ↔
      ∃ name equals path afterPath es, ts = name :: equals :: path :: afterPath ∧
        name.kind = .identifier ∧ equals.kind = .equals ∧ path.kind = .string ∧
        (body afterPath).Reads es rest ∧
        m = { name := name.text, path := path.text,
              parameters := es.map fun (key, e) => (key.text, e), pos } := by
  simp only [moduleRef, reads_bind, Prod.exists, Subtype.exists]
  constructor
  · rintro ⟨name, afterName, h, hname, equals, afterEquals, h₁, hequals, path, afterPath, h₂, hpath,
      es, final, h₃, hbody, hread⟩
    obtain ⟨rfl, hn⟩ := expect_reads.mp ⟨h, hname⟩
    obtain ⟨rfl, hq⟩ := expect_reads.mp ⟨h₁, hequals⟩
    obtain ⟨rfl, hp⟩ := expect_reads.mp ⟨h₂, hpath⟩
    obtain ⟨rfl, rfl⟩ := reads_ok.mp hread
    exact ⟨name, equals, path, afterPath, es, rfl, hn, hq, hp, ⟨h₃, hbody⟩, rfl⟩
  · rintro ⟨name, equals, path, afterPath, es, rfl, hn, hq, hp, ⟨h₃, hbody⟩, rfl⟩
    obtain ⟨h, hname⟩ := expect_reads.mpr ⟨rfl, hn⟩
    obtain ⟨h₁, hequals⟩ := expect_reads.mpr ⟨rfl, hq⟩
    obtain ⟨h₂, hpath⟩ := expect_reads.mpr ⟨rfl, hp⟩
    exact ⟨name, _, h, hname, equals, _, h₁, hequals, path, afterPath, h₂, hpath, es, rest, h₃,
      hbody, reads_ok.mpr ⟨rfl, rfl⟩⟩

theorem port_leaves_absent {name : String} (hts : NotFirst .dot ts) :
    Leaves (port ts) name rest ↔ name = "main" ∧ rest = ts := by
  cases ts with
  | nil => simp [port, leaves_ok, Left.all, Endpoint.defaultPort]
  | cons t more =>
    have ht : t.kind ≠ .dot := notFirst_cons.mp hts
    simp only [port, ht, if_false, leaves_ok, Left.all, Endpoint.defaultPort]

theorem port_leaves_present {t : Token} {name : String} (ht : t.kind = .dot) :
    Leaves (port (t :: ts)) name rest ↔
      ∃ p, ts = p :: rest ∧ (p.kind = .identifier ∨ p.kind = .boolean) ∧ name = p.text := by
  cases ts with
  | nil =>
    simp only [port, ht, if_true, reduceCtorEq, false_and, exists_false, iff_false]
    rintro ⟨h, he⟩
    cases he
  | cons p more =>
    by_cases hp : p.kind = .identifier ∨ p.kind = .boolean
    · simp only [port, ht, hp, if_true, leaves_ok, Left.push, Left.tail, List.cons.injEq]
      grind
    · simp only [port, ht, hp, if_true, if_false, List.cons.injEq]
      constructor
      · rintro ⟨h, he⟩
        cases he
      · rintro ⟨q, ⟨rfl, -⟩, hq, -⟩
        exact absurd hq hp

/-- An endpoint is a node, and the port `main` unless another one is named. -/
theorem endpoint_reads {expected : Expected} {e : Endpoint} :
    (endpoint expected ts).Reads e rest ↔
      ∃ node afterNode name, ts = node :: afterNode ∧ node.kind = .identifier ∧
        Leaves (port afterNode) name rest ∧ e = ⟨node.text, name⟩ := by
  simp only [endpoint, reads_bind, Prod.exists, Subtype.exists]
  constructor
  · rintro ⟨node, afterNode, h, hnode, name, final, h₁, hport, hread⟩
    obtain ⟨rfl, hn⟩ := expect_reads.mp ⟨h, hnode⟩
    obtain ⟨rfl, rfl⟩ := reads_ok.mp hread
    exact ⟨node, afterNode, name, rfl, hn, ⟨h₁, hport⟩, rfl⟩
  · rintro ⟨node, afterNode, name, rfl, hn, ⟨h₁, hport⟩, rfl⟩
    obtain ⟨h, hnode⟩ := expect_reads.mpr ⟨rfl, hn⟩
    exact ⟨node, afterNode, h, hnode, name, rest, h₁, hport, reads_ok.mpr ⟨rfl, rfl⟩⟩

theorem connection_reads {c : Connection} :
    (connection pos ts).Reads c rest ↔
      ∃ source arrow afterArrow target,
        (endpoint .sourceName ts).Reads source (arrow :: afterArrow) ∧
        arrow.kind = .arrow ∧ (endpoint .targetName afterArrow).Reads target rest ∧
        c = { source, target, pos } := by
  simp only [connection, reads_bind, Prod.exists, Subtype.exists]
  constructor
  · rintro ⟨source, afterSource, h, hsource, arrow, afterArrow, h₁, harrow, target, final, h₂,
      htarget, hread⟩
    obtain ⟨rfl, ha⟩ := expect_reads.mp ⟨h₁, harrow⟩
    obtain ⟨rfl, rfl⟩ := reads_ok.mp hread
    exact ⟨source, arrow, afterArrow, target, ⟨h, hsource⟩, ha, ⟨h₂, htarget⟩, rfl⟩
  · rintro ⟨source, arrow, afterArrow, target, ⟨h, hsource⟩, ha, ⟨h₂, htarget⟩, rfl⟩
    obtain ⟨h₁, harrow⟩ := expect_reads.mpr ⟨rfl, ha⟩
    exact ⟨source, _, h, hsource, arrow, afterArrow, h₁, harrow, target, rest, h₂, htarget,
      reads_ok.mpr ⟨rfl, rfl⟩⟩

/-- A statement is of the kind that its first token says. -/
theorem statement_reads {t : Token} {s : Statement} :
    (statement t ts).Reads s rest ↔
      (t.kind = .param ∧ ∃ p, (param t.pos ts).Reads p rest ∧ s = .param p) ∨
      (t.kind = .var ∧ ∃ v, (var t.pos ts).Reads v rest ∧ s = .var v) ∨
      (t.kind = .node ∧ ∃ n, (node t.pos ts).Reads n rest ∧ s = .entry (.node n)) ∨
      (t.kind = .module ∧ ∃ m, (moduleRef t.pos ts).Reads m rest ∧ s = .entry (.module m)) ∨
      (t.kind = .connect ∧ ∃ c, (connection t.pos ts).Reads c rest ∧ s = .connection c) := by
  rw [statement]
  cases t.kind <;> simp [reads_under, not_reads_stop]

theorem statements_reads_close {t : Token} {ss : List Statement} (ht : t.kind = .rbrace) :
    (statements (t :: ts)).Reads ss rest ↔ ss = [] ∧ rest = ts := by
  rw [statements]
  simp only [ht, if_true, reads_ok]

/-- After each statement one semicolon is passed over if it stands there. -/
theorem statements_reads_cons {t : Token} {ss : List Statement} (ht : t.kind ≠ .rbrace) :
    (statements (t :: ts)).Reads ss rest ↔
      ∃ s after ss', (statement t ts).Reads s after ∧
        (statements (skip .semicolon after).val).Reads ss' rest ∧ ss = s :: ss' := by
  rw [statements]
  simp only [ht, if_false, reads_bind, Prod.exists, Subtype.exists]
  constructor
  · rintro ⟨s, after, h, hstatement, ss', final, h₁, hstatements, hread⟩
    obtain ⟨rfl, rfl⟩ := reads_ok.mp hread
    exact ⟨s, after, ss', ⟨h, hstatement⟩, ⟨h₁, hstatements⟩, rfl⟩
  · rintro ⟨s, after, ss', ⟨h, hstatement⟩, ⟨h₁, hstatements⟩, rfl⟩
    exact ⟨s, after, h, hstatement, ss', rest, h₁, hstatements, reads_ok.mpr ⟨rfl, rfl⟩⟩

theorem not_statements_reads_nil {ss : List Statement} : ¬ (statements []).Reads ss rest := by
  rw [statements]
  exact not_reads_stop

/-- A workflow is its heading and its statements, and nothing follows them. -/
theorem workflow_eq_ok {w : Workflow} :
    workflow ts = .ok w ↔
      ∃ keyword name opening inner ss, ts = keyword :: name :: opening :: inner ∧
        keyword.kind = .workflow ∧ name.kind = .string ∧ opening.kind = .lbrace ∧
        (statements inner).Reads ss [] ∧ w = assemble name.text keyword.pos ss := by
  simp only [workflow, bind_eq_ok, Prod.exists, Subtype.exists]
  constructor
  · rintro ⟨keyword, afterKeyword, h, hkeyword, name, afterName, h₁, hname, opening, inner, h₂,
      hopen, ss, final, h₃, hstatements, hend⟩
    obtain ⟨rfl, hk⟩ := expect_reads.mp ⟨h, hkeyword⟩
    obtain ⟨rfl, hn⟩ := expect_reads.mp ⟨h₁, hname⟩
    obtain ⟨rfl, ho⟩ := expect_reads.mp ⟨h₂, hopen⟩
    cases final with
    | nil =>
      cases hend
      exact ⟨keyword, name, opening, inner, ss, rfl, hk, hn, ho, ⟨h₃, hstatements⟩, rfl⟩
    | cons t more => cases hend
  · rintro ⟨keyword, name, opening, inner, ss, rfl, hk, hn, ho, ⟨h₃, hstatements⟩, rfl⟩
    obtain ⟨h, hkeyword⟩ := expect_reads.mpr ⟨rfl, hk⟩
    obtain ⟨h₁, hname⟩ := expect_reads.mpr ⟨rfl, hn⟩
    obtain ⟨h₂, hopen⟩ := expect_reads.mpr ⟨rfl, ho⟩
    exact ⟨keyword, _, h, hkeyword, name, _, h₁, hname, opening, inner, h₂, hopen, ss, [], h₃,
      hstatements, rfl⟩

end Declarations

end FlowGraph.Parser
