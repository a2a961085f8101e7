import FlowGraph.Proofs.Grammar.Completeness
import FlowGraph.Proofs.Grammar.Reader
import FlowGraph.Proofs.Grammar.Soundness

/-!
Expressions and bodies are read sharply. Each step is written as a combination of
readers, and the lists in brackets as loops; the shortest completion of an
expression is `null`, and that of a list its closing token.
-/

namespace FlowGraph.Parser

open Reader Grammar

/-- The kinds of token that only go on with something that could also end. -/
def joining : List TokenKind :=
  [.lparen, .comma, .dot, .equals, .lbrace, .semicolon]

def readExpr : Reader Expr := fun ts => outcome (expr ts)

def readItems (close : TokenKind) : Reader (List Expr) := fun ts => outcome (items close ts)

def readMembers : Reader (List (String × Expr)) := fun ts => outcome (entries ts)

def readBodyEntries : Reader (List (Token × Expr)) := fun ts => outcome (bodyEntries ts)

def keyed {α : Type} (kinds : List TokenKind) (name colon : Expected) (f : Token → Expr → α) :
    Reader α :=
  (oneOf kinds name).andThen fun key =>
    (oneOf [.colon] colon).andThen fun _ => (readExpr.separated .comma).map (f key)

def readMember : Reader (String × Expr) :=
  keyed [.identifier, .string] .objectKey .objectColon fun key e => (key.text, e)

def readBodyEntry : Reader (Token × Expr) :=
  keyed [.identifier] .bodyName .bodyColon Prod.mk

/-- No expression is empty. -/
theorem advances_readExpr : Advances readExpr :=
  advances_outcome expr

section Equations

variable {t : Token} {more : List Token}

theorem readExpr_nil : readExpr [] = .error ⟨.expression, none⟩ := by
  unfold readExpr
  rw [expr.eq_def]
  rfl

theorem readExpr_of_reads {ts rest : List Token} {e : Expr} (h : (expr ts).Reads e rest) :
    readExpr ts = .ok (e, rest) :=
  outcome_eq_ok.mpr h

/-- A token that starts no expression is reported itself. -/
theorem readExpr_other (ht : startsExpr t.kind = false) :
    readExpr (t :: more) = .error ⟨.expression, some t⟩ := by
  unfold readExpr
  rw [expr.eq_def]
  cases hk : t.kind <;> simp_all [startsExpr, stop, outcome, Except.map]

theorem readExpr_invalid (ht : t.kind = .number) (hv : numberValue? t.text = none) :
    readExpr (t :: more) = .error ⟨.validNumber, some t⟩ := by
  unfold readExpr
  rw [expr.eq_def]
  simp [ht, hv, stop, outcome, Except.map]

theorem readExpr_call {p : Token} (ht : t.kind = .identifier) (hp : p.kind = .lparen) :
    readExpr (t :: p :: more) = (readItems .rparen).map (Expr.call t.text) more := by
  unfold readExpr
  rw [expr.eq_def]
  simp only [ht, hp, if_true]
  exact outcome_bind rfl fun args after _ => rfl

theorem readExpr_object (ht : t.kind = .lbrace) :
    readExpr (t :: more) = readMembers.map Expr.object more := by
  unfold readExpr
  rw [expr.eq_def]
  simp only [ht]
  exact outcome_bind rfl fun members after _ => rfl

theorem readExpr_array (ht : t.kind = .lbracket) :
    readExpr (t :: more) = (readItems .rbracket).map Expr.array more := by
  unfold readExpr
  rw [expr.eq_def]
  simp only [ht]
  exact outcome_bind rfl fun es after _ => rfl

/-- The only fault of a template without quotes is that it does not end. -/
theorem readExpr_template (ht : t.kind = .templateStart) {fault : Fault}
    (h : readExpr (t :: more) = .error fault) : fault.expected = .templateEnd := by
  unfold readExpr at h
  rw [expr.eq_def] at h
  simp only [ht] at h
  cases htext : templateText? 0 more with
  | none =>
    rw [htext] at h
    cases h
    rfl
  | some result =>
    rw [htext] at h
    cases h

/-- Items in brackets are read in a loop that ends at the closing bracket. -/
theorem loops_readItems (close : TokenKind) :
    Loops close (readExpr.separated .comma) (readItems close) where
  ends t more ht := outcome_eq_ok.mpr ((items_reads_close ht).mpr ⟨rfl, rfl⟩)
  repeats ts hts := by
    rw [separated_andThen]
    cases ts with
    | nil =>
      rw [andThen_of_error readExpr_nil, readItems, items]
      rfl
    | cons t more =>
      rw [readItems, items, if_neg (notFirst_cons.mp hts)]
      exact outcome_bind rfl fun e after _ => outcome_bind rfl fun es final _ => rfl

theorem loops_readMembers : Loops .rbrace readMember readMembers where
  ends t more ht := outcome_eq_ok.mpr ((entries_reads_close ht).mpr ⟨rfl, rfl⟩)
  repeats ts hts := by
    simp only [readMember, keyed, andThen_assoc, map_andThen, separated_andThen]
    cases ts with
    | nil =>
      rw [readMembers, entries]
      rfl
    | cons t more =>
      rw [readMembers, entries, if_neg (notFirst_cons.mp hts)]
      by_cases hkey : t.kind = .identifier ∨ t.kind = .string
      · have hone : oneOf [.identifier, .string] .objectKey (t :: more) = .ok (t, more) :=
          oneOf_eq_ok.mpr ⟨rfl, by simpa using hkey⟩
        rw [if_pos hkey, andThen_of_ok hone]
        exact outcome_bind outcome_expect fun colon value _ =>
          outcome_bind rfl fun e after _ => outcome_bind rfl fun es final _ => rfl
      · have hstop : oneOf [.identifier, .string] .objectKey (t :: more) =
            .error ⟨.objectKey, some t⟩ := by
          simp [oneOf, hkey]
        rw [if_neg hkey, andThen_of_error hstop]
        rfl

theorem loops_readBodyEntries : Loops .rbrace readBodyEntry readBodyEntries where
  ends t more ht := outcome_eq_ok.mpr ((bodyEntries_reads_close ht).mpr ⟨rfl, rfl⟩)
  repeats ts hts := by
    simp only [readBodyEntry, keyed, andThen_assoc, map_andThen, separated_andThen]
    cases ts with
    | nil =>
      rw [readBodyEntries, bodyEntries]
      rfl
    | cons t more =>
      rw [readBodyEntries, bodyEntries, if_neg (notFirst_cons.mp hts)]
      exact outcome_bind outcome_expect fun key afterKey _ =>
        outcome_bind outcome_expect fun colon value _ =>
          outcome_bind rfl fun e after _ => outcome_bind rfl fun es final _ => rfl

end Equations

def SharpExpr (ts : List Token) : Prop :=
  ∀ avoided, .null ∉ avoided → Sharp joining avoided (fun _ => True) readExpr ts

/-- The shortest completion of an expression is `null`. -/
theorem completes_null : Completes readExpr [mark .null] (.literal .null) :=
  ⟨by simp, fun _ => readExpr_of_reads ((expr_reads_null rfl).mpr ⟨rfl, rfl⟩)⟩

theorem completes_value : Completes (readExpr.separated .comma) [mark .null, mark .comma]
    (.literal .null) :=
  completes_null.separated (by decide)

theorem sharp_value {ts : List Token} (h : SharpExpr ts) (avoided : List TokenKind)
    (hnull : .null ∉ avoided) :
    Sharp joining avoided (fun _ => True) (readExpr.separated .comma) ts :=
  sharp_separated (h avoided hnull) advances_readExpr (by decide) (by decide)

/-- A list is read sharply if the expressions in it are. -/
theorem sharp_readItems {close : TokenKind} {ts : List Token} (heof : close ≠ .eof)
    (hnull : close ≠ .null) (h : ∀ us, us.length ≤ ts.length → SharpExpr us) :
    Sharp joining joining (fun _ => True) (readItems close) ts := by
  have hadvances := advances_readExpr.separated .comma
  have hloop : Sharp joining joining (fun es => ∀ e ∈ es, True) (readItems close) ts := by
    refine (loops_readItems close).sharp (fun us => us.length ≤ ts.length) heof hadvances
      (advances_outcome (items close)) ?_ ?_ ts (Nat.le_refl _)
    · intro us hus
      exact sharp_value (h us hus) _ (by simp [hnull.symm, joining])
    · intro us e rest hus hread
      exact Nat.le_trans (Nat.le_of_lt (hadvances us e rest hread)) hus
  exact hloop.imp fun _ _ => trivial

section Keyed

variable {α : Type} {kinds : List TokenKind} {name colon : Expected} {f : Token → Expr → α}

theorem advances_keyed : Advances (keyed kinds name colon f) := by
  refine (advances_oneOf kinds name).andThen fun key => Advances.shortens ?_
  refine (advances_oneOf [.colon] colon).andThen fun _ => ?_
  exact (advances_readExpr.separated .comma).shortens.map (f key)

/-- Every key can get a good value as long as the colon is missing, and behind the
colon every value has to be good. -/
theorem sharp_keyed {good : α → Prop} {ts : List Token} (hkind : .identifier ∈ kinds)
    (h : ∀ us, us.length ≤ ts.length → SharpExpr us)
    (hmissing : ∀ key, ∃ c e, Completes (readExpr.separated .comma) c e ∧ good (f key e))
    (hpresent : ∀ key mid value, ts = key :: mid :: value → key.kind ∈ kinds →
      mid.kind = .colon → ∀ e, good (f key e)) :
    Sharp joining (.rbrace :: joining) good (keyed kinds name colon f) ts := by
  refine sharp_oneOf_andThen .identifier hkind (by decide) (by decide) (fun key => ?_) ?_
  · obtain ⟨c, e, hc, he⟩ := hmissing key
    exact ⟨_, _, (completes_oneOf .colon (by simp) (by decide)).andThen (hc.map (f key)), he⟩
  intro key rest hts hk
  refine sharp_oneOf_andThen .colon (by simp) (by decide) (by simp) (fun _ => ?_) ?_
  · obtain ⟨c, e, hc, he⟩ := hmissing key
    exact ⟨c, _, hc.map (f key), he⟩
  intro mid value hrest hm
  have hle : value.length ≤ ts.length := by
    simp only [hts, hrest, List.length_cons]
    omega
  refine (sharp_value (h value hle) [] (by simp)).map fun e _ => ?_
  exact hpresent key mid value (by rw [hts, hrest]) hk (List.mem_singleton.mp hm) e

end Keyed

theorem sharp_readMembers {ts : List Token} (h : ∀ us, us.length ≤ ts.length → SharpExpr us) :
    Sharp joining joining (fun _ => True) readMembers ts := by
  have hloop : Sharp joining joining (fun es => ∀ e ∈ es, True) readMembers ts := by
    refine loops_readMembers.sharp (fun us => us.length ≤ ts.length) (by decide) advances_keyed
      (advances_outcome entries) ?_ ?_ ts (Nat.le_refl _)
    · intro us hus
      refine sharp_keyed (by simp) (fun vs hvs => h vs (Nat.le_trans hvs hus)) ?_ ?_
      · exact fun key => ⟨_, _, completes_value, trivial⟩
      · exact fun _ _ _ _ _ _ _ => trivial
    · intro us e rest hus hread
      exact Nat.le_trans (Nat.le_of_lt (advances_keyed us e rest hread)) hus
  exact hloop.imp fun _ _ => trivial

/-- A template without quotes ends at the same token, whatever follows it. -/
theorem sharp_template {t : Token} {more : List Token} {avoided : List TokenKind}
    (ht : t.kind = .templateStart) :
    Sharp joining avoided (fun _ => True) readExpr (t :: more) where
  steady e rest h := by
    refine ⟨trivial, ?_⟩
    obtain ⟨text, htext, rfl⟩ := (expr_reads_template ht).mp (outcome_eq_ok.mp h)
    obtain ⟨inner, closing, rfl, ⟨_, hinner⟩, hc, rfl⟩ := closes_of_templateEnds htext
    refine ⟨t :: inner ++ [closing], by simp, fun other _ => readExpr_of_reads ?_⟩
    have hend : TemplateEnds 0 (closing :: other) "\x7d" other :=
      (templateEnds_close hc).mpr ⟨rfl, rfl⟩
    have hall := templateEnds_of_balanced hinner 0 (closing :: other) other "\x7d" hend
    rw [show t :: inner ++ [closing] ++ other = t :: (inner ++ closing :: other) by simp]
    exact (expr_reads_template ht).mpr ⟨_, hall, rfl⟩
  exact fault h hne := absurd (readExpr_template ht h) hne

/-- A name stays a name as long as no bracket follows. -/
theorem sharp_name {t : Token} {more : List Token} {avoided : List TokenKind}
    (ht : t.kind = .identifier) (hmore : NotFirst .lparen more) :
    Sharp joining avoided (fun _ => True) readExpr (t :: more) := by
  have hread {rest : List Token} (hrest : NotFirst .lparen rest) :
      readExpr (t :: rest) = .ok (.ident t.text, rest) :=
    readExpr_of_reads ((expr_reads_ident ht hrest).mpr ⟨rfl, rfl⟩)
  refine ⟨fun e rest h => ?_, fun fault h => ?_⟩
  · rw [hread hmore] at h
    cases h
    exact ⟨trivial, [t], rfl, fun other hother => hread (hother.notFirst (by decide) hmore)⟩
  · rw [hread hmore] at h
    cases h

/-- Where no expression starts, `null` could. -/
theorem sharpExpr_of_stop (expected : Expected) {ts : List Token}
    (h : ∀ us, us.head? = ts.head? → readExpr us = .error ⟨expected, us.head?⟩) :
    SharpExpr ts := by
  intro avoided hnull
  exact sharp_of_stop expected trivial h completes_null ⟨mark .null, rfl, hnull⟩

/-- Every expression is read sharply, by induction on the number of tokens. -/
theorem sharpExpr (ts : List Token) : SharpExpr ts := by
  match ts with
  | [] =>
    refine sharpExpr_of_stop .expression fun us hus => ?_
    obtain rfl := List.head?_eq_none_iff.mp hus
    exact readExpr_nil
  | t :: more =>
    have hfirst {us : List Token} (hus : us.head? = (t :: more).head?) : ∃ rest, us = t :: rest :=
      List.head?_eq_some_iff.mp hus
    have hshorter (us : List Token) (hlt : us.length < (t :: more).length) : SharpExpr us :=
      sharpExpr us
    cases hk : t.kind with
    | string =>
      exact fun _ _ => sharp_of_token trivial fun rest =>
        readExpr_of_reads ((expr_reads_string hk).mpr ⟨rfl, rfl⟩)
    | number =>
      cases hv : numberValue? t.text with
      | none =>
        refine sharpExpr_of_stop .validNumber fun us hus => ?_
        obtain ⟨rest, rfl⟩ := hfirst hus
        exact readExpr_invalid hk hv
      | some v =>
        exact fun _ _ => sharp_of_token trivial fun rest =>
          readExpr_of_reads ((expr_reads_number hk).mpr ⟨v, hv, rfl, rfl⟩)
    | boolean =>
      exact fun _ _ => sharp_of_token trivial fun rest =>
        readExpr_of_reads ((expr_reads_boolean hk).mpr ⟨rfl, rfl⟩)
    | null =>
      exact fun _ _ => sharp_of_token trivial fun rest =>
        readExpr_of_reads ((expr_reads_null hk).mpr ⟨rfl, rfl⟩)
    | identifier =>
      by_cases hcall : NotFirst .lparen more
      · exact fun _ _ => sharp_name hk hcall
      · obtain ⟨p, inner, rfl, hp⟩ := exists_cons_of_not_notFirst hcall
        have hargs : Sharp joining joining (fun _ => True) (readItems .rparen) inner :=
          sharp_readItems (by decide) (by decide) fun us hus => hshorter us (by
            simp only [List.length_cons]
            omega)
        exact fun _ _ => (hargs.map fun _ _ => trivial).behind [t, p] (by simp) fun us =>
          readExpr_call hk hp
    | lbrace =>
      have hmembers : Sharp joining joining (fun _ => True) readMembers more :=
        sharp_readMembers fun us hus => hshorter us (Nat.lt_succ_of_le hus)
      exact fun _ _ => (hmembers.map fun _ _ => trivial).behind [t] (by simp) fun us =>
        readExpr_object hk
    | lbracket =>
      have hitems : Sharp joining joining (fun _ => True) (readItems .rbracket) more :=
        sharp_readItems (by decide) (by decide) fun us hus => hshorter us (Nat.lt_succ_of_le hus)
      exact fun _ _ => (hitems.map fun _ _ => trivial).behind [t] (by simp) fun us =>
        readExpr_array hk
    | templateStart => exact fun _ _ => sharp_template hk
    | _ =>
      refine sharpExpr_of_stop .expression fun us hus => ?_
      obtain ⟨rest, rfl⟩ := hfirst hus
      exact readExpr_other (by rw [hk]; rfl)
termination_by ts.length
decreasing_by exact hlt

theorem keyed_eq_ok {α : Type} {kinds : List TokenKind} {name colon : Expected}
    {f : Token → Expr → α} {ts rest : List Token} {a : α}
    (h : keyed kinds name colon f ts = .ok (a, rest)) :
    ∃ key mid value e after, ts = key :: mid :: value ∧ key.kind ∈ kinds ∧ mid.kind = .colon ∧
      (expr value).Reads e after ∧ rest = (skip .comma after).val ∧ a = f key e := by
  obtain ⟨key, afterKey, hkey, hafterKey⟩ := andThen_eq_ok.mp h
  obtain ⟨mid, value, hmid, hvalue⟩ := andThen_eq_ok.mp hafterKey
  obtain ⟨e, hseparated, ha⟩ := map_eq_ok.mp hvalue
  obtain ⟨after, hexpr, hrest⟩ := separated_eq_ok.mp hseparated
  obtain ⟨rfl, hk⟩ := oneOf_eq_ok.mp hkey
  obtain ⟨rfl, hm⟩ := oneOf_eq_ok.mp hmid
  exact ⟨key, mid, value, e, after, rfl, hk, List.mem_singleton.mp hm, outcome_eq_ok.mp hexpr,
    hrest, ha⟩

section Bodies

variable {good : Token × Expr → Prop} {ts : List Token}

/-- A body is read sharply as long as the invariant lets every value pass. -/
theorem sharp_readBodyEntries (inv : List Token → Prop)
    (hmissing : ∀ key, ∃ c e, Completes (readExpr.separated .comma) c e ∧ good (key, e))
    (hpresent : ∀ key mid value, inv (key :: mid :: value) → key.kind = .identifier →
      mid.kind = .colon → ∀ e, good (key, e))
    (hinv : ∀ us entry rest, inv us → readBodyEntry us = .ok (entry, rest) → inv rest)
    (hts : inv ts) :
    Sharp joining joining (fun es => ∀ entry ∈ es, good entry) readBodyEntries ts := by
  refine loops_readBodyEntries.sharp inv (by decide) advances_keyed (advances_outcome bodyEntries)
    ?_ hinv ts hts
  intro us hus
  refine sharp_keyed (by simp) (fun vs _ => sharpExpr vs) hmissing ?_
  intro key mid value hsplit hk hm
  exact hpresent key mid value (hsplit ▸ hus) (List.mem_singleton.mp hk) hm

def Unplaced (ts : List Token) : Prop :=
  ∀ before key mid after es, ts = before ++ key :: mid :: after → Entries before es →
    key.kind = .identifier → mid.kind = .colon → key.text ≠ "position"

/-- What is left after an entry has no entry named `position` either. -/
theorem Unplaced.step {entry : Token × Expr} {rest : List Token} (h : Unplaced ts)
    (hread : readBodyEntry ts = .ok (entry, rest)) : Unplaced rest := by
  obtain ⟨key, mid, value, e, after, rfl, hk, hm, hexpr, hrest, rfl⟩ := keyed_eq_ok hread
  obtain ⟨item, rfl, he⟩ := expression_of_reads hexpr
  obtain ⟨separator, hs, hafter⟩ := exists_optional_skip .comma after
  rw [← hrest] at hafter
  intro before key' mid' last es hsplit hentries
  refine h (key :: mid :: item ++ separator ++ before) key' mid' last ((key.text, e) :: es) ?_ ?_
  · simp [hafter, hsplit]
  · exact Entries.cons key mid item separator before e es (List.mem_singleton.mp hk) hm he hs
      hentries

def Placeable (entry : Token × Expr) : Prop :=
  entry.1.text = "position" → (point? entry.2).isSome

theorem exists_splitPoint {es : List (Token × Expr)} (h : ∀ entry ∈ es, Placeable entry)
    (before : Option Point) :
    ∃ parameters point, splitPoint before es = .ok (parameters, point) := by
  induction es generalizing before with
  | nil => exact ⟨[], before, rfl⟩
  | cons entry es ih =>
    obtain ⟨key, e⟩ := entry
    have hmore : ∀ entry ∈ es, Placeable entry := fun entry hentry =>
      h entry (List.mem_cons_of_mem _ hentry)
    by_cases hkey : key.text = "position"
    · obtain ⟨p, hp⟩ := Option.isSome_iff_exists.mp (h (key, e) List.mem_cons_self hkey)
      obtain ⟨parameters, point, hsplit⟩ := ih hmore (some p)
      exact ⟨parameters, point, by simp [splitPoint, hkey, hp, hsplit]⟩
    · obtain ⟨parameters, point, hsplit⟩ := ih hmore before
      refine ⟨(key.text, e) :: parameters, point, ?_⟩
      rw [splitPoint, if_neg hkey, hsplit]
      rfl

def zero : Token := ⟨.number, "0", .start⟩

/-- A place that is missing can be made up by the origin. -/
theorem completes_origin :
    Completes (readExpr.separated .comma) [mark .lbracket, zero, zero, mark .rbracket, mark .comma]
      (.array [.literal (.int 0), .literal (.int 0)]) := by
  have hzero : Expression [zero] (.literal (.int 0)) :=
    Expression.number zero (.int 0) rfl (NumberText.integer 0 (by decide) (by decide))
  have hitems : Items [zero, zero] [.literal (.int 0), .literal (.int 0)] :=
    Items.cons [zero] [] [zero] _ _ hzero Optional.absent
      (Items.cons [zero] [] [] _ _ hzero Optional.absent Items.nil)
  have harray : Completes readExpr [mark .lbracket, zero, zero, mark .rbracket]
      (.array [.literal (.int 0), .literal (.int 0)]) := by
    refine ⟨by simp [zero], fun rest => readExpr_of_reads ((expr_reads_array rfl).mpr ?_)⟩
    exact ⟨_, items_reads_of_items hitems (mark .rbracket) rest rfl (by decide), rfl⟩
  exact harray.separated (by decide)

end Bodies

def readBody : Reader (List (Token × Expr)) := fun ts => outcome (body ts)

theorem readBody_eq :
    readBody = (oneOf [.lbrace] .bodyOpen).andThen fun _ => readBodyEntries.map id := by
  funext ts
  exact outcome_bind outcome_expect fun opening inner _ =>
    outcome_bind rfl fun entries rest _ => rfl

theorem completes_body : Completes readBody [mark .lbrace, mark .rbrace] [] := by
  rw [readBody_eq]
  exact (completes_oneOf .lbrace (by simp) (by decide)).andThen
    ((loops_readBodyEntries.completes (by decide)).map id)

theorem sharp_readBody {good : Token × Expr → Prop} {ts : List Token}
    (h : ∀ opening inner, ts = opening :: inner → opening.kind = .lbrace →
      Sharp joining joining (fun es => ∀ entry ∈ es, good entry) readBodyEntries inner) :
    Sharp joining [] (fun es => ∀ entry ∈ es, good entry) readBody ts := by
  rw [readBody_eq]
  refine sharp_oneOf_andThen .lbrace (by simp) (by decide) (by simp) (fun _ => ?_) ?_
  · exact ⟨_, [], (loops_readBodyEntries.completes (by decide)).map id, by simp⟩
  · intro opening inner hts ho
    have hentries := h opening inner hts (List.mem_singleton.mp ho)
    exact (hentries.map (f := id) fun _ hes => hes).avoiding (List.nil_subset joining)

end FlowGraph.Parser
