import FlowGraph.Template
import Mathlib.Data.List.Infix

/-!
Texts cut into their spans and the characters around them, without a scan: a span is what
stands between a dollar sign with a brace and the brace that balances it. Cutting and
expanding go from left to right and never look back, so they go piece by piece.
-/

namespace FlowGraph.Template

inductive Balanced : List Char → Prop
  | nil : Balanced []
  | char {c : Char} {cs : List Char} : c ≠ '{' → c ≠ '}' → Balanced cs → Balanced (c :: cs)
  | braces {inner cs : List Char} : Balanced inner → Balanced cs →
      Balanced ('{' :: (inner ++ '}' :: cs))

def Unclosed (cs : List Char) : Prop :=
  ∀ body rest, cs = body ++ '}' :: rest → ¬ Balanced body

/-- The text is cut into spans and the characters around them, with every span closed. -/
inductive CutInto : List Char → List Piece → Prop
  | nil : CutInto [] []
  | char {c : Char} {cs : List Char} {ps : List Piece} :
      ¬ (c = '$' ∧ cs.head? = some '{') → CutInto cs ps → CutInto (c :: cs) (.char c :: ps)
  | span {body cs : List Char} {ps : List Piece} :
      Balanced body → CutInto cs ps →
      CutInto ('$' :: '{' :: (body ++ '}' :: cs)) (.span body :: ps)

def Meets (a b : List Char) : Prop :=
  a.getLast? = some '$' ∧ b.head? = some '{'

def source (ps : List Piece) : List Char :=
  ps.flatMap Piece.source

@[simp] theorem source_nil : source [] = [] := rfl

@[simp] theorem source_cons (p : Piece) (ps : List Piece) :
    source (p :: ps) = p.source ++ source ps := rfl

@[simp] theorem source_append (ps qs : List Piece) :
    source (ps ++ qs) = source ps ++ source qs :=
  List.flatMap_append

@[simp] theorem source_map_char (cs : List Char) : source (cs.map .char) = cs := by
  induction cs with
  | nil => rfl
  | cons c cs ih => rw [List.map_cons, source_cons, ih]; rfl

section Braces

variable {body inner cs : List Char} {depth n : Nat}

theorem balanced_of_not_mem (hopen : '{' ∉ body) (hclose : '}' ∉ body) : Balanced body := by
  induction body with
  | nil => exact .nil
  | cons c body ih =>
    rw [List.mem_cons, not_or] at hopen hclose
    exact .char (Ne.symm hopen.1) (Ne.symm hclose.1) (ih hopen.2 hclose.2)

theorem bodyLength?_open (depth : Nat) (cs : List Char) :
    bodyLength? depth ('{' :: cs) = (bodyLength? (depth + 1) cs).map (· + 1) := by
  simp [bodyLength?]

theorem bodyLength?_close (depth : Nat) (cs : List Char) :
    bodyLength? (depth + 1) ('}' :: cs) = (bodyLength? depth cs).map (· + 1) := by
  simp [bodyLength?]

theorem bodyLength?_char {c : Char} (hopen : c ≠ '{') (hclose : c ≠ '}') (depth : Nat)
    (cs : List Char) : bodyLength? depth (c :: cs) = (bodyLength? depth cs).map (· + 1) := by
  cases depth <;> simp [bodyLength?, hopen, hclose]

/-- Paired braces leave as many open as before. -/
theorem Balanced.bodyLength?_append (hbody : Balanced body) (depth : Nat) (cs : List Char) :
    bodyLength? depth (body ++ cs) = (bodyLength? depth cs).map (· + body.length) := by
  induction hbody generalizing depth cs with
  | nil => simp
  | char hopen hclose hrest ih =>
    rw [List.cons_append, bodyLength?_char hopen hclose, ih, Option.map_map]
    rfl
  | @braces inner rest hinner hrest ihinner ihrest =>
    have hassoc : '{' :: (inner ++ '}' :: rest) ++ cs = '{' :: (inner ++ '}' :: (rest ++ cs)) := by
      simp
    rw [hassoc, bodyLength?_open, ihinner, bodyLength?_close, ihrest]
    simp only [Option.map_map, List.length_cons, List.length_append]
    congr 1
    funext k
    simp only [Function.comp_apply]
    omega

/-- The body of a span ends at the brace that balances the one before it. -/
theorem Balanced.bodyLength? (hbody : Balanced body) (cs : List Char) :
    Template.bodyLength? 0 (body ++ '}' :: cs) = some body.length := by
  have hclose : Template.bodyLength? 0 ('}' :: cs) = some 0 := rfl
  rw [hbody.bodyLength?_append, hclose]
  simp

def Closes : Nat → List Char → Prop
  | 0, cs => Balanced cs
  | depth + 1, cs => ∃ inner rest, cs = inner ++ '}' :: rest ∧ Balanced inner ∧ Closes depth rest

theorem Closes.char {c : Char} (hopen : c ≠ '{') (hclose : c ≠ '}') (hcs : Closes depth cs) :
    Closes depth (c :: cs) := by
  cases depth with
  | zero => exact .char hopen hclose hcs
  | succ depth =>
    obtain ⟨inner, rest, rfl, hinner, hrest⟩ := hcs
    exact ⟨c :: inner, rest, rfl, .char hopen hclose hinner, hrest⟩

theorem Closes.braces (hinner : Balanced inner) (hcs : Closes depth cs) :
    Closes depth ('{' :: (inner ++ '}' :: cs)) := by
  cases depth with
  | zero => exact .braces hinner hcs
  | succ depth =>
    obtain ⟨middle, rest, rfl, hmiddle, hrest⟩ := hcs
    exact ⟨'{' :: (inner ++ '}' :: middle), rest, by simp, .braces hinner hmiddle, hrest⟩

/-- The scan ends at the brace that closes the outermost open one. -/
theorem exists_closes_of_bodyLength? (hn : Template.bodyLength? depth cs = some n) :
    ∃ body rest, cs = body ++ '}' :: rest ∧ body.length = n ∧ Closes depth body := by
  induction cs generalizing depth n with
  | nil => simp [Template.bodyLength?] at hn
  | cons c cs ih =>
    by_cases hopen : c = '{'
    · subst hopen
      rw [bodyLength?_open] at hn
      obtain ⟨m, hm, rfl⟩ := Option.map_eq_some_iff.mp hn
      obtain ⟨body, rest, rfl, rfl, inner, more, rfl, hinner, hmore⟩ := ih hm
      exact ⟨_, rest, rfl, rfl, hmore.braces hinner⟩
    · by_cases hclose : c = '}'
      · subst hclose
        cases depth with
        | zero =>
          obtain rfl : 0 = n := Option.some.inj hn
          exact ⟨[], cs, rfl, rfl, .nil⟩
        | succ depth =>
          rw [bodyLength?_close] at hn
          obtain ⟨m, hm, rfl⟩ := Option.map_eq_some_iff.mp hn
          obtain ⟨body, rest, rfl, rfl, hbody⟩ := ih hm
          exact ⟨'}' :: body, rest, rfl, rfl, [], body, rfl, .nil, hbody⟩
      · rw [bodyLength?_char hopen hclose] at hn
        obtain ⟨m, hm, rfl⟩ := Option.map_eq_some_iff.mp hn
        obtain ⟨body, rest, rfl, rfl, hbody⟩ := ih hm
        exact ⟨c :: body, rest, rfl, rfl, hbody.char hopen hclose⟩

theorem Unclosed.bodyLength? (hcs : Unclosed cs) : Template.bodyLength? 0 cs = none := by
  cases hn : Template.bodyLength? 0 cs with
  | none => rfl
  | some n =>
    obtain ⟨body, rest, heq, -, hbody⟩ := exists_closes_of_bodyLength? hn
    exact absurd hbody (hcs body rest heq)

theorem unclosed_of_bodyLength? (hnone : Template.bodyLength? 0 cs = none) : Unclosed cs := by
  intro early late hcs hearly
  have hsome := hearly.bodyLength? late
  rw [← hcs, hnone] at hsome
  cases hsome

/-- Behind an open brace, either some brace closes it or none does. -/
theorem closed_or_unclosed (cs : List Char) :
    (∃ body rest, cs = body ++ '}' :: rest ∧ Balanced body) ∨ Unclosed cs := by
  cases hlength : Template.bodyLength? 0 cs with
  | none => exact Or.inr (unclosed_of_bodyLength? hlength)
  | some n =>
    obtain ⟨body, rest, hcs, -, hbody⟩ := exists_closes_of_bodyLength? hlength
    exact Or.inl ⟨body, rest, hcs, hbody⟩

/-- A text is gone through piece by piece: character by character outside of spans, over
each closed span at once, and no further than to a span that nothing closes. -/
@[elab_as_elim]
theorem cut_induction {motive : List Char → Prop} (nil : motive [])
    (char : ∀ c cs, ¬ (c = '$' ∧ cs.head? = some '{') → motive cs → motive (c :: cs))
    (span : ∀ body cs, Balanced body → motive cs → motive ('$' :: '{' :: (body ++ '}' :: cs)))
    (unclosed : ∀ cs, Unclosed cs → motive ('$' :: '{' :: cs)) (cs : List Char) : motive cs := by
  induction hlength : cs.length using Nat.strong_induction_on generalizing cs with
  | _ n ih =>
    cases cs with
    | nil => exact nil
    | cons c cs =>
      simp only [List.length_cons] at hlength
      by_cases hopens : c = '$' ∧ cs.head? = some '{'
      · obtain ⟨rfl, hhead⟩ := hopens
        obtain ⟨rest, rfl⟩ := List.head?_eq_some_iff.mp hhead
        rcases closed_or_unclosed rest with ⟨body, after, rfl, hbody⟩ | hrest
        · have hshorter : after.length < n := by
            simp only [List.length_cons, List.length_append] at hlength
            omega
          exact span body after hbody (ih after.length hshorter after rfl)
        · exact unclosed rest hrest
      · have hshorter : cs.length < n := by omega
        exact char c cs hopens (ih cs.length hshorter cs rfl)

end Braces

section Pieces

variable {a b body cs : List Char} {ps qs : List Piece}

theorem pieces_nil : pieces [] = [] := by
  rw [pieces]

theorem pieces_cons {c : Char} (hc : ¬ (c = '$' ∧ cs.head? = some '{')) :
    pieces (c :: cs) = .char c :: pieces cs := by
  rw [pieces, if_neg hc]

theorem pieces_span (hbody : Balanced body) (cs : List Char) :
    pieces ('$' :: '{' :: (body ++ '}' :: cs)) = .span body :: pieces cs := by
  rw [pieces, if_pos ⟨rfl, rfl⟩]
  have hlength : bodyLength? 0 ('{' :: (body ++ '}' :: cs)).tail = some body.length :=
    hbody.bodyLength? cs
  split
  · next n hn =>
    obtain rfl : body.length = n := Option.some.inj (hlength.symm.trans hn)
    simp
  · next hnone =>
    rw [hnone] at hlength
    cases hlength

/-- From a span that nothing closes on, all is copied. -/
theorem pieces_of_unclosed (hcs : Unclosed cs) :
    pieces ('$' :: '{' :: cs) = ('$' :: '{' :: cs).map .char := by
  rw [pieces, if_pos ⟨rfl, rfl⟩]
  have hlength : bodyLength? 0 ('{' :: cs).tail = none := hcs.bodyLength?
  split
  · next n hn =>
    rw [hn] at hlength
    cases hlength
  · rfl

/-- The pieces that a text is cut into make it up. -/
theorem CutInto.source_eq (ha : CutInto a ps) : source ps = a := by
  induction ha with
  | nil => rfl
  | char hc hcs ih => rw [source_cons, ih]; rfl
  | span hbody hcs ih => rw [source_cons, ih]; simp [Piece.source]

theorem CutInto.self (hcut : CutInto a ps) : CutInto (source ps) ps :=
  hcut.source_eq.symm ▸ hcut

theorem not_meets_nil (a : List Char) : ¬ Meets a [] := by
  simp [Meets]

theorem Meets.append (hcs : Meets cs b) (a : List Char) : Meets (a ++ cs) b := by
  have hne : cs ≠ [] := by
    rintro rfl
    cases hcs.1
  exact ⟨by rw [List.getLast?_append_of_ne_nil a hne, hcs.1], hcs.2⟩

/-- A text that is put behind does not open a span at a character before it. -/
theorem not_opens_append {c : Char} (hc : ¬ (c = '$' ∧ cs.head? = some '{'))
    (hseam : ¬ Meets (c :: cs) b) : ¬ (c = '$' ∧ (cs ++ b).head? = some '{') := by
  cases cs with
  | nil => simpa [Meets] using hseam
  | cons d cs => simpa using hc

/-- The scan does not look back, and ahead only from a dollar sign to a brace. -/
theorem CutInto.pieces_append (ha : CutInto a ps) (hseam : ¬ Meets a b) :
    pieces (a ++ b) = ps ++ pieces b := by
  induction ha with
  | nil => rfl
  | @char c cs ps hc hcs ih =>
    have hrest : ¬ Meets cs b := fun hmeets => hseam (hmeets.append [c])
    rw [List.cons_append, pieces_cons (not_opens_append hc hseam), ih hrest, List.cons_append]
  | @span body cs ps hbody hcs ih =>
    have hrest : ¬ Meets cs b := by
      intro hmeets
      apply hseam
      simpa using hmeets.append ('$' :: '{' :: (body ++ ['}']))
    have hassoc : '$' :: '{' :: (body ++ '}' :: cs) ++ b =
        '$' :: '{' :: (body ++ '}' :: (cs ++ b)) := by
      simp
    rw [hassoc, pieces_span hbody, ih hrest, List.cons_append]

/-- A text is cut into pieces in one way, which is the one that the scan finds. -/
theorem CutInto.pieces_eq (ha : CutInto a ps) : pieces a = ps := by
  have happend := ha.pieces_append (not_meets_nil a)
  rwa [List.append_nil, pieces_nil, List.append_nil] at happend

/-- Pieces of texts that stand behind each other are those of the whole. -/
theorem CutInto.append (ha : CutInto a ps) (hb : CutInto b qs) (hseam : ¬ Meets a b) :
    CutInto (a ++ b) (ps ++ qs) := by
  induction ha with
  | nil => exact hb
  | @char c cs ps hc hcs ih =>
    have hrest : ¬ Meets cs b := fun hmeets => hseam (hmeets.append [c])
    exact .char (not_opens_append hc hseam) (ih hrest)
  | @span body cs ps hbody hcs ih =>
    have hrest : ¬ Meets cs b := by
      intro hmeets
      apply hseam
      simpa using hmeets.append ('$' :: '{' :: (body ++ ['}']))
    have hspan := CutInto.span hbody (ih hrest)
    simpa using hspan

/-- What some of the pieces make up is cut into them again. -/
theorem CutInto.of_append (ha : CutInto a (ps ++ qs)) :
    CutInto (source ps) ps ∧ CutInto (source qs) qs := by
  induction ps generalizing a with
  | nil => exact ⟨.nil, ha.self⟩
  | cons p ps ih =>
    cases ha with
    | @char c cs _ hc hcs =>
      obtain ⟨hps, hqs⟩ := ih hcs
      have hsource : cs = source ps ++ source qs := hcs.source_eq.symm.trans (source_append ps qs)
      have hfirst : ¬ (c = '$' ∧ (source ps).head? = some '{') := by
        rintro ⟨hdollar, hbrace⟩
        rw [hsource, List.head?_append, hbrace] at hc
        exact hc ⟨hdollar, rfl⟩
      exact ⟨.char hfirst hps, hqs⟩
    | @span body cs _ hbody hcs =>
      obtain ⟨hps, hqs⟩ := ih hcs
      have hspan := CutInto.span hbody hps
      exact ⟨by simpa [Piece.source] using hspan, hqs⟩

/-- Characters without a span among them are cut one by one. -/
theorem cutInto_map_char (hcs : ¬ ['$', '{'] <:+: cs) : CutInto cs (cs.map .char) := by
  induction cs with
  | nil => exact .nil
  | cons c cs ih =>
    rw [List.infix_cons_iff, not_or] at hcs
    refine .char ?_ (ih hcs.2)
    rintro ⟨rfl, hhead⟩
    obtain ⟨rest, rfl⟩ := List.head?_eq_some_iff.mp hhead
    exact hcs.1 ⟨rest, rfl⟩

end Pieces

section Expand

variable {a b body cs : List Char} {ps : List Piece}

/-- Texts behind each other are expanded each by itself. -/
theorem CutInto.expand_append (value : List Char → Option (List Char)) (ha : CutInto a ps)
    (hseam : ¬ Meets a b) : expand value (a ++ b) = expand value a ++ expand value b := by
  unfold expand
  rw [ha.pieces_append hseam, ha.pieces_eq, List.flatMap_append]

/-- Only the values of the spans that are there count. -/
theorem expand_congr {value other : List Char → Option (List Char)}
    (hvalue : ∀ body, .span body ∈ pieces cs → value body = other body) :
    expand value cs = expand other cs := by
  refine List.flatMap_congr fun p hp => ?_
  cases p with
  | char c => rfl
  | span body => simp only [hvalue body hp]

theorem expand_of_not_infix (value : List Char → Option (List Char))
    (hcs : ¬ ['$', '{'] <:+: cs) : expand value cs = cs := by
  unfold expand
  rw [(cutInto_map_char hcs).pieces_eq, List.flatMap_map]
  simp

theorem expand_of_unclosed (value : List Char → Option (List Char)) (hcs : Unclosed cs) :
    expand value ('$' :: '{' :: cs) = '$' :: '{' :: cs := by
  unfold expand
  rw [pieces_of_unclosed hcs, List.flatMap_map]
  simp

theorem cutInto_span (hbody : Balanced body) : CutInto (Piece.span body).source [.span body] := by
  simpa [Piece.source] using CutInto.span hbody .nil

/-- A span gives way to its value, or stays as it is if it has none. -/
theorem expand_span (value : List Char → Option (List Char)) (hbody : Balanced body) :
    expand value (Piece.span body).source = (value body).getD (Piece.span body).source := by
  unfold expand
  rw [(cutInto_span hbody).pieces_eq]
  simp

end Expand

end FlowGraph.Template
