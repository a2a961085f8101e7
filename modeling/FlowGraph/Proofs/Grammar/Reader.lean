import FlowGraph.Proofs.Grammar.Reading

/-!
Reading steps as plain functions of the tokens before them, and what makes their
faults trustworthy. A reader is sharp if what it reads stays read whatever
follows, and if a fault of it lies at the first token that no continuation can
mend: with that token the fault is always the same, and without it the reading
can be completed.

Sharp readers one after the other make a sharp reader, and so does a sharp reader
that is repeated up to a closing token.
-/

namespace FlowGraph.Parser

abbrev Reader (α : Type) :=
  List Token → Except Fault (α × List Token)

def outcome {α : Type} {P : List Token → Prop}
    (step : Except Fault (α × { rest : List Token // P rest })) :
    Except Fault (α × List Token) :=
  step.map fun (a, rest) => (a, rest.val)

namespace Reader

variable {α β : Type}

def done (a : α) : Reader α := fun ts => .ok (a, ts)

def andThen (p : Reader α) (q : α → Reader β) : Reader β := fun ts =>
  match p ts with
  | .error fault => .error fault
  | .ok (a, rest) => q a rest

def map (f : α → β) (p : Reader α) : Reader β :=
  p.andThen fun a => done (f a)

def separated (kind : TokenKind) (p : Reader α) : Reader α :=
  p.andThen fun a ts => .ok (a, (skip kind ts).val)

def oneOf (kinds : List TokenKind) (expected : Expected) : Reader Token
  | [] => .error ⟨expected, none⟩
  | t :: rest => if t.kind ∈ kinds then .ok (t, rest) else .error ⟨expected, some t⟩

end Reader

open Reader

section Outcomes

variable {α β : Type} {P Q : List Token → Prop} {ts rest : List Token} {a : α}

theorem outcome_eq_ok {step : Except Fault (α × { rest : List Token // P rest })} :
    outcome step = .ok (a, rest) ↔ ∃ h, step = .ok (a, ⟨rest, h⟩) := by
  cases step with
  | error fault => simp [outcome, Except.map]
  | ok result =>
    obtain ⟨b, after, h⟩ := result
    constructor
    · intro heq
      cases heq
      exact ⟨h, rfl⟩
    · intro heq
      obtain ⟨_, heq⟩ := heq
      cases heq
      rfl

/-- Steps one after the other have the outcome of readers one after the other. -/
theorem outcome_bind {x : Except Fault (α × { rest : List Token // P rest })}
    {f : α × { rest : List Token // P rest } → Except Fault (β × { rest : List Token // Q rest })}
    {p : Reader α} {q : α → Reader β} (hx : outcome x = p ts)
    (hf : ∀ a rest h, outcome (f (a, ⟨rest, h⟩)) = q a rest) :
    outcome (x >>= f) = p.andThen q ts := by
  unfold andThen
  rw [← hx]
  cases x with
  | error fault => rfl
  | ok result => exact hf result.1 result.2.val result.2.property

variable {p : Reader α} {q : α → Reader β}

theorem andThen_of_ok (h : p ts = .ok (a, rest)) : p.andThen q ts = q a rest := by
  simp [andThen, h]

theorem andThen_of_error {fault : Fault} (h : p ts = .error fault) :
    p.andThen q ts = .error fault := by
  simp [andThen, h]

theorem andThen_eq_ok {b : β} :
    p.andThen q ts = .ok (b, rest) ↔
      ∃ a after, p ts = .ok (a, after) ∧ q a after = .ok (b, rest) := by
  unfold andThen
  cases p ts with
  | error fault => simp
  | ok result =>
    obtain ⟨a, after⟩ := result
    simp

theorem map_eq_ok {f : α → β} {b : β} :
    p.map f ts = .ok (b, rest) ↔ ∃ a, p ts = .ok (a, rest) ∧ b = f a := by
  unfold Reader.map
  rw [andThen_eq_ok]
  simp only [done, Except.ok.injEq, Prod.mk.injEq]
  grind

theorem skip_of_notFirst {kind : TokenKind} (h : NotFirst kind ts) : (skip kind ts).val = ts := by
  rcases skip_cases kind ts with ⟨t, ht, hts⟩ | ⟨hts, -⟩
  · rw [hts] at h
    exact absurd ht (notFirst_cons.mp h)
  · exact hts

theorem separated_eq_ok {kind : TokenKind} :
    p.separated kind ts = .ok (a, rest) ↔
      ∃ after, p ts = .ok (a, after) ∧ rest = (skip kind after).val := by
  unfold Reader.separated
  rw [andThen_eq_ok]
  simp only [Except.ok.injEq, Prod.mk.injEq]
  grind

theorem andThen_assoc {γ : Type} {r : β → Reader γ} :
    (p.andThen q).andThen r = p.andThen fun a => (q a).andThen r := by
  funext ts
  cases h : p ts with
  | error fault =>
    rw [andThen_of_error (andThen_of_error h), andThen_of_error h]
  | ok result =>
    simp [andThen, h]

theorem map_andThen {γ : Type} {f : α → β} {r : β → Reader γ} :
    (p.map f).andThen r = p.andThen fun a => r (f a) :=
  andThen_assoc

theorem separated_andThen {kind : TokenKind} :
    (p.separated kind).andThen q = p.andThen fun a ts => q a (skip kind ts).val :=
  andThen_assoc

/-- One token is read if it is of one of the kinds. -/
theorem oneOf_eq_ok {kinds : List TokenKind} {expected : Expected} {t : Token} :
    oneOf kinds expected ts = .ok (t, rest) ↔ ts = t :: rest ∧ t.kind ∈ kinds := by
  cases ts with
  | nil => simp [oneOf]
  | cons u us =>
    rw [oneOf]
    split
    · simp only [Except.ok.injEq, Prod.mk.injEq, List.cons.injEq]
      grind
    · simp only [reduceCtorEq, List.cons.injEq, false_iff]
      grind

theorem outcome_expect {kind : TokenKind} {expected : Expected} :
    outcome (expect kind expected ts) = oneOf [kind] expected ts := by
  cases ts with
  | nil => rfl
  | cons t rest =>
    by_cases ht : t.kind = kind
    · simp [expect, oneOf, ht, outcome, Except.map, Text.Unread.tail]
    · simp [expect, oneOf, ht, outcome, Except.map, stop]

def Advances (p : Reader α) : Prop :=
  ∀ ts a rest, p ts = .ok (a, rest) → rest.length < ts.length

def Shortens (p : Reader α) : Prop :=
  ∀ ts a rest, p ts = .ok (a, rest) → rest.length ≤ ts.length

theorem advances_outcome (step : (ts : List Token) → Step α ts) :
    Advances fun ts => outcome (step ts) := by
  intro ts a rest h
  obtain ⟨hlt, -⟩ := outcome_eq_ok.mp h
  exact hlt

theorem shortens_outcome (step : (ts : List Token) → Except Fault (α × Text.Left ts)) :
    Shortens fun ts => outcome (step ts) := by
  intro ts a rest h
  obtain ⟨hle, -⟩ := outcome_eq_ok.mp h
  exact hle

theorem Advances.shortens (h : Advances p) : Shortens p := by
  intro ts a rest hp
  exact Nat.le_of_lt (h ts a rest hp)

/-- The first reader takes a token, and the second one gives none back. -/
theorem Advances.andThen (hp : Advances p) (hq : ∀ a, Shortens (q a)) : Advances (p.andThen q) := by
  intro ts b rest h
  obtain ⟨a, after, hpa, hqb⟩ := andThen_eq_ok.mp h
  exact Nat.lt_of_le_of_lt (hq a after b rest hqb) (hp ts a after hpa)

theorem Shortens.map (hp : Shortens p) (f : α → β) : Shortens (p.map f) := by
  intro ts b rest h
  obtain ⟨a, hpa, -⟩ := map_eq_ok.mp h
  exact hp ts a rest hpa

theorem advances_oneOf (kinds : List TokenKind) (expected : Expected) :
    Advances (oneOf kinds expected) := by
  intro ts t rest h
  obtain ⟨rfl, -⟩ := oneOf_eq_ok.mp h
  simp

theorem Advances.separated (hp : Advances p) (kind : TokenKind) : Advances (p.separated kind) := by
  refine hp.andThen fun a ts b rest h => ?_
  cases h
  exact (skip kind ts).property

end Outcomes

/-- A first token that a reading before it cannot tell from another one: it is the
same, or of none of the kinds that would have been taken along. -/
def Alike (joins : List TokenKind) (rest other : List Token) : Prop :=
  other.head? = rest.head? ∨ ∀ t ∈ other.head?, t.kind ∉ joins

/-- Behind the same tokens, what follows cannot be told apart if it could not before. -/
theorem Alike.append {joins wider : List TokenKind} {rest other : List Token}
    (h : Alike wider rest other) (hsub : joins ⊆ wider) (used : List Token) :
    Alike joins (used ++ rest) (used ++ other) := by
  cases used with
  | nil => exact h.imp_right fun hnot t ht hmem => hnot t ht (hsub hmem)
  | cons u used => exact Or.inl rfl

theorem Alike.notFirst {joins : List TokenKind} {rest other : List Token} {kind : TokenKind}
    (h : Alike joins rest other) (hk : kind ∈ joins) (hr : NotFirst kind rest) :
    NotFirst kind other := by
  intro t ht heq
  rcases h with hsame | hnot
  · exact hr t (hsame ▸ ht) heq
  · exact hnot t ht (heq ▸ hk)

section Sharpness

variable {α β : Type} {joins avoided : List TokenKind} {good : α → Prop} {p : Reader α}
  {ts : List Token}

def mark (kind : TokenKind) : Token := ⟨kind, "", .start⟩

@[simp] theorem mark_kind (kind : TokenKind) : (mark kind).kind = kind := rfl

def Completes (p : Reader α) (completion : List Token) (a : α) : Prop :=
  (∀ t ∈ completion, t.kind ≠ .eof) ∧ ∀ rest, p (completion ++ rest) = .ok (a, rest)

/-- The fault lies at the first token of `after`: it is there for every list that
goes so far, and `before` can be completed. If `before` is empty, the completion
does not start with one of the avoided kinds. -/
structure Blames (avoided : List TokenKind) (good : α → Prop) (p : Reader α)
    (before after : List Token) (fault : Fault) : Prop where
  found : fault.found = after.head?
  same : ∀ t ∈ after.head?, ∀ more, p (before ++ t :: more) = .error fault
  completes : ∃ completion a, Completes (fun ts => p (before ++ ts)) completion a ∧ good a ∧
    (before = [] → ∃ t ∈ completion.head?, t.kind ∉ avoided)

/-- What is read stays read as long as nothing follows that would be taken along,
and every fault but that of an open template lies at the token to blame. -/
structure Sharp (joins avoided : List TokenKind) (good : α → Prop) (p : Reader α)
    (ts : List Token) : Prop where
  steady : ∀ a rest, p ts = .ok (a, rest) → good a ∧ ∃ used, ts = used ++ rest ∧
    ∀ other, Alike joins rest other → p (used ++ other) = .ok (a, other)
  exact : ∀ fault, p ts = .error fault → fault.expected ≠ .templateEnd →
    ∃ before after, ts = before ++ after ∧ Blames avoided good p before after fault

theorem completes_done (a : α) : Completes (done a) [] a :=
  ⟨by simp, fun _ => rfl⟩

/-- A reading is completed by completing the first reader and then the second. -/
theorem Completes.andThen {q : α → Reader β} {left right : List Token} {a : α} {b : β}
    (hp : Completes p left a) (hq : Completes (q a) right b) :
    Completes (p.andThen q) (left ++ right) b := by
  refine ⟨fun t ht => ?_, fun rest => ?_⟩
  · rcases List.mem_append.mp ht with ht | ht
    · exact hp.1 t ht
    · exact hq.1 t ht
  · rw [List.append_assoc, andThen_of_ok (hp.2 (right ++ rest))]
    exact hq.2 rest

theorem Completes.map {c : List Token} {a : α} (hp : Completes p c a) (f : α → β) :
    Completes (p.map f) c (f a) := by
  have h := hp.andThen (q := fun a => done (f a)) (completes_done (f a))
  rwa [List.append_nil] at h

/-- A missing token can be made up by its kind alone. -/
theorem completes_oneOf {kinds : List TokenKind} {expected : Expected} (kind : TokenKind)
    (hkind : kind ∈ kinds) (heof : kind ≠ .eof) :
    Completes (oneOf kinds expected) [mark kind] (mark kind) :=
  ⟨by simpa using heof, fun _ => oneOf_eq_ok.mpr ⟨rfl, hkind⟩⟩

theorem Completes.separated {c : List Token} {a : α} (hp : Completes p c a) {kind : TokenKind}
    (heof : kind ≠ .eof) : Completes (p.separated kind) (c ++ [mark kind]) a := by
  refine hp.andThen ⟨by simpa using heof, fun rest => ?_⟩
  simp [skip, Text.Left.tail]

/-- A token that is read by itself. -/
theorem sharp_of_token {t : Token} {rest : List Token} {a : α} (hgood : good a)
    (h : ∀ more, p (t :: more) = .ok (a, more)) : Sharp joins avoided good p (t :: rest) where
  steady b after hb := by
    rw [h rest] at hb
    cases hb
    exact ⟨hgood, [t], rfl, fun other _ => h other⟩
  exact fault hfault := by
    rw [h rest] at hfault
    cases hfault

/-- A first token with which reading stops, where another one could stand. -/
theorem sharp_of_stop (expected : Expected) {completion : List Token} {a : α} (hgood : good a)
    (h : ∀ us, us.head? = ts.head? → p us = .error ⟨expected, us.head?⟩)
    (hc : Completes p completion a) (hfirst : ∃ t ∈ completion.head?, t.kind ∉ avoided) :
    Sharp joins avoided good p ts where
  steady b after hb := by
    rw [h ts rfl] at hb
    cases hb
  exact fault hfault _ := by
    rw [h ts rfl] at hfault
    cases hfault
    refine ⟨[], ts, rfl, rfl, fun t ht more => ?_, completion, a, hc, hgood, fun _ => hfirst⟩
    have hhead : (t :: more).head? = ts.head? := ht.symm
    rw [List.nil_append, h (t :: more) hhead, hhead]

theorem sharp_done {a : α} (hgood : good a) : Sharp joins avoided good (done a) ts where
  steady b after hb := by
    cases hb
    exact ⟨hgood, [], rfl, fun _ _ => rfl⟩
  exact fault hfault := by
    cases hfault

/-- Something optional that is not there. -/
theorem sharp_of_absent {kind : TokenKind} (a : α) (hgood : good a) (hjoins : kind ∈ joins)
    (h : ∀ us, NotFirst kind us → p us = .ok (a, us)) (hts : NotFirst kind ts) :
    Sharp joins avoided good p ts where
  steady b after hb := by
    rw [h ts hts] at hb
    cases hb
    exact ⟨hgood, [], rfl, fun other hother => h other (hother.notFirst hjoins hts)⟩
  exact fault hfault := by
    rw [h ts hts] at hfault
    cases hfault

/-- Less can be asked of what is read. -/
theorem Sharp.imp {fine : α → Prop} (h : Sharp joins avoided good p ts)
    (hgood : ∀ a, good a → fine a) : Sharp joins avoided fine p ts where
  steady a rest ha := (h.steady a rest ha).imp_left (hgood a)
  exact fault hfault hne := by
    obtain ⟨before, after, hts, hblames⟩ := h.exact fault hfault hne
    obtain ⟨c, a, hc, ha, hfirst⟩ := hblames.completes
    exact ⟨before, after, hts, hblames.found, hblames.same, c, a, hc, hgood a ha, hfirst⟩

theorem Sharp.avoiding {fewer : List TokenKind} (h : Sharp joins avoided good p ts)
    (hsub : fewer ⊆ avoided) : Sharp joins fewer good p ts where
  steady := h.steady
  exact fault hfault hne := by
    obtain ⟨before, after, hts, hblames⟩ := h.exact fault hfault hne
    obtain ⟨c, a, hc, ha, hfirst⟩ := hblames.completes
    refine ⟨before, after, hts, hblames.found, hblames.same, c, a, hc, ha, fun hnil => ?_⟩
    obtain ⟨t, ht, hkind⟩ := hfirst hnil
    exact ⟨t, ht, fun hmem => hkind (hsub hmem)⟩

/-- Readers one after the other. The second one has to start with something that
the first one does not take along. -/
theorem Sharp.andThen {q : α → Reader β} {fine : β → Prop} {wider : List TokenKind}
    (hp : Sharp joins avoided good p ts) (hadvances : Advances p) (hsub : joins ⊆ wider)
    (hcomplete : ∀ a, good a → ∃ c b, Completes (q a) c b ∧ fine b)
    (hq : ∀ a rest, p ts = .ok (a, rest) → good a → Sharp wider joins fine (q a) rest) :
    Sharp wider avoided fine (p.andThen q) ts where
  steady b last hb := by
    obtain ⟨a, rest, hpa, hqb⟩ := andThen_eq_ok.mp hb
    obtain ⟨ha, used, hts, hused⟩ := hp.steady a rest hpa
    obtain ⟨hfine, taken, rfl, htaken⟩ := (hq a rest hpa ha).steady b last hqb
    refine ⟨hfine, used ++ taken, by simp [hts], fun other hother => ?_⟩
    rw [List.append_assoc, andThen_of_ok (hused _ (hother.append hsub taken))]
    exact htaken other hother
  exact fault hfault hne := by
    cases hpa : p ts with
    | error fault' =>
      rw [andThen_of_error hpa] at hfault
      cases hfault
      obtain ⟨before, after, hts, hblames⟩ := hp.exact fault hpa hne
      obtain ⟨c, a, hc, ha, hfirst⟩ := hblames.completes
      obtain ⟨c', b, hc', hb⟩ := hcomplete a ha
      refine ⟨before, after, hts, hblames.found,
        fun t ht more => andThen_of_error (hblames.same t ht more),
        c ++ c', b, hc.andThen hc', hb, fun hnil => ?_⟩
      obtain ⟨t, ht, hkind⟩ := hfirst hnil
      exact ⟨t, by rw [List.head?_append, Option.mem_def.mp ht]; rfl, hkind⟩
    | ok result =>
      obtain ⟨a, rest⟩ := result
      obtain ⟨ha, used, hts, hused⟩ := hp.steady a rest hpa
      have hne' : used ≠ [] := by
        intro hnil
        have hlt := hadvances ts a rest hpa
        simp [hts, hnil] at hlt
      rw [andThen_of_ok hpa] at hfault
      obtain ⟨before, after, rfl, hblames⟩ := (hq a rest hpa ha).exact fault hfault hne
      obtain ⟨c, b, hc, hb, hfirst⟩ := hblames.completes
      -- What the first reader left is followed by the same token as before, or by a
      -- completion that starts with a token it does not take along.
      have hsame (t : Token) (ht : t ∈ after.head?) (more : List Token) :
          Alike joins (before ++ after) (before ++ t :: more) := by
        refine Alike.append (Or.inl ?_) (List.Subset.refl joins) before
        rw [Option.mem_def.mp ht]
        rfl
      have hcompletion (rest : List Token) :
          Alike joins (before ++ after) (before ++ (c ++ rest)) := by
        cases before with
        | cons u before => exact Or.inl rfl
        | nil =>
          obtain ⟨t, ht, hkind⟩ := hfirst rfl
          refine Or.inr fun u hu => ?_
          have hhead : (c ++ rest).head? = some t := by
            rw [List.head?_append, Option.mem_def.mp ht]
            rfl
          obtain rfl : t = u := by simpa [hhead] using hu
          exact hkind
      refine ⟨used ++ before, after, by simp [hts], hblames.found, fun t ht more => ?_, c, b,
        ⟨hc.1, fun rest => ?_⟩, hb, fun hnil => absurd (List.append_eq_nil_iff.mp hnil).1 hne'⟩
      · rw [List.append_assoc, andThen_of_ok (hused _ (hsame t ht more))]
        exact hblames.same t ht more
      · show p.andThen q (used ++ before ++ (c ++ rest)) = .ok (b, rest)
        rw [List.append_assoc, andThen_of_ok (hused _ (hcompletion rest))]
        exact hc.2 rest

/-- Putting what is read into another form moves no fault. -/
theorem Sharp.map {f : α → β} {fine : β → Prop} (h : Sharp joins avoided good p ts)
    (hgood : ∀ a, good a → fine (f a)) : Sharp joins avoided fine (p.map f) ts where
  steady b rest hb := by
    obtain ⟨a, hpa, rfl⟩ := map_eq_ok.mp hb
    obtain ⟨ha, used, hts, hused⟩ := h.steady a rest hpa
    exact ⟨hgood a ha, used, hts, fun other hother =>
      map_eq_ok.mpr ⟨a, hused other hother, rfl⟩⟩
  exact fault hfault hne := by
    cases hpa : p ts with
    | ok result =>
      rw [Reader.map, andThen_of_ok hpa] at hfault
      cases hfault
    | error fault' =>
      rw [Reader.map, andThen_of_error hpa] at hfault
      cases hfault
      obtain ⟨before, after, hts, hblames⟩ := h.exact fault hpa hne
      obtain ⟨c, a, hc, ha, hfirst⟩ := hblames.completes
      exact ⟨before, after, hts, hblames.found,
        fun t ht more => andThen_of_error (hblames.same t ht more),
        c, f a, ⟨hc.1, fun rest => map_eq_ok.mpr ⟨a, hc.2 rest, rfl⟩⟩, hgood a ha, hfirst⟩

/-- A reader behind tokens that are fixed. -/
theorem Sharp.behind {q : Reader α} {other : List TokenKind}
    (h : Sharp joins other good q ts) (first : List Token) (hne : first ≠ [])
    (hp : ∀ us, p (first ++ us) = q us) : Sharp joins avoided good p (first ++ ts) where
  steady a rest ha := by
    rw [hp] at ha
    obtain ⟨hgood, used, rfl, hused⟩ := h.steady a rest ha
    refine ⟨hgood, first ++ used, by simp, fun other hother => ?_⟩
    rw [List.append_assoc, hp]
    exact hused other hother
  exact fault hfault hexpected := by
    rw [hp] at hfault
    obtain ⟨before, after, rfl, hblames⟩ := h.exact fault hfault hexpected
    obtain ⟨c, a, hc, ha, -⟩ := hblames.completes
    refine ⟨first ++ before, after, by simp, hblames.found, fun t ht more => ?_, c, a,
      ⟨hc.1, fun rest => ?_⟩, ha, fun hnil => absurd (List.append_eq_nil_iff.mp hnil).1 hne⟩
    · rw [List.append_assoc, hp]
      exact hblames.same t ht more
    · show p (first ++ before ++ (c ++ rest)) = .ok (a, rest)
      rw [List.append_assoc, hp]
      exact hc.2 rest

/-- The fault of a single token is its own, since another one could stand in its place. -/
theorem sharp_oneOf {kinds : List TokenKind} {expected : Expected} (kind : TokenKind)
    (hkind : kind ∈ kinds) (heof : kind ≠ .eof) (havoided : kind ∉ avoided) :
    Sharp joins avoided (fun _ => True) (oneOf kinds expected) ts := by
  by_cases hts : ∃ t rest, ts = t :: rest ∧ t.kind ∈ kinds
  · obtain ⟨t, rest, rfl, ht⟩ := hts
    exact sharp_of_token trivial fun more => oneOf_eq_ok.mpr ⟨rfl, ht⟩
  · refine sharp_of_stop expected trivial (fun us hus => ?_) (completes_oneOf kind hkind heof)
      ⟨mark kind, rfl, havoided⟩
    cases us with
    | nil => rfl
    | cons u us =>
      obtain ⟨rest, rfl⟩ := List.head?_eq_some_iff.mp hus.symm
      have hu : u.kind ∉ kinds := fun hu => hts ⟨u, rest, rfl, hu⟩
      simp [oneOf, hu]

/-- A token of one of the kinds, and then another reader. -/
theorem sharp_oneOf_andThen {kinds : List TokenKind} {expected : Expected} {q : Token → Reader α}
    (kind : TokenKind) (hkind : kind ∈ kinds) (heof : kind ≠ .eof) (havoided : kind ∉ avoided)
    (hcomplete : ∀ t, ∃ c a, Completes (q t) c a ∧ good a)
    (hq : ∀ t rest, ts = t :: rest → t.kind ∈ kinds → Sharp joins [] good (q t) rest) :
    Sharp joins avoided good ((oneOf kinds expected).andThen q) ts := by
  refine (sharp_oneOf kind hkind heof havoided).andThen (advances_oneOf kinds expected)
    (List.nil_subset joins) (fun t _ => hcomplete t) fun t rest ht _ => ?_
  obtain ⟨hts, hk⟩ := oneOf_eq_ok.mp ht
  exact hq t rest hts hk

/-- A separator that may be missing is never to blame. -/
theorem sharp_separated {kind : TokenKind} (h : Sharp joins avoided good p ts)
    (hadvances : Advances p) (hjoins : kind ∈ joins) (heof : kind ≠ .eof) :
    Sharp joins avoided good (p.separated kind) ts := by
  refine h.andThen hadvances (List.Subset.refl joins) (fun a ha => ?_) (fun a rest _ ha => ?_)
  · exact ⟨[mark kind], a, ⟨by simpa using heof, fun rest => by
      simp [skip, Text.Left.tail]⟩, ha⟩
  · by_cases hrest : NotFirst kind rest
    · exact sharp_of_absent a ha hjoins (fun us hus => by simp [skip_of_notFirst hus]) hrest
    · obtain ⟨t, more, rfl, ht⟩ := exists_cons_of_not_notFirst hrest
      exact sharp_of_token ha fun us => by simp [skip, ht, Text.Left.tail]

end Sharpness

/-- The reader `loop` repeats `step` until a token of the closing kind. -/
structure Loops {α : Type} (close : TokenKind) (step : Reader α) (loop : Reader (List α)) :
    Prop where
  ends : ∀ t more, t.kind = close → loop (t :: more) = .ok ([], more)
  repeats : ∀ ts, NotFirst close ts → loop ts = step.andThen (fun x => loop.map (x :: ·)) ts

section Repetition

variable {α : Type} {close : TokenKind} {step : Reader α} {loop : Reader (List α)}

/-- A loop is completed by its closing token. -/
theorem Loops.completes (h : Loops close step loop) (heof : close ≠ .eof) :
    Completes loop [mark close] [] :=
  ⟨by simpa using heof, fun rest => h.ends _ rest rfl⟩

/-- Two readers that agree unless a token of the kind stands first. -/
theorem Sharp.of_notFirst {p q : Reader α} {joins avoided : List TokenKind} {good : α → Prop}
    {ts : List Token} (h : Sharp joins (close :: avoided) good q ts) (hadvances : Advances q)
    (hts : NotFirst close ts) (hpq : ∀ us, NotFirst close us → p us = q us) :
    Sharp joins avoided good p ts where
  steady a rest ha := by
    rw [hpq ts hts] at ha
    have hlt := hadvances ts a rest ha
    obtain ⟨hgood, used, rfl, hused⟩ := h.steady a rest ha
    refine ⟨hgood, used, rfl, fun other hother => ?_⟩
    cases used with
    | nil => simp at hlt
    | cons u used =>
      have hu : NotFirst close (u :: used ++ other) := notFirst_cons.mpr (notFirst_cons.mp hts)
      rw [hpq _ hu]
      exact hused other hother
  exact fault hfault hne := by
    rw [hpq ts hts] at hfault
    obtain ⟨before, after, rfl, hblames⟩ := h.exact fault hfault hne
    obtain ⟨c, a, hc, ha, hfirst⟩ := hblames.completes
    refine ⟨before, after, rfl, hblames.found, fun t ht more => ?_, c, a,
      ⟨hc.1, fun rest => ?_⟩, ha, fun hnil => ?_⟩
    · have hsame : NotFirst close (before ++ t :: more) := by
        cases before with
        | nil => exact notFirst_cons.mpr (hts t ht)
        | cons u before => exact notFirst_cons.mpr (notFirst_cons.mp hts)
      rw [hpq _ hsame]
      exact hblames.same t ht more
    · have hcompletion : NotFirst close (before ++ (c ++ rest)) := by
        cases before with
        | nil =>
          obtain ⟨t, ht, hkind⟩ := hfirst rfl
          obtain ⟨c, rfl⟩ := List.head?_eq_some_iff.mp ht
          exact notFirst_cons.mpr fun heq => hkind (List.mem_cons.mpr (Or.inl heq))
        | cons u before => exact notFirst_cons.mpr (notFirst_cons.mp hts)
      exact (hpq _ hcompletion).trans (hc.2 rest)
    · obtain ⟨t, ht, hkind⟩ := hfirst hnil
      exact ⟨t, ht, fun hmem => hkind (List.mem_cons_of_mem close hmem)⟩

/-- A loop is sharp if its step is, as long as the invariant lasts. -/
theorem Loops.sharp {joins : List TokenKind} {good : α → Prop} (h : Loops close step loop)
    (inv : List Token → Prop) (heof : close ≠ .eof) (hadvances : Advances step)
    (hloop : Advances loop)
    (hstep : ∀ ts, inv ts → Sharp joins (close :: joins) good step ts)
    (hinv : ∀ ts x rest, inv ts → step ts = .ok (x, rest) → inv rest) (ts : List Token)
    (hts : inv ts) : Sharp joins joins (fun xs => ∀ x ∈ xs, good x) loop ts := by
  by_cases hfirst : NotFirst close ts
  · have hadvances' : Advances (step.andThen fun x => loop.map (x :: ·)) :=
      hadvances.andThen fun x => hloop.shortens.map (x :: ·)
    refine Sharp.of_notFirst ?_ hadvances' hfirst h.repeats
    refine (hstep ts hts).andThen hadvances (List.Subset.refl joins) (fun x hx => ?_)
      (fun x rest hread hx => ?_)
    · exact ⟨_, [x], (h.completes heof).map (x :: ·), by simpa using hx⟩
    · have hlt := hadvances ts x rest hread
      have ih := Loops.sharp h inv heof hadvances hloop hstep hinv rest
        (hinv ts x rest hts hread)
      exact ih.map fun xs hxs => by simpa using ⟨hx, hxs⟩
  · obtain ⟨t, rest, rfl, ht⟩ := exists_cons_of_not_notFirst hfirst
    exact sharp_of_token (by simp) fun more => h.ends t more ht
termination_by ts.length
decreasing_by exact hlt

end Repetition

end FlowGraph.Parser
