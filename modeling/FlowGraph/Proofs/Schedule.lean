import FlowGraph.Proofs.Decimal
import FlowGraph.Proofs.Text.Words
import FlowGraph.Schedule

/-!
Cron expressions that are intervals. The fields of an expression write an interval in one of
five shapes, which overlap but do not contradict each other. Every interval has one text of
its own, which is read as this interval again; what is no interval stays as it is written,
less the blanks around it.
-/

namespace FlowGraph

namespace Schedule

variable {field : List Char} {fields : List (List Char)} {unit : TimeUnit} {n : Nat}

def Steps (field : List Char) (n : Nat) : Prop :=
  ∃ digits, field = '*' :: '/' :: digits ∧ digits ≠ [] ∧
    (∀ d ∈ digits, Decimal.isDigit d = true) ∧ Decimal.value digits = n ∧ 1 ≤ n ∧ n < UInt64.size

/-- The shapes of fields that write an interval. -/
inductive Writes : List (List Char) → TimeUnit → Nat → Prop
  | always {minute hour day month weekday : List Char} :
      (∀ field ∈ [minute, hour, day, month, weekday], field = ['*'] ∨ field = ['*', '/', '1']) →
      Writes [minute, hour, day, month, weekday] .minutes 1
  | minutes {field : List Char} {n : Nat} : Steps field n →
      Writes [field, ['*'], ['*'], ['*'], ['*']] .minutes n
  | hour : Writes [['0'], ['*'], ['*'], ['*'], ['*']] .hours 1
  | day : Writes [['0'], ['0'], ['*'], ['*'], ['*']] .days 1
  | hours {field : List Char} {n : Nat} : Steps field n →
      Writes [['0'], field, ['*'], ['*'], ['*']] .hours n

/-- A step is read from `*/N`, where `N` is not zero and fits 64 bits. -/
theorem step?_eq_some_iff : step? field = some n ↔ Steps field n := by
  unfold step?
  cases hfield : Text.dropPrefix? ['*', '/'] field with
  | none =>
    constructor
    · intro hnone
      cases hnone
    · rintro ⟨digits, rfl, -⟩
      cases hfield.symm.trans (Text.dropPrefix?_eq_some_iff.mpr rfl)
  | some ds =>
    obtain rfl := Text.dropPrefix?_eq_some_iff.mp hfield
    rw [Option.filter_eq_some_iff, Decimal.natural?_eq_some_iff, Bool.and_eq_true,
      decide_eq_true_eq, decide_eq_true_eq]
    constructor
    · rintro ⟨⟨hne, hdigits, hvalue⟩, hpos, hfits⟩
      exact ⟨ds, rfl, hne, hdigits, hvalue, hpos, hfits⟩
    · rintro ⟨digits, heq, hne, hdigits, hvalue, hpos, hfits⟩
      obtain rfl : ds = digits := List.append_cancel_left heq
      exact ⟨⟨hne, hdigits, hvalue⟩, hpos, hfits⟩

theorem Steps.ne (hfield : Steps field n) : field ≠ ['*'] ∧ field ≠ ['0'] := by
  obtain ⟨digits, rfl, hrest⟩ := hfield
  simp

theorem Steps.eq_one (hfield : Steps ['*', '/', '1'] n) : n = 1 := by
  obtain ⟨digits, heq, -, -, hvalue, -⟩ := hfield
  obtain rfl : ['1'] = digits := by simpa using heq
  exact hvalue.symm

/-- The order in which the shapes are tried. -/
theorem interval?_five (minute hour day month weekday : List Char) :
    interval? [minute, hour, day, month, weekday] =
      if ∀ field ∈ [minute, hour, day, month, weekday], field = ['*'] ∨ field = ['*', '/', '1'] then
        some (.minutes, 1)
      else if [minute, hour, day, month, weekday] = [['0'], ['*'], ['*'], ['*'], ['*']] then
        some (.hours, 1)
      else if [minute, hour, day, month, weekday] = [['0'], ['0'], ['*'], ['*'], ['*']] then
        some (.days, 1)
      else if [hour, day, month, weekday] = [['*'], ['*'], ['*'], ['*']] then
        (step? minute).map fun n => (.minutes, n)
      else if [minute, day, month, weekday] = [['0'], ['*'], ['*'], ['*']] then
        (step? hour).map fun n => (.hours, n)
      else none := by
  simp [interval?, and_assoc]

theorem writes_of_interval? (hfields : interval? fields = some (unit, n)) :
    Writes fields unit n := by
  unfold interval? at hfields
  split at hfields
  · next minute hour day month weekday =>
    change interval? [minute, hour, day, month, weekday] = some (unit, n) at hfields
    rw [interval?_five] at hfields
    split_ifs at hfields with hall hhour hday hminutes hhours
    · cases hfields
      exact .always hall
    · cases hfields
      exact hhour ▸ .hour
    · cases hfields
      exact hday ▸ .day
    · obtain ⟨m, hm, heq⟩ := Option.map_eq_some_iff.mp hfields
      cases heq
      cases hminutes
      exact .minutes (step?_eq_some_iff.mp hm)
    · obtain ⟨m, hm, heq⟩ := Option.map_eq_some_iff.mp hfields
      cases heq
      cases hhours
      exact .hours (step?_eq_some_iff.mp hm)
  · cases hfields

/-- Where shapes overlap they write the same interval, so the order of trying them does not matter.
-/
theorem interval?_of_writes (hfields : Writes fields unit n) :
    interval? fields = some (unit, n) := by
  cases hfields with
  | always hall => rw [interval?_five, if_pos hall]
  | @minutes field _ hfield =>
    rw [interval?_five]
    by_cases hone : field = ['*', '/', '1']
    · -- Every field fires always, and this shape comes first; it writes the same interval.
      subst hone
      rw [hfield.eq_one]
      rfl
    · have hne := hfield.ne
      have hstep := step?_eq_some_iff.mpr hfield
      simp [hone, hne, hstep]
  | hour => rfl
  | day => rfl
  | @hours field _ hfield =>
    have hne := hfield.ne
    have hstep := step?_eq_some_iff.mpr hfield
    rw [interval?_five]
    simp [hne, hstep]

theorem Writes.amount (hfields : Writes fields unit n) :
    1 ≤ n ∧ n < UInt64.size ∧ (unit = .minutes ∨ unit = .hours ∨ unit = .days ∧ n = 1) := by
  have hone : 1 < UInt64.size := by decide
  cases hfields with
  | always _ => exact ⟨le_rfl, hone, Or.inl rfl⟩
  | minutes hfield =>
    obtain ⟨_, _, _, _, _, hpos, hfits⟩ := hfield
    exact ⟨hpos, hfits, Or.inl rfl⟩
  | hour => exact ⟨le_rfl, hone, Or.inr (Or.inl rfl)⟩
  | day => exact ⟨le_rfl, hone, Or.inr (Or.inr ⟨rfl, rfl⟩)⟩
  | hours hfield =>
    obtain ⟨_, _, _, _, _, hpos, hfits⟩ := hfield
    exact ⟨hpos, hfits, Or.inr (Or.inl rfl)⟩

section Canonical

def cronText? : TimeUnit → Nat → Option String
  | .minutes, n => some ("*/" ++ String.ofList (Decimal.digits n) ++ " * * * *")
  | .hours, n => some ("0 */" ++ String.ofList (Decimal.digits n) ++ " * * *")
  | .days, 1 => some "0 0 * * *"
  | _, _ => none

theorem steps_digits (hpos : 1 ≤ n) (hfits : n < UInt64.size) :
    Steps ('*' :: '/' :: Decimal.digits n) n :=
  ⟨Decimal.digits n, rfl, Decimal.digits_ne_nil n, fun _ hd => Decimal.isDigit_of_mem_digits hd,
    Decimal.value_digits n, hpos, hfits⟩

theorem unbroken_step (n : Nat) : Text.Unbroken ('*' :: '/' :: Decimal.digits n) := by
  refine ⟨by simp, ?_⟩
  intro c hc
  rcases List.mem_cons.mp hc with rfl | hc
  · rfl
  · rcases List.mem_cons.mp hc with rfl | hc
    · rfl
    · exact Text.not_isBlank_of_isDigit (Decimal.isDigit_of_mem_digits hc)

theorem words_minutes (n : Nat) :
    Text.words ("*/" ++ String.ofList (Decimal.digits n) ++ " * * * *").toList =
      ['*' :: '/' :: Decimal.digits n, ['*'], ['*'], ['*'], ['*']] := by
  have htext : ("*/" ++ String.ofList (Decimal.digits n) ++ " * * * *").toList =
      ('*' :: '/' :: Decimal.digits n) ++ " * * * *".toList := by
    simp
  have hrest : Text.Breaks " * * * *".toList := by
    simp [Text.Breaks, Text.isBlank]
  rw [htext, Text.words_unbroken_append (unbroken_step n) hrest]
  rfl

theorem words_hours (n : Nat) :
    Text.words ("0 */" ++ String.ofList (Decimal.digits n) ++ " * * *").toList =
      [['0'], '*' :: '/' :: Decimal.digits n, ['*'], ['*'], ['*']] := by
  have htext : ("0 */" ++ String.ofList (Decimal.digits n) ++ " * * *").toList =
      '0' :: ' ' :: (('*' :: '/' :: Decimal.digits n) ++ " * * *".toList) := by
    simp
  have hrest : Text.Breaks " * * *".toList := by
    simp [Text.Breaks, Text.isBlank]
  rw [htext, Text.words_cons_breaks rfl (by simp [Text.Breaks, Text.isBlank]),
    Text.words_cons_blank rfl, Text.words_unbroken_append (unbroken_step n) hrest]
  rfl

/-- Every interval has a text of its own, which writes it. -/
theorem Writes.exists_cronText (hfields : Writes fields unit n) :
    ∃ text, cronText? unit n = some text ∧ Writes (Text.words text.toList) unit n := by
  obtain ⟨hpos, hfits, rfl | rfl | ⟨rfl, rfl⟩⟩ := hfields.amount
  · refine ⟨_, rfl, ?_⟩
    rw [words_minutes]
    exact .minutes (steps_digits hpos hfits)
  · refine ⟨_, rfl, ?_⟩
    rw [words_hours]
    exact .hours (steps_digits hpos hfits)
  · exact ⟨_, rfl, .day⟩

end Canonical

/-- An expression is an interval exactly if its words write one. -/
theorem ofCron_eq_every_iff {e : String} {v : Json} :
    ofCron e = .every unit v ↔ ∃ n, v = .ofNat n ∧ Writes (Text.words e.toList) unit n := by
  unfold ofCron
  cases hinterval : interval? (Text.words e.toList) with
  | none =>
    constructor
    · intro hcron
      cases hcron
    · rintro ⟨n, -, hwrites⟩
      rw [interval?_of_writes hwrites] at hinterval
      cases hinterval
  | some found =>
    obtain ⟨u, m⟩ := found
    constructor
    · intro hevery
      cases hevery
      exact ⟨m, rfl, writes_of_interval? hinterval⟩
    · rintro ⟨n, rfl, hwrites⟩
      rw [interval?_of_writes hwrites] at hinterval
      cases hinterval
      rfl

theorem ofCron_eq_cron_iff {e x : String} :
    ofCron e = .cron x ↔ x = Text.strip e ∧ interval? (Text.words e.toList) = none := by
  unfold ofCron
  cases interval? (Text.words e.toList) with
  | none => simp [eq_comm]
  | some found => simp

/-- Reading a cron expression finds a normal form. An interval is one of minutes, of hours or
of a single day, and its own text is read as the same interval; an expression that is no
interval is trimmed and then stays what it is. It is an interval exactly if its words have
one of the five shapes, and then it is the one that they write. -/
theorem ofCron_canonical (e : String) :
    (∀ unit v, ofCron e = .every unit v → ∃ n text, v = .ofNat n ∧ 1 ≤ n ∧
      (unit = .minutes ∨ unit = .hours ∨ unit = .days ∧ n = 1) ∧
      cronText? unit n = some text ∧ ofCron text = .every unit (.ofNat n)) ∧
    (∀ x, ofCron e = .cron x → x = Text.strip e ∧ ofCron x = .cron x) ∧
    (∀ unit v, ofCron e = .every unit v ↔
      ∃ n fields, v = .ofNat n ∧ Text.MadeOf e.toList fields ∧ Writes fields unit n) := by
  refine ⟨?_, ?_, ?_⟩
  · intro unit v hevery
    obtain ⟨n, rfl, hwrites⟩ := ofCron_eq_every_iff.mp hevery
    obtain ⟨hpos, -, hunit⟩ := hwrites.amount
    obtain ⟨text, htext, hsame⟩ := hwrites.exists_cronText
    exact ⟨n, text, rfl, hpos, hunit, htext, ofCron_eq_every_iff.mpr ⟨n, rfl, hsame⟩⟩
  · intro x hcron
    obtain ⟨rfl, hnone⟩ := ofCron_eq_cron_iff.mp hcron
    refine ⟨rfl, ofCron_eq_cron_iff.mpr ⟨(Text.strip_strip e).symm, ?_⟩⟩
    rw [Text.toList_strip, Text.words_trim, hnone]
  · intro unit v
    rw [ofCron_eq_every_iff]
    constructor
    · rintro ⟨n, hv, hwrites⟩
      exact ⟨n, _, hv, Text.words_eq_iff.mp rfl, hwrites⟩
    · rintro ⟨n, fields, hv, hfields, hwrites⟩
      rw [← Text.words_eq_iff.mpr hfields] at hwrites
      exact ⟨n, hv, hwrites⟩

/-- A step with zeros in front and odd blanks, and one that is too large. -/
theorem ofCron_canonical_steps :
    ofCron "\t0  */007 * *\n*" = .every .hours (.ofNat 7) ∧
      cronText? .hours 7 = some "0 */7 * * *" ∧
      ofCron "0 */7 * * *" = .every .hours (.ofNat 7) ∧
      ofCron " */18446744073709551616 * * * * " = .cron "*/18446744073709551616 * * * *" ∧
      ofCron "*/18446744073709551616 * * * *" = .cron "*/18446744073709551616 * * * *" := by
  have hevery : ofCron "\t0  */007 * *\n*" = .every .hours (.ofNat 7) := rfl
  have hcron : ofCron " */18446744073709551616 * * * * " =
      .cron "*/18446744073709551616 * * * *" := rfl
  have hdigits : Decimal.digits 7 = ['7'] := by
    rw [Decimal.digits]
    rfl
  have hseven : cronText? .hours 7 = some "0 */7 * * *" := by
    rw [cronText?, hdigits]
    rfl
  obtain ⟨n, text, hn, -, -, htext, hsame⟩ :=
    (ofCron_canonical "\t0  */007 * *\n*").1 .hours (.ofNat 7) hevery
  obtain rfl : 7 = n := Int.ofNat.inj (Json.int.inj hn)
  obtain rfl : "0 */7 * * *" = text := Option.some.inj (hseven.symm.trans htext)
  exact ⟨hevery, hseven, hsame, hcron, ((ofCron_canonical _).2.1 _ hcron).2⟩

end Schedule

end FlowGraph
