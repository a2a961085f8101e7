import FlowGraph.Proofs.Condition.Spans
import FlowGraph.Proofs.Fields
import FlowGraph.Target.Parameters

/-!
Numbers that are read for nodes: right operands of comparisons, and settings that count
something. What is read as a number is one, with a single exception. A text can write a
number that is not finite, and since no data value stands for it, null takes its place.
-/

namespace FlowGraph

def Json.Finite (v : Json) : Prop :=
  ∀ x, v = .float x → x.isFinite = true

theorem Json.finite_of_numberOfText? {text : String} {v : Json}
    (hv : numberOfText? text = some v) : v.Finite := by
  rintro x rfl
  exact isFinite_of_numberOfText? hv

/-- A text that is trimmed already is read as it stands. -/
theorem Json.numberOfText?_trim (text : String) :
    numberOfText? (String.ofList (Text.trim text.toList)) = numberOfText? text := by
  have htrim : Text.trim (Text.trim text.toList) = Text.trim text.toList :=
    Text.trim_of_starts_ends (Text.starts_trim _) (Text.ends_trim _)
  unfold numberOfText?
  rw [String.toList_ofList, htrim]

namespace Operand

variable {cs : List Char}

def Typed (o : Operand) : Prop :=
  match o.type with
  | .number => o.value.isNumber = true ∧ o.value.Finite
  | .boolean => ∃ b, o.value = .bool b
  | .string | .dateTime => ∃ text, o.value = .str text

def TooLarge (text : String) : Prop :=
  isNumber (Text.trim text.toList) = true ∧ Json.NotFinite text

theorem unquote?_of_isNumber (hcs : isNumber cs = true) : unquote? cs = none := by
  rw [Option.eq_none_iff_forall_ne_some]
  intro inner hinner
  obtain ⟨quote, hquote, rfl⟩ := exists_of_unquote? hinner
  have hmem := mem_of_isNumber hcs quote List.mem_cons_self
  rcases hquote with rfl | rfl <;> revert hmem <;> decide

theorem ofText_of_tooLarge {text : String} (htext : TooLarge text) :
    ofText text = ⟨.null, .number⟩ := by
  obtain ⟨hnumber, hlarge⟩ := htext
  unfold ofText ofChars
  simp only [unquote?_of_isNumber hnumber, hnumber, if_true, Json.numberOfText?_trim,
    hlarge.numberOfText?_eq]

/-- An operand is of the kind that its type says, unless it is a number beyond all numbers. -/
theorem typed_ofText {text : String} (htext : ¬ TooLarge text) : (ofText text).Typed := by
  unfold ofText ofChars
  dsimp only
  cases unquote? (Text.trim text.toList) with
  | some inner => exact ⟨_, rfl⟩
  | none =>
    dsimp only
    split
    · next n hn =>
      split at hn
      · next hnumber =>
        rw [Json.numberOfText?_trim] at hn
        rcases Json.numberOfText?_cases hn with hkind | ⟨-, hlarge⟩
        · exact ⟨hkind, Json.finite_of_numberOfText? hn⟩
        · exact absurd ⟨hnumber, hlarge⟩ htext
      · cases hn
    · split
      · exact ⟨true, rfl⟩
      · exact ⟨false, rfl⟩
      · cases isDate (Text.trim text.toList)
        · exact ⟨_, rfl⟩
        · exact ⟨_, rfl⟩

end Operand

namespace Settings

variable {s : Settings} {name : String} {v : Json}

def NotFinite (s : Settings) (name : String) : Prop :=
  ∃ text, s.get? name = some (.str text) ∧ Json.NotFinite text

/-- A number, or null in the place of one that is not finite. Numbers that no setting has
as they stand are finite. -/
def CountsBy (s : Settings) (names : List String) (v : Json) : Prop :=
  v.isNumber = true ∧ (v.Finite ∨ ∃ name ∈ names, s.get? name = some v) ∨
    v = .null ∧ ∃ name ∈ names, s.NotFinite name

theorem CountsBy.mono {names more : List String} (hv : s.CountsBy names v) (hmore : names ⊆ more) :
    s.CountsBy more v := by
  rcases hv with ⟨hnumber, hfinite | ⟨name, hname, hgiven⟩⟩ | ⟨hnull, name, hname, htext⟩
  · exact Or.inl ⟨hnumber, Or.inl hfinite⟩
  · exact Or.inl ⟨hnumber, Or.inr ⟨name, hmore hname, hgiven⟩⟩
  · exact Or.inr ⟨hnull, name, hmore hname, htext⟩

theorem countsBy_ofNat (s : Settings) (names : List String) (n : Nat) :
    s.CountsBy names (.ofNat n) := by
  refine Or.inl ⟨rfl, Or.inl ?_⟩
  intro x hx
  cases hx

/-- A setting that is read as a number gives one, or null if it is not finite. -/
theorem countsBy_of_number? (hv : s.number? name = some v) : s.CountsBy [name] v := by
  unfold number? at hv
  split at hv
  · next i hi =>
    cases hv
    exact Or.inl ⟨rfl, Or.inr ⟨name, List.mem_singleton_self name, hi⟩⟩
  · next x hx =>
    cases hv
    exact Or.inl ⟨rfl, Or.inr ⟨name, List.mem_singleton_self name, hx⟩⟩
  · next text htext =>
    rcases Json.numberOfText?_cases hv with hnumber | ⟨hnull, hlarge⟩
    · exact Or.inl ⟨hnumber, Or.inl (Json.finite_of_numberOfText? hv)⟩
    · exact Or.inr ⟨hnull, name, List.mem_singleton_self name, text, htext, hlarge⟩
  · cases hv

/-- Only the text of a number that is not finite is read as null. -/
theorem number?_eq_null_iff : s.number? name = some .null ↔ s.NotFinite name := by
  constructor
  · intro hnull
    rcases countsBy_of_number? hnull with ⟨hnumber, -⟩ | ⟨-, other, hother, htext⟩
    · cases hnumber
    · rwa [List.mem_singleton.mp hother] at htext
  · rintro ⟨text, htext, hlarge⟩
    unfold number?
    rw [htext]
    exact hlarge.numberOfText?_eq

theorem countsBy_getD {names : List String} {found : Option Json}
    (hfound : ∀ w, found = some w → s.CountsBy names w) (n : Nat) :
    s.CountsBy names (found.getD (.ofNat n)) := by
  cases found with
  | some w => exact hfound w rfl
  | none => exact countsBy_ofNat s names n

end Settings

namespace Schedule

variable {s : Settings} {unit : TimeUnit} {v : Json}

/-- The length of an interval is a number that one of its settings gives. -/
theorem countsBy_of_every (hs : ofSettings s = .every unit v) :
    s.CountsBy [unit.name, unit.name ++ "Interval", "value"] v := by
  unfold ofSettings at hs
  split at hs
  · unfold ofCron at hs
    split at hs
    · cases hs
      exact Settings.countsBy_ofNat s _ _
    · cases hs
  · unfold ofInterval at hs
    split at hs
    · cases hs
      exact Settings.countsBy_ofNat s _ _
    · cases hs
      refine Settings.countsBy_getD (fun w hw => ?_) 1
      -- The first of the three settings that is read gives the amount.
      simp only [Option.orElse_eq_orElse, Option.orElse_eq_or, Option.or_eq_some_iff] at hw
      rcases hw with hw | ⟨-, hw | ⟨-, hw⟩⟩
      · exact (Settings.countsBy_of_number? hw).mono (by simp)
      · exact (Settings.countsBy_of_number? hw).mono (by simp)
      · exact (Settings.countsBy_of_number? hw).mono (by simp)

def times : List String :=
  ["triggerAtHour", "triggerAtMinute", "triggerAtDay"]

theorem eq_every_of_get?_toFields {schedule : Schedule}
    (hv : schedule.toFields.get? (unit.name ++ "Interval") = some v) :
    schedule = .every unit v := by
  cases schedule with
  | every other amount =>
    cases other <;> cases unit <;> simp [toFields, Fields.get?, TimeUnit.name] at hv <;> rw [hv]
  | cron expression => cases unit <;> cases hv

theorem get?_toFields_time (schedule : Schedule) {name : String} (hname : name ∈ times) :
    schedule.toFields.get? name = none := by
  simp only [times, List.mem_cons, List.not_mem_nil, or_false] at hname
  cases schedule with
  | every other amount => rcases hname with rfl | rfl | rfl <;> cases other <;> rfl
  | cron expression => rcases hname with rfl | rfl | rfl <;> rfl

end Schedule

namespace Request

theorem get?_authentication_options (auth : Option Json) :
    (authentication auth).get? "options" = none := by
  unfold authentication
  dsimp only
  split <;> rfl

theorem get?_pairList_options (switch name : String) (v : Option Json)
    (hnames : "options" ∉ [switch, name]) : (pairList switch name v).get? "options" = none := by
  unfold pairList
  split
  · rfl
  · exact Fields.get?_eq_none_iff.mpr hnames

theorem get?_body_options (v : Json) : (body v).get? "options" = none := by
  cases v <;> rfl

/-- A request has a timeout among its options if one is read. -/
theorem exists_options (s : Settings) :
    ∃ options, (parameters s).get? "options" = some (.obj options) ∧
      Fields.get? options "timeout" = s.number? "timeout" := by
  have hquery := get?_pairList_options "sendQuery" "queryParameters" (s.get? "query") (by decide)
  have hheaders := get?_pairList_options "sendHeaders" "headerParameters" (s.get? "headers")
    (by decide)
  unfold parameters
  refine ⟨_, Fields.get?_append_last ?_ _, ?_⟩
  · simp only [Fields.get?_append, get?_authentication_options, hquery, hheaders]
    split
    · split
      · rw [get?_body_options]
        rfl
      · rfl
    · rfl
  · split
    · next n hn => rw [hn]; rfl
    · next hn => rw [hn]; rfl

end Request

namespace Target

/-- A wait has an amount, whatever the settings are. -/
theorem exists_amount (s : Settings) :
    ∃ v, (waitParameters s).get? "amount" = some v ∧ s.CountsBy ["amount"] v ∧
      (s.NotFinite "amount" → v = .null) := by
  refine ⟨(s.number? "amount").getD (.ofNat 1), rfl, ?_, ?_⟩
  · exact Settings.countsBy_getD (fun w hw => Settings.countsBy_of_number? hw) 1
  · intro htext
    rw [Settings.number?_eq_null_iff.mpr htext, Option.getD_some]

/-- The one item of a schedule has the length of its interval and the times that are set
beside it. -/
theorem exists_scheduleItem (s : Settings) :
    ∃ item, scheduleParameters s = [("rule", .obj [("interval", .arr [.obj item])])] ∧
      (∀ unit v, Fields.get? item (TimeUnit.name unit ++ "Interval") = some v →
        s.CountsBy [unit.name, unit.name ++ "Interval", "value"] v) ∧
      ∀ name ∈ Schedule.times, Fields.get? item name = s.number? name := by
  refine ⟨(Schedule.ofSettings s).toFields ++ Schedule.times.filterMap fun name =>
    (s.number? name).map fun n => (name, n), rfl, ?_, ?_⟩
  · intro unit v hv
    have hunit : unit.name ++ "Interval" ∉ Schedule.times := by
      cases unit <;> decide
    rw [Fields.get?_append, Fields.get?_filterMap, if_neg hunit, Option.or_none] at hv
    exact Schedule.countsBy_of_every (Schedule.eq_every_of_get?_toFields hv)
  · intro name hname
    rw [Fields.get?_append, Schedule.get?_toFields_time _ hname, Option.none_or,
      Fields.get?_filterMap, if_pos hname]

/-- What is read as a number is a number of the data format, unless it is the text of one
that is not finite: then it is null, and an operand is null and still called a number. All
other operands are of the kind that their type says. So it is for every setting that is
read as a number, and hence for the amount of a wait, the interval and the times of a
schedule and the timeout of a request. -/
theorem numbers_of_settings (s : Settings) :
    (∀ text, (¬ Operand.TooLarge text → (Operand.ofText text).Typed) ∧
      (Operand.TooLarge text → Operand.ofText text = ⟨.null, .number⟩)) ∧
    (∀ name v, s.number? name = some v → s.CountsBy [name] v) ∧
    (∀ name, s.number? name = some .null ↔ s.NotFinite name) ∧
    (∃ v, (waitParameters s).get? "amount" = some v ∧ s.CountsBy ["amount"] v ∧
      (s.NotFinite "amount" → v = .null)) ∧
    (∃ item, scheduleParameters s = [("rule", .obj [("interval", .arr [.obj item])])] ∧
      (∀ unit v, Fields.get? item (TimeUnit.name unit ++ "Interval") = some v →
        s.CountsBy [unit.name, unit.name ++ "Interval", "value"] v) ∧
      ∀ name ∈ Schedule.times, ∀ v, Fields.get? item name = some v →
        s.CountsBy [name] v ∧ (s.NotFinite name → v = .null)) ∧
    ∃ options, (Request.parameters s).get? "options" = some (.obj options) ∧
      ∀ v, Fields.get? options "timeout" = some v →
        s.CountsBy ["timeout"] v ∧ (s.NotFinite "timeout" → v = .null) := by
  have hread (name : String) (v : Json) (hv : s.number? name = some v) :
      s.CountsBy [name] v ∧ (s.NotFinite name → v = .null) := by
    refine ⟨Settings.countsBy_of_number? hv, fun htext => ?_⟩
    exact Option.some.inj (hv.symm.trans (Settings.number?_eq_null_iff.mpr htext))
  refine ⟨?_, ?_, ?_, exists_amount s, ?_, ?_⟩
  · intro text
    exact ⟨Operand.typed_ofText, Operand.ofText_of_tooLarge⟩
  · intro name v hv
    exact (hread name v hv).1
  · intro name
    exact Settings.number?_eq_null_iff
  · obtain ⟨item, hitem, hinterval, htimes⟩ := exists_scheduleItem s
    refine ⟨item, hitem, hinterval, ?_⟩
    intro name hname v hv
    exact hread name v ((htimes name hname).symm.trans hv)
  · obtain ⟨options, hoptions, htimeout⟩ := Request.exists_options s
    refine ⟨options, hoptions, ?_⟩
    intro v hv
    exact hread "timeout" v (htimeout.symm.trans hv)

/-- A wait of no number of seconds, and an operand with more digits than a number can
have. -/
theorem waitParameters_nan :
    (waitParameters [("amount", .str "nan")]).get? "amount" = some .null ∧
      Operand.ofText (String.ofList (List.replicate 309 '9')) = ⟨.null, .number⟩ ∧
      Json.isNumber .null = false := by
  have hfloat : (Decimal.float? (Text.trim (List.replicate 309 '9'))).map Float.isFinite =
      some false := by
    decide +kernel
  have hlarge : Operand.TooLarge (String.ofList (List.replicate 309 '9')) := by
    unfold Operand.TooLarge Json.NotFinite
    rw [String.toList_ofList]
    exact ⟨by decide +kernel, by decide +kernel, Option.map_eq_some_iff.mp hfloat⟩
  exact ⟨rfl, Operand.ofText_of_tooLarge hlarge, rfl⟩

end Target

end FlowGraph
