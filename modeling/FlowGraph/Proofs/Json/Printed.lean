import FlowGraph.Json.Printer
import FlowGraph.Json.Reader
import FlowGraph.Proofs.Decimal
import FlowGraph.Proofs.Fields
import FlowGraph.Proofs.Text

/-!
Data values are read back from the text that they are printed as. A printed value starts
with a character of its own, and reading stops behind it if nothing follows or one of the
three characters that follow values inside others. From this every value with integers for
its numbers comes back, as deep as the reader goes.
-/

namespace FlowGraph.Json

open Text (takeWhile_append_stop)

/-- A data value that has integers of 64 bits for all its numbers and nests at most so many
levels deep. As in every object that is read or built, no name stands twice. -/
inductive Within : Nat → Json → Prop
  | null (levels : Nat) : Within levels .null
  | bool (levels : Nat) (b : Bool) : Within levels (.bool b)
  | int (levels : Nat) {i : Int} (hi : Decimal.inInt64 i = true) : Within levels (.int i)
  | str (levels : Nat) (s : String) : Within levels (.str s)
  | arr {levels : Nat} {items : List Json} (hitems : ∀ v ∈ items, Within levels v) :
      Within (levels + 1) (.arr items)
  | obj {levels : Nat} {fields : Fields Json} (hnames : fields.names.Nodup)
      (hfields : ∀ name v, (name, v) ∈ fields → Within levels v) :
      Within (levels + 1) (.obj fields)

def Takes {α : Type} {P : List Char → Prop} (found : Option (α × { rest // P rest })) (a : α)
    (rest : List Char) : Prop :=
  ∃ h, found = some (a, ⟨rest, h⟩)

def Follows (rest : List Char) : Prop :=
  ∀ c ∈ rest.head?, c = ',' ∨ c = ']' ∨ c = '}'

theorem follows_nil : Follows [] := by
  simp [Follows]

theorem Follows.head {rest : List Char} (h : Follows rest) {p : Char → Prop}
    (hp : p ',' ∧ p ']' ∧ p '}') : ∀ c ∈ rest.head?, p c := by
  intro c hc
  rcases h c hc with rfl | rfl | rfl
  · exact hp.1
  · exact hp.2.1
  · exact hp.2.2

theorem next?_takes {c : Char} (hc : isSpace c = false) (cs : List Char) :
    Takes (next? (c :: cs)) c cs := by
  have hskip : skipSpace (c :: cs) = c :: cs := by
    rw [skipSpace, List.dropWhile_cons_of_neg (by simp [hc])]
  unfold next?
  split
  · next hnone =>
    rw [hskip] at hnone
    cases hnone
  · next d rest hsome =>
    rw [hskip] at hsome
    cases hsome
    exact ⟨_, rfl⟩

section Texts

theorem hexValue?_hexDigit {n : Nat} (hn : n < 16) : hexValue? (hexDigit n) = some n := by
  revert n
  decide

/-- The code of a control character is read back from four digits. -/
theorem codeUnit?_takes {c : Char} (hc : c.toNat < 0x20) (rest : List Char) :
    Takes (codeUnit? ('0' :: '0' :: hexDigit (c.toNat / 16) :: hexDigit (c.toNat % 16) :: rest))
      c.toNat rest := by
  have hhigh : hexValue? (hexDigit (c.toNat / 16)) = some (c.toNat / 16) :=
    hexValue?_hexDigit (by omega)
  have hlow : hexValue? (hexDigit (c.toNat % 16)) = some (c.toNat % 16) :=
    hexValue?_hexDigit (by omega)
  have hzero : hexValue? '0' = some 0 := by decide
  have hvalue : ((0 * 16 + 0) * 16 + c.toNat / 16) * 16 + c.toNat % 16 = c.toNat := by omega
  refine ⟨by simp only [List.length_cons]; omega, ?_⟩
  simp only [codeUnit?, hzero, hhigh, hlow, Option.bind_eq_bind, Option.bind_some, hvalue]
  rfl

theorem escape?_takes_control {c : Char} (hc : c.toNat < 0x20) (rest : List Char) :
    Takes (escape? ('u' :: '0' :: '0' :: hexDigit (c.toNat / 16) :: hexDigit (c.toNat % 16) ::
      rest)) c rest := by
  obtain ⟨h, hunit⟩ := codeUnit?_takes hc rest
  have hlow : (decide (0xDC00 ≤ c.toNat) && decide (c.toNat ≤ 0xDFFF)) = false := by
    simp only [Bool.and_eq_false_iff, decide_eq_false_iff_not]
    omega
  have hhigh : (decide (0xD800 ≤ c.toNat) && decide (c.toNat ≤ 0xDBFF)) = false := by
    simp only [Bool.and_eq_false_iff, decide_eq_false_iff_not]
    omega
  have hunicode : unicodeEscape?
      ('0' :: '0' :: hexDigit (c.toNat / 16) :: hexDigit (c.toNat % 16) :: rest) =
        some (c, ⟨rest, h⟩) := by
    simp only [unicodeEscape?, hunit, hlow, hhigh, Bool.false_eq_true, if_false, Char.ofNat_toNat]
  refine ⟨by simp only [List.length_cons]; omega, ?_⟩
  simp only [escape?, hunicode]
  rfl

def shortEscapes : List (Char × Char) :=
  [('"', '"'), ('\\', '\\'), ('\n', 'n'), ('\r', 'r'), ('\t', 't'), ('\x08', 'b'), ('\x0c', 'f')]

theorem escape?_takes_short : ∀ p ∈ shortEscapes, escapeChar p.1 = ['\\', p.2] ∧
    ∀ rest, Takes (escape? (p.2 :: rest)) p.1 rest := by
  simp only [shortEscapes, List.forall_mem_cons, List.not_mem_nil, false_imp_iff, implies_true,
    and_true]
  refine ⟨?_, ?_, ?_, ?_, ?_, ?_, ?_⟩ <;> exact ⟨rfl, fun rest => ⟨_, rfl⟩⟩

/-- A character stands for itself in a printed text, or for what follows a backslash. -/
theorem escapeChar_cases (c : Char) :
    (escapeChar c = [c] ∧ c ≠ '"' ∧ c ≠ '\\' ∧ ¬ c.toNat < 0x20) ∨
      ∃ ds, escapeChar c = '\\' :: ds ∧ ∀ rest, Takes (escape? (ds ++ rest)) c rest := by
  by_cases hshort : ∃ p ∈ shortEscapes, p.1 = c
  · obtain ⟨p, hp, rfl⟩ := hshort
    obtain ⟨hescape, htakes⟩ := escape?_takes_short p hp
    exact Or.inr ⟨[p.2], hescape, htakes⟩
  · have hne : c ≠ '"' ∧ c ≠ '\\' ∧ c ≠ '\n' ∧ c ≠ '\r' ∧ c ≠ '\t' ∧ c ≠ '\x08' ∧
        c ≠ '\x0c' := by
      simpa [shortEscapes, eq_comm] using hshort
    by_cases hcontrol : c.toNat < 0x20
    · refine Or.inr ⟨['u', '0', '0', hexDigit (c.toNat / 16), hexDigit (c.toNat % 16)], ?_,
        escape?_takes_control hcontrol⟩
      simp [escapeChar, hne, hcontrol]
    · refine Or.inl ⟨?_, hne.1, hne.2.1, hcontrol⟩
      simp [escapeChar, hne, hcontrol]

/-- A text is read back from its escaped characters, up to the quote. -/
theorem textBody?_takes (cs rest : List Char) :
    Takes (textBody? (cs.flatMap escapeChar ++ '"' :: rest)) cs rest := by
  induction cs with
  | nil =>
    rw [List.flatMap_nil, List.nil_append, textBody?]
    exact ⟨_, rfl⟩
  | cons c cs ih =>
    obtain ⟨hshorter, hbody⟩ := ih
    rw [List.flatMap_cons, List.append_assoc]
    rcases escapeChar_cases c with ⟨hself, hquote, hslash, hcontrol⟩ | ⟨ds, hescaped, htakes⟩
    · rw [hself, List.singleton_append, textBody?, if_neg hquote, if_neg hslash, if_neg hcontrol,
        hbody]
      exact ⟨_, rfl⟩
    · obtain ⟨h, hescape⟩ := htakes (cs.flatMap escapeChar ++ '"' :: rest)
      rw [hescaped, List.cons_append, textBody?, if_neg (by decide), if_pos rfl, hescape]
      dsimp only
      rw [hbody]
      exact ⟨_, rfl⟩

end Texts

section Numbers

variable {rest : List Char}

theorem digits?_takes (n : Nat) (hrest : Follows rest) :
    Takes (digits? (Decimal.digits n ++ rest)) (Decimal.digits n) rest := by
  have hstop : ∀ c ∈ rest.head?, Decimal.isDigit c = false := hrest.head (by decide)
  have hall (d : Char) (hd : d ∈ Decimal.digits n) : Decimal.isDigit d = true :=
    Decimal.isDigit_of_mem_digits hd
  obtain ⟨c, cs, hdigits⟩ := List.exists_cons_of_ne_nil (Decimal.digits_ne_nil n)
  rw [hdigits] at hall ⊢
  obtain ⟨hc, hcs⟩ := List.forall_mem_cons.mp hall
  obtain ⟨htake, hdrop⟩ := takeWhile_append_stop hcs hstop
  have hshorter : rest.length < (c :: cs ++ rest).length := by
    simp only [List.cons_append, List.length_cons, List.length_append]
    omega
  refine ⟨hshorter, ?_⟩
  simp only [digits?, List.cons_append, hc, if_true, htake, hdrop]

theorem fractionPart?_takes (hrest : Follows rest) :
    Takes (fractionPart? rest) none rest := by
  have hpoint : ∀ c ∈ rest.head?, c ≠ '.' := hrest.head (by decide)
  cases rest with
  | nil => exact ⟨_, rfl⟩
  | cons c rest =>
    rw [fractionPart?, if_neg (hpoint c rfl)]
    exact ⟨_, rfl⟩

theorem exponentPart?_takes (hrest : Follows rest) :
    Takes (exponentPart? rest) none rest := by
  have hmark : ∀ c ∈ rest.head?, ¬ (decide (c = 'e') || decide (c = 'E')) = true :=
    hrest.head (by decide)
  cases rest with
  | nil => exact ⟨_, rfl⟩
  | cons c rest =>
    rw [exponentPart?, if_neg (hmark c rfl)]
    exact ⟨_, rfl⟩

theorem magnitude?_takes (negative : Bool) (n : Nat) (hrest : Follows rest) :
    Takes (magnitude? negative (Decimal.digits n ++ rest))
      ⟨negative, Decimal.digits n, none, none⟩ rest := by
  obtain ⟨h, hdigits⟩ := digits?_takes n hrest
  obtain ⟨_, hfraction⟩ := fractionPart?_takes hrest
  obtain ⟨_, hexponent⟩ := exponentPart?_takes hrest
  have hzero : ¬ (decide ((Decimal.digits n).head? = some '0') &&
      decide ((Decimal.digits n).length ≠ 1)) = true := by
    intro hleading
    have hboth : (Decimal.digits n).head? = some '0' ∧ (Decimal.digits n).length ≠ 1 := by
      simpa using hleading
    have hn := Decimal.eq_zero_of_head?_digits hboth.1
    subst hn
    rw [Decimal.digits] at hboth
    exact hboth.2 rfl
  refine ⟨h, ?_⟩
  simp only [magnitude?, hdigits, hzero, hfraction, hexponent, Bool.false_eq_true, if_false]

theorem value?_negative {n : Nat} (hpos : 0 < n) (hn : n ≤ 0x8000000000000000) :
    NumberText.value? ⟨true, Decimal.digits n, none, none⟩ = some (.int (-n)) := by
  simp [NumberText.value?, Decimal.value_digits, hpos, hn]

theorem value?_natural {n : Nat} (hn : n < 0x10000000000000000) :
    NumberText.value? ⟨false, Decimal.digits n, none, none⟩ = some (.int n) := by
  simp [NumberText.value?, Decimal.value_digits, hn]

/-- An integer of 64 bits is read back from its digits. -/
theorem number?_takes {i : Int} (hi : Decimal.inInt64 i = true) (hrest : Follows rest) :
    Takes (number? (Decimal.ofInt i ++ rest)) (.int i) rest := by
  have hbounds : -0x8000000000000000 ≤ i ∧ i < 0x8000000000000000 := by
    simpa [Decimal.inInt64] using hi
  by_cases hneg : i < 0
  · have habs : -(i.natAbs : Int) = i := by omega
    have hvalue : NumberText.value? ⟨true, Decimal.digits i.natAbs, none, none⟩ =
        some (.int i) := by
      rw [value?_negative (by omega) (by omega), habs]
    obtain ⟨h, hmagnitude⟩ := magnitude?_takes true i.natAbs hrest
    rw [Decimal.ofInt, if_pos hneg, List.cons_append, number?, if_pos rfl, hmagnitude]
    dsimp only
    rw [hvalue]
    exact ⟨_, rfl⟩
  · have habs : (i.natAbs : Int) = i := by omega
    have hvalue : NumberText.value? ⟨false, Decimal.digits i.natAbs, none, none⟩ =
        some (.int i) := by
      rw [value?_natural (by omega), habs]
    have hmagnitude := magnitude?_takes false i.natAbs hrest
    obtain ⟨c, cs, hdigits⟩ := List.exists_cons_of_ne_nil (Decimal.digits_ne_nil i.natAbs)
    have hminus : c ≠ '-' := by
      rintro rfl
      have hdigit := Decimal.isDigit_of_mem_digits (hdigits ▸ List.mem_cons_self)
      exact absurd hdigit (by decide)
    rw [hdigits] at hvalue
    rw [hdigits, List.cons_append] at hmagnitude
    obtain ⟨h, hread⟩ := hmagnitude
    rw [Decimal.ofInt, if_neg hneg, hdigits, List.cons_append, number?, if_neg hminus, hread]
    dsimp only
    rw [hvalue]
    exact ⟨_, rfl⟩

end Numbers

section Values

variable {levels : Nat} {rest : List Char}

/-- A word for a value is read back letter by letter. -/
theorem word?_takes (letters : List Char) (v : Json) (rest : List Char) :
    Takes (word? letters v (letters ++ rest)) v rest := by
  have hdrop : Text.dropPrefix? letters (letters ++ rest) = some rest :=
    Text.dropPrefix?_eq_some_iff.mpr rfl
  unfold word?
  split
  · next hnone =>
    rw [hdrop] at hnone
    cases hnone
  · next after hsome =>
    rw [hdrop] at hsome
    cases hsome
    exact ⟨_, rfl⟩

theorem value?_takes_str (s : String) (rest : List Char) :
    Takes (value? levels '"' (s.toList.flatMap escapeChar ++ '"' :: rest)) (.str s) rest := by
  obtain ⟨h, hbody⟩ := textBody?_takes s.toList rest
  rw [value?.eq_def, if_pos rfl, hbody]
  dsimp only
  rw [String.ofList_toList]
  exact ⟨_, rfl⟩

def ReadsBack (levels : Nat) (v : Json) : Prop :=
  ∃ c cs, compactChars v = c :: cs ∧ isSpace c = false ∧ c ≠ ']' ∧
    ∀ rest, Follows rest → Takes (value? levels c (cs ++ rest)) v rest

theorem readsBack_str (s : String) : ReadsBack levels (.str s) := by
  refine ⟨'"', s.toList.flatMap escapeChar ++ ['"'], ?_, by decide, by decide, ?_⟩
  · rw [compactChars, quote]
    rfl
  · intro rest _
    rw [List.append_assoc]
    exact value?_takes_str s rest

theorem readsBack_null : ReadsBack levels .null := by
  refine ⟨'n', ['u', 'l', 'l'], by rw [compactChars], by decide, by decide, fun rest _ => ?_⟩
  rw [value?.eq_def]
  exact word?_takes ['u', 'l', 'l'] .null rest

theorem readsBack_bool (b : Bool) : ReadsBack levels (.bool b) := by
  cases b with
  | false =>
    refine ⟨'f', ['a', 'l', 's', 'e'], by rw [compactChars], by decide, by decide,
      fun rest _ => ?_⟩
    rw [value?.eq_def]
    exact word?_takes ['a', 'l', 's', 'e'] (.bool false) rest
  | true =>
    refine ⟨'t', ['r', 'u', 'e'], by rw [compactChars], by decide, by decide, fun rest _ => ?_⟩
    rw [value?.eq_def]
    exact word?_takes ['r', 'u', 'e'] (.bool true) rest

/-- Digits and the minus sign are none of the other characters that values start with. -/
theorem ne_of_numeric {c d : Char} (hc : Decimal.isDigit c = true ∨ c = '-')
    (hd : Decimal.isDigit d = false ∧ d ≠ '-') : c ≠ d := by
  rintro rfl
  rcases hc with hc | hc
  · rw [hd.1] at hc
    cases hc
  · exact hd.2 hc

theorem value?_number {c : Char} (hc : Decimal.isDigit c = true ∨ c = '-') {cs : List Char}
    {v : Json} (hread : Takes (number? (c :: cs)) v rest) : Takes (value? levels c cs) v rest := by
  obtain ⟨h, hnumber⟩ := hread
  rw [value?.eq_def, if_neg (ne_of_numeric hc (by decide)), if_neg (ne_of_numeric hc (by decide)),
    if_neg (ne_of_numeric hc (by decide)), if_neg (ne_of_numeric hc (by decide)),
    if_neg (ne_of_numeric hc (by decide)), if_neg (ne_of_numeric hc (by decide)), hnumber]
  exact ⟨_, rfl⟩

/-- Integers of 64 bits come back. -/
theorem readsBack_int {i : Int} (hi : Decimal.inInt64 i = true) : ReadsBack levels (.int i) := by
  obtain ⟨c, cs, hchars⟩ := List.exists_cons_of_ne_nil (Decimal.ofInt_ne_nil i)
  have hc : Decimal.isDigit c = true ∨ c = '-' :=
    Decimal.isDigit_of_mem_ofInt (hchars ▸ List.mem_cons_self)
  have hspace : isSpace c = false := by
    have hne (d : Char) (hd : Decimal.isDigit d = false ∧ d ≠ '-') : c ≠ d := ne_of_numeric hc hd
    simp [isSpace, hne ' ' (by decide), hne '\n' (by decide), hne '\t' (by decide),
      hne '\r' (by decide)]
  refine ⟨c, cs, by rw [compactChars, hchars], hspace, ne_of_numeric hc (by decide), ?_⟩
  intro rest hrest
  have hread := number?_takes hi hrest
  rw [hchars, List.cons_append] at hread
  exact value?_number hc hread

theorem follows_compactItems (items : List Json) (rest : List Char) :
    Follows (compactItems items ++ rest) := by
  intro c hc
  cases items with
  | nil =>
    rw [compactItems] at hc
    cases hc
    exact Or.inr (Or.inl rfl)
  | cons v items =>
    rw [compactItems] at hc
    cases hc
    exact Or.inl rfl

theorem follows_compactFields (fields : Fields Json) (rest : List Char) :
    Follows (compactFields fields ++ rest) := by
  intro c hc
  cases fields with
  | nil =>
    rw [compactFields] at hc
    cases hc
    exact Or.inr (Or.inr rfl)
  | cons field fields =>
    obtain ⟨name, v⟩ := field
    rw [compactFields] at hc
    cases hc
    exact Or.inl rfl

theorem items?_last {c : Char} {cs : List Char} {v : Json}
    (hv : Takes (value? levels c cs) v (']' :: rest)) : Takes (items? levels c cs) [v] rest := by
  obtain ⟨_, hvalue⟩ := hv
  obtain ⟨_, hnext⟩ := next?_takes (c := ']') (by decide) rest
  rw [items?.eq_def, hvalue]
  dsimp only
  rw [hnext]
  exact ⟨_, rfl⟩

theorem items?_more {c d : Char} {cs more : List Char} {v : Json} {items : List Json}
    (hv : Takes (value? levels c cs) v (',' :: d :: more)) (hd : isSpace d = false)
    (hitems : Takes (items? levels d more) items rest) :
    Takes (items? levels c cs) (v :: items) rest := by
  obtain ⟨_, hvalue⟩ := hv
  obtain ⟨_, hread⟩ := hitems
  obtain ⟨_, hcomma⟩ := next?_takes (c := ',') (by decide) (d :: more)
  obtain ⟨_, hnext⟩ := next?_takes hd more
  rw [items?.eq_def, hvalue]
  dsimp only
  rw [hcomma]
  dsimp only
  rw [if_neg (by decide), if_pos rfl, hnext]
  dsimp only
  rw [hread]
  exact ⟨_, rfl⟩

/-- An array is read one level deeper. -/
theorem value?_takes_items {c : Char} {cs : List Char} {items : List Json}
    (hc : isSpace c = false) (hclose : c ≠ ']') (hitems : Takes (items? levels c cs) items rest) :
    Takes (value? (levels + 1) '[' (c :: cs)) (.arr items) rest := by
  obtain ⟨_, hread⟩ := hitems
  obtain ⟨_, hnext⟩ := next?_takes hc cs
  rw [value?.eq_def, if_neg (by decide), if_pos rfl, hnext]
  dsimp only
  rw [if_neg hclose, hread]
  exact ⟨_, rfl⟩

theorem value?_takes_no_items (rest : List Char) :
    Takes (value? (levels + 1) '[' (']' :: rest)) (.arr []) rest := by
  obtain ⟨_, hnext⟩ := next?_takes (c := ']') (by decide) rest
  rw [value?.eq_def, if_neg (by decide), if_pos rfl, hnext]
  exact ⟨_, rfl⟩

theorem value?_takes_no_fields (rest : List Char) :
    Takes (value? (levels + 1) '{' ('}' :: rest)) (.obj []) rest := by
  obtain ⟨_, hnext⟩ := next?_takes (c := '}') (by decide) rest
  rw [value?.eq_def, if_neg (by decide), if_neg (by decide), if_pos rfl, hnext]
  exact ⟨_, rfl⟩

theorem value?_takes_fields {cs : List Char} {fields : Fields Json}
    (hfields : Takes (fields? levels [] '"' cs) fields rest) :
    Takes (value? (levels + 1) '{' ('"' :: cs)) (.obj fields) rest := by
  obtain ⟨_, hread⟩ := hfields
  obtain ⟨_, hnext⟩ := next?_takes (c := '"') (by decide) cs
  rw [value?.eq_def, if_neg (by decide), if_neg (by decide), if_pos rfl, hnext]
  dsimp only
  rw [if_neg (by decide), hread]
  exact ⟨_, rfl⟩

section Fields

variable {before fields : Fields Json} {name : String} {v : Json} {after : List Char}

def fieldChars (name : String) (v : Json) (after : List Char) : List Char :=
  name.toList.flatMap escapeChar ++ '"' :: ':' :: (compactChars v ++ after)

theorem compactFields_cons (name : String) (v : Json) (fields : Fields Json) (rest : List Char) :
    compactFields ((name, v) :: fields) ++ rest =
      ',' :: '"' :: fieldChars name v (compactFields fields ++ rest) := by
  simp [compactFields, quote, fieldChars]

/-- One field, and then the end of the object or the fields after a comma. -/
theorem fields?_field (hv : ReadsBack levels v) (hfollows : Follows after)
    (hafter : after = '}' :: rest ∧ fields = before.set name v ∨
      ∃ more, after = ',' :: '"' :: more ∧
        Takes (fields? levels (before.set name v) '"' more) fields rest) :
    Takes (fields? levels before '"' (fieldChars name v after)) fields rest := by
  obtain ⟨c, cs, hchars, hc, -, hread⟩ := hv
  obtain ⟨_, hname⟩ := textBody?_takes name.toList (':' :: c :: (cs ++ after))
  obtain ⟨_, hcolon⟩ := next?_takes (c := ':') (by decide) (c :: (cs ++ after))
  obtain ⟨_, hfirst⟩ := next?_takes hc (cs ++ after)
  obtain ⟨_, hvalue⟩ := hread after hfollows
  rw [fieldChars, hchars, List.cons_append, fields?.eq_def, if_neg (by decide), hname]
  dsimp only
  rw [hcolon]
  dsimp only
  rw [if_neg (by decide), hfirst]
  dsimp only
  rw [hvalue]
  dsimp only
  rcases hafter with ⟨rfl, rfl⟩ | ⟨more, rfl, hfields⟩
  · obtain ⟨_, hclose⟩ := next?_takes (c := '}') (by decide) rest
    rw [hclose, String.ofList_toList]
    exact ⟨_, rfl⟩
  · obtain ⟨_, hcomma⟩ := next?_takes (c := ',') (by decide) ('"' :: more)
    obtain ⟨_, hnext⟩ := next?_takes (c := '"') (by decide) more
    obtain ⟨_, hmore⟩ := hfields
    rw [hcomma]
    dsimp only
    rw [if_neg (by decide), if_pos rfl, hnext]
    dsimp only
    rw [String.ofList_toList, hmore]
    exact ⟨_, rfl⟩

theorem set_last (hnames : (Fields.names (before ++ (name, v) :: fields)).Nodup) :
    before.set name v = before ++ [(name, v)] := by
  have hnew : name ∉ Fields.names before := by
    intro hmem
    rw [Fields.names, List.map_append, List.nodup_append] at hnames
    exact hnames.2.2 name hmem name List.mem_cons_self rfl
  exact Fields.set_of_not_mem hnew v

/-- Each field is set behind those before it, since its name is new. -/
theorem fields?_takes (before : Fields Json) (name : String) (hv : ReadsBack levels v)
    (hfields : ∀ key w, (key, w) ∈ fields → ReadsBack levels w)
    (hnames : (Fields.names (before ++ (name, v) :: fields)).Nodup) (rest : List Char) :
    Takes (fields? levels before '"' (fieldChars name v (compactFields fields ++ rest)))
      (before ++ (name, v) :: fields) rest := by
  have hset := set_last hnames
  induction fields generalizing before name v with
  | nil =>
    refine fields?_field hv (follows_compactFields [] rest) (Or.inl ⟨?_, hset.symm⟩)
    rw [compactFields, List.singleton_append]
  | cons field fields ih =>
    obtain ⟨key, w⟩ := field
    have happend : before ++ (name, v) :: (key, w) :: fields =
        (before ++ [(name, v)]) ++ (key, w) :: fields := by
      simp
    rw [happend] at hnames ⊢
    have hmore := ih (before ++ [(name, v)]) key (hfields key w List.mem_cons_self)
      (fun other u hmem => hfields other u (List.mem_cons_of_mem _ hmem)) hnames
      (set_last hnames)
    rw [← hset] at hmore ⊢
    exact fields?_field hv (follows_compactFields ((key, w) :: fields) rest)
      (Or.inr ⟨_, compactFields_cons key w fields rest, hmore⟩)

end Fields

/-- The items after the first carry the induction; each is read as the first one of what is
left. -/
theorem items?_takes {v : Json} {items : List Json} (hv : ReadsBack levels v)
    (hitems : ∀ w ∈ items, ReadsBack levels w) (rest : List Char) :
    ∃ c cs, compactChars v = c :: cs ∧ isSpace c = false ∧ c ≠ ']' ∧
      Takes (items? levels c (cs ++ (compactItems items ++ rest))) (v :: items) rest := by
  induction items generalizing v with
  | nil =>
    obtain ⟨c, cs, hchars, hspace, hclose, hread⟩ := hv
    refine ⟨c, cs, hchars, hspace, hclose, items?_last ?_⟩
    have hvalue := hread _ (follows_compactItems [] rest)
    rwa [compactItems] at hvalue ⊢
  | cons w items ih =>
    obtain ⟨c, cs, hchars, hspace, hclose, hread⟩ := hv
    obtain ⟨hw, hlater⟩ := List.forall_mem_cons.mp hitems
    obtain ⟨d, ds, hword, hblank, -, hmore⟩ := ih hw hlater
    refine ⟨c, cs, hchars, hspace, hclose, items?_more ?_ hblank hmore⟩
    have hvalue := hread _ (follows_compactItems (w :: items) rest)
    rw [compactItems, hword] at hvalue ⊢
    simpa using hvalue

/-- An array comes back if its items do one level deeper. -/
theorem readsBack_arr {items : List Json} (hitems : ∀ v ∈ items, ReadsBack levels v) :
    ReadsBack (levels + 1) (.arr items) := by
  cases items with
  | nil =>
    refine ⟨'[', [']'], by rw [compactChars], by decide, by decide, fun rest _ => ?_⟩
    exact value?_takes_no_items rest
  | cons v items =>
    obtain ⟨hv, hmore⟩ := List.forall_mem_cons.mp hitems
    refine ⟨'[', compactChars v ++ compactItems items, by rw [compactChars]; rfl, by decide,
      by decide, fun rest _ => ?_⟩
    obtain ⟨c, cs, hchars, hspace, hclose, hread⟩ := items?_takes hv hmore rest
    rw [hchars, List.append_assoc, List.cons_append]
    exact value?_takes_items hspace hclose hread

/-- An object comes back if its values do one level deeper and no name stands twice. -/
theorem readsBack_obj {fields : Fields Json} (hnames : fields.names.Nodup)
    (hfields : ∀ name v, (name, v) ∈ fields → ReadsBack levels v) :
    ReadsBack (levels + 1) (.obj fields) := by
  cases fields with
  | nil =>
    refine ⟨'{', ['}'], by rw [compactChars], by decide, by decide, fun rest _ => ?_⟩
    exact value?_takes_no_fields rest
  | cons field fields =>
    obtain ⟨name, v⟩ := field
    have hchars : compactChars (.obj ((name, v) :: fields)) =
        '{' :: '"' :: fieldChars name v (compactFields fields) := by
      simp [compactChars, quote, fieldChars]
    refine ⟨'{', _, hchars, by decide, by decide, fun rest _ => ?_⟩
    have hread := fields?_takes [] name (hfields name v List.mem_cons_self)
      (fun key w hmem => hfields key w (List.mem_cons_of_mem _ hmem)) hnames rest
    have htext : '"' :: fieldChars name v (compactFields fields) ++ rest =
        '"' :: fieldChars name v (compactFields fields ++ rest) := by
      simp [fieldChars]
    rw [htext]
    exact value?_takes_fields hread

/-- Every such value comes back, by induction over what it is built from. -/
theorem Within.readsBack {v : Json} (hv : Within levels v) : ReadsBack levels v := by
  induction hv with
  | null levels => exact readsBack_null
  | bool levels b => exact readsBack_bool b
  | int levels hi => exact readsBack_int hi
  | str levels s => exact readsBack_str s
  | arr hitems ih => exact readsBack_arr ih
  | obj hnames hfields ih => exact readsBack_obj hnames ih

/-- A printed value is read back, as far as the reader goes into it. -/
theorem Within.read?_compactChars {v : Json} (hv : Within levels v) :
    read? levels (compactChars v) = some v := by
  obtain ⟨c, cs, hchars, hspace, -, hread⟩ := hv.readsBack
  have hwhole := hread [] follows_nil
  rw [List.append_nil] at hwhole
  obtain ⟨_, hvalue⟩ := hwhole
  obtain ⟨_, hnext⟩ := next?_takes hspace cs
  rw [hchars, read?, hnext]
  dsimp only
  rw [hvalue]
  rfl

end Values

end FlowGraph.Json
