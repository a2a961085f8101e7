import FlowGraph.Json
import FlowGraph.Text.Blank
import FlowGraph.Text.Rest

/-!
Strict reading of data texts. Nothing but the four blanks of the format may
stand around a value. A repeated field keeps its first place and takes the last
value. The reader is told how many levels of arrays and objects it may enter.

Each step hands back what it leaves unread together with the fact that this is
shorter than what it was given.
-/

namespace FlowGraph.Json

open Text (Unread Left)

def isSpace (c : Char) : Bool :=
  c = ' ' || c = '\n' || c = '\t' || c = '\r'

def skipSpace (cs : List Char) : List Char :=
  cs.dropWhile isSpace

theorem length_skipSpace_le (cs : List Char) : (skipSpace cs).length ≤ cs.length :=
  (List.dropWhile_sublist isSpace).length_le

def hexValue? (c : Char) : Option Nat :=
  if '0' ≤ c && c ≤ '9' then some (c.toNat - '0'.toNat)
  else if 'a' ≤ c && c ≤ 'f' then some (c.toNat - 'a'.toNat + 10)
  else if 'A' ≤ c && c ≤ 'F' then some (c.toNat - 'A'.toNat + 10)
  else none

/-- Four hexadecimal digits. -/
def codeUnit? (cs : List Char) : Option (Nat × Unread cs) :=
  match cs with
  | a :: b :: c :: d :: rest => do
    let a ← hexValue? a
    let b ← hexValue? b
    let c ← hexValue? c
    let d ← hexValue? d
    return (((a * 16 + b) * 16 + c) * 16 + d, ⟨rest, by simp only [List.length_cons]; omega⟩)
  | _ => none

/-- A `\u` escape after its two marks: one code unit, or a high surrogate and
the escaped low surrogate that has to follow it. -/
def unicodeEscape? (cs : List Char) : Option (Char × Unread cs) :=
  match codeUnit? cs with
  | none => none
  | some (unit, ⟨rest, hrest⟩) =>
    if 0xDC00 ≤ unit && unit ≤ 0xDFFF then none
    else if 0xD800 ≤ unit && unit ≤ 0xDBFF then
      match rest with
      | '\\' :: 'u' :: more =>
        match codeUnit? more with
        | none => none
        | some (low, ⟨after, hafter⟩) =>
          if 0xDC00 ≤ low && low ≤ 0xDFFF then
            some (Char.ofNat (0x10000 + (unit - 0xD800) * 0x400 + (low - 0xDC00)),
              ⟨after, by simp only [List.length_cons] at hrest; omega⟩)
          else none
      | _ => none
    else some (Char.ofNat unit, ⟨rest, hrest⟩)

/-- What a backslash stands for, given what follows it. -/
def escape? (cs : List Char) : Option (Char × Unread cs) :=
  match cs with
  | [] => none
  | c :: rest =>
    let plain (d : Char) : Option (Char × Unread (c :: rest)) := some (d, Unread.tail c rest)
    if c = '"' || c = '\\' || c = '/' then plain c
    else if c = 'b' then plain '\x08'
    else if c = 'f' then plain '\x0c'
    else if c = 'n' then plain '\n'
    else if c = 'r' then plain '\r'
    else if c = 't' then plain '\t'
    else if c = 'u' then
      (unicodeEscape? rest).map fun (d, after) => (d, Unread.push c after)
    else none

/-- The characters of a text after its opening quote, up to the closing one. -/
def textBody? (cs : List Char) : Option (List Char × Unread cs) :=
  match cs with
  | [] => none
  | c :: rest =>
    if c = '"' then some ([], Unread.tail c rest)
    else if c = '\\' then
      match escape? rest with
      | none => none
      | some (d, ⟨after, h⟩) =>
        match textBody? after with
        | none => none
        | some (ds, ⟨final, _⟩) =>
          some (d :: ds, ⟨final, by simp only [List.length_cons]; omega⟩)
    else if c.toNat < 0x20 then none
    else
      match textBody? rest with
      | none => none
      | some (ds, final) => some (c :: ds, Unread.push c final)
termination_by cs.length
decreasing_by all_goals (simp only [List.length_cons]; omega)

/-- Digits folded into a number as long as it fits 64 bits: the number, and how
many digits were taken. -/
def takeSignificand (m : Nat) : List Char → Nat × Nat
  | [] => (m, 0)
  | d :: ds =>
    let next := 10 * m + Decimal.digitValue d
    if next < 0x10000000000000000 then
      let (n, taken) := takeSignificand next ds
      (n, taken + 1)
    else (m, 0)

/-- Division by `10 ^ 308`, `steps` times. -/
def scaleDown (x : Float) : Nat → Float
  | 0 => x
  | steps + 1 => scaleDown (x / Decimal.nearest 1 308) steps

/-- `m * 10 ^ e` in floating point, by one multiplication or division per
factor of at most `10 ^ 308`; nothing if that is too large. -/
def scaled? (m : Nat) (e : Int) : Option Float :=
  let x := m.toUInt64.toFloat
  if e < -1000 then some 0.0
  else if e < 0 then
    let k := e.natAbs
    let steps := (k - 1) / 308
    some (scaleDown x steps / Decimal.nearest 1 (k - 308 * steps : Nat))
  else if e ≤ 308 then
    let y := x * Decimal.nearest 1 e
    if y.isInf then none else some y
  else if m = 0 then some 0.0
  else none

/-- A number taken apart: its sign, the digits before the point, those after it
if there is a point, and the exponent if there is one. -/
structure NumberText where
  negative : Bool
  whole : List Char
  fraction : Option (List Char)
  exponent : Option Int

/-- Digits that no longer fit 64 bits count as zeros before the point and not at
all after it. -/
def NumberText.float? (t : NumberText) : Option Float :=
  let (m, taken) := takeSignificand 0 t.whole
  let dropped := t.whole.length - taken
  let (m, places) := takeSignificand m (t.fraction.getD [])
  (scaled? m (dropped - places + t.exponent.getD 0)).map (Decimal.negateIf t.negative)

/-- Digits alone are an integer if it fits 64 bits, with a sign if it is
negative; all else, and a negative zero, is a binary64 number. -/
def NumberText.value? (t : NumberText) : Option Json :=
  let n := Decimal.value t.whole
  let fits := if t.negative then 0 < n && n ≤ 0x8000000000000000 else n < 0x10000000000000000
  if t.fraction.isNone && t.exponent.isNone && fits then
    some (.int (if t.negative then -n else n))
  else t.float?.map .float

/-- At least one digit, and what follows the digits. -/
def digits? (cs : List Char) : Option (List Char × Unread cs) :=
  match cs with
  | [] => none
  | c :: rest =>
    if Decimal.isDigit c then
      some (c :: rest.takeWhile Decimal.isDigit, ⟨rest.dropWhile Decimal.isDigit, by
        have := (List.dropWhile_sublist Decimal.isDigit (l := rest)).length_le
        simp only [List.length_cons]; omega⟩)
    else none

theorem length_takeSign_le (cs : List Char) : (Decimal.takeSign cs).2.length ≤ cs.length := by
  unfold Decimal.takeSign
  split <;> simp

/-- An exponent with its mark, if one stands here. A mark without digits is an
error (`none`). -/
def exponentPart? (cs : List Char) : Option (Option Int × Left cs) :=
  match cs with
  | [] => some (none, ⟨[], by simp⟩)
  | mark :: more =>
    if mark = 'e' || mark = 'E' then
      let signed := Decimal.takeSign more
      have shorter : signed.2.length ≤ more.length := length_takeSign_le more
      match digits? signed.2 with
      | none => none
      | some (ds, ⟨rest, h⟩) =>
        let n : Int := Decimal.value ds
        some (some (if signed.1 then -n else n), ⟨rest, by simp only [List.length_cons]; omega⟩)
    else some (none, ⟨mark :: more, by simp⟩)

/-- A point and the digits after it, if they stand here. A point without digits
is an error (`none`). -/
def fractionPart? (cs : List Char) :
    Option (Option (List Char) × Left cs) :=
  match cs with
  | [] => some (none, ⟨[], by simp⟩)
  | mark :: more =>
    if mark = '.' then
      match digits? more with
      | none => none
      | some (ds, ⟨rest, h⟩) => some (some ds, ⟨rest, by simp only [List.length_cons]; omega⟩)
    else some (none, ⟨mark :: more, by simp⟩)

/-- A number without its minus sign. A zero before the point stands alone. -/
def magnitude? (negative : Bool) (cs : List Char) : Option (NumberText × Unread cs) :=
  match digits? cs with
  | none => none
  | some (whole, ⟨afterWhole, hwhole⟩) =>
    if whole.head? = some '0' && whole.length ≠ 1 then none
    else
      match fractionPart? afterWhole with
      | none => none
      | some (fraction, ⟨afterFraction, hfraction⟩) =>
        match exponentPart? afterFraction with
        | none => none
        | some (exponent, ⟨rest, hrest⟩) =>
          some ({ negative, whole, fraction, exponent }, ⟨rest, by omega⟩)

def number? (cs : List Char) : Option (Json × Unread cs) :=
  match cs with
  | [] => none
  | c :: rest =>
    if c = '-' then
      match magnitude? true rest with
      | none => none
      | some (t, ⟨after, h⟩) =>
        t.value?.map fun v => (v, ⟨after, by simp only [List.length_cons]; omega⟩)
    else
      match magnitude? false (c :: rest) with
      | none => none
      | some (t, after) => t.value?.map fun v => (v, after)

/-- The first character that is not blank, and what follows it. -/
def next? (cs : List Char) : Option (Char × Unread cs) :=
  match found : skipSpace cs with
  | [] => none
  | c :: rest => some (c, ⟨rest, by
      have shorter := length_skipSpace_le cs
      rw [found, List.length_cons] at shorter
      omega⟩)

/-- The letters of a literal word after its first one. -/
def word? (letters : List Char) (v : Json) (cs : List Char) : Option (Json × Left cs) :=
  match found : Text.dropPrefix? letters cs with
  | none => none
  | some rest => some (v, ⟨rest, by
      have split := congrArg List.length (Text.dropPrefix?_eq_some_iff.1 found)
      rw [List.length_append] at split
      omega⟩)

mutual

/-- The value that starts with `c` and goes on with `cs`. -/
def value? (levels : Nat) (c : Char) (cs : List Char) : Option (Json × Left cs) :=
  if c = '"' then
    match textBody? cs with
    | none => none
    | some (body, ⟨rest, _⟩) => some (.str (String.ofList body), ⟨rest, by omega⟩)
  else if c = '[' then
    match levels, next? cs with
    | levels + 1, some (d, ⟨inner, _⟩) =>
      if d = ']' then some (.arr [], ⟨inner, by omega⟩)
      else
        match items? levels d inner with
        | none => none
        | some (items, ⟨rest, _⟩) => some (.arr items, ⟨rest, by omega⟩)
    | _, _ => none
  else if c = '{' then
    match levels, next? cs with
    | levels + 1, some (d, ⟨inner, _⟩) =>
      if d = '}' then some (.obj [], ⟨inner, by omega⟩)
      else
        match fields? levels [] d inner with
        | none => none
        | some (fields, ⟨rest, _⟩) => some (.obj fields, ⟨rest, by omega⟩)
    | _, _ => none
  else if c = 'n' then word? ['u', 'l', 'l'] .null cs
  else if c = 't' then word? ['r', 'u', 'e'] (.bool true) cs
  else if c = 'f' then word? ['a', 'l', 's', 'e'] (.bool false) cs
  else
    match number? (c :: cs) with
    | none => none
    | some (v, ⟨rest, h⟩) => some (v, ⟨rest, by rw [List.length_cons] at h; omega⟩)
termination_by 2 * cs.length

/-- One item or more, the first of which starts with `c`, up to the closing
bracket. -/
def items? (levels : Nat) (c : Char) (cs : List Char) : Option (List Json × Left cs) :=
  match value? levels c cs with
  | none => none
  | some (v, ⟨afterValue, _⟩) =>
    match next? afterValue with
    | none => none
    | some (d, ⟨rest, _⟩) =>
      if d = ']' then some ([v], ⟨rest, by omega⟩)
      else if d = ',' then
        match next? rest with
        | none => none
        | some (e, ⟨more, _⟩) =>
          match items? levels e more with
          | none => none
          | some (items, ⟨final, _⟩) => some (v :: items, ⟨final, by omega⟩)
      else none
termination_by 2 * cs.length + 1

/-- One field or more, the first of which starts with `c`, up to the closing
brace. They are set one after the other, on top of those `before`. -/
def fields? (levels : Nat) (before : Fields Json) (c : Char) (cs : List Char) :
    Option (Fields Json × Left cs) :=
  if c ≠ '"' then none
  else
    match textBody? cs with
    | none => none
    | some (name, ⟨afterName, _⟩) =>
      match next? afterName with
      | none => none
      | some (colon, ⟨afterColon, _⟩) =>
        if colon ≠ ':' then none
        else
          match next? afterColon with
          | none => none
          | some (first, ⟨body, _⟩) =>
            match value? levels first body with
            | none => none
            | some (v, ⟨afterValue, _⟩) =>
              let fields := before.set (String.ofList name) v
              match next? afterValue with
              | none => none
              | some (d, ⟨rest, _⟩) =>
                if d = '}' then some (fields, ⟨rest, by omega⟩)
                else if d = ',' then
                  match next? rest with
                  | none => none
                  | some (e, ⟨more, _⟩) =>
                    match fields? levels fields e more with
                    | none => none
                    | some (fields, ⟨final, _⟩) => some (fields, ⟨final, by omega⟩)
                else none
termination_by 2 * cs.length + 1

end

/-- A whole text: one value with blanks around it, at most `levels` deep. -/
def read? (levels : Nat) (cs : List Char) : Option Json :=
  match next? cs with
  | none => none
  | some (c, ⟨body, _⟩) =>
    match value? levels c body with
    | none => none
    | some (v, ⟨rest, _⟩) => if (skipSpace rest).isEmpty then some v else none

/-- How deep values may nest in texts that come from outside. -/
def maxLevels : Nat := 127

def ofString? (s : String) : Option Json :=
  read? maxLevels s.toList

end FlowGraph.Json
