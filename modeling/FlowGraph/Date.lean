import FlowGraph.Decimal.Read
import FlowGraph.Text.Blank

/-!
Texts that are dates. The strict form has fixed widths, a time and an offset
from universal time. The loose forms are a date, or a date and a time with a
blank or a `T` between them; blanks may stand before each number in them.
-/

namespace FlowGraph

namespace Date

def isLeap (year : Int) : Bool :=
  year % 4 = 0 && (year % 100 ≠ 0 || year % 400 = 0)

def daysIn (year : Int) (month : Nat) : Nat :=
  if month = 2 then (if isLeap year then 29 else 28)
  else if [4, 6, 9, 11].contains month then 30
  else 31

def isDay (year : Int) (month day : Nat) : Bool :=
  -262143 ≤ year && year ≤ 262142 && 1 ≤ month && month ≤ 12 && 1 ≤ day && day ≤ daysIn year month

/-- A time of day; a minute may end with a leap second. -/
def isTime (hour minute second : Nat) : Bool :=
  hour ≤ 23 && minute ≤ 59 && second ≤ 60

/-- At least `least` digits and at most `most`, and what follows them. -/
def digits? (least most : Nat) (cs : List Char) : Option (Nat × List Char) :=
  let ds := (cs.take most).takeWhile Decimal.isDigit
  if ds.length < least then none else some (Decimal.value ds, cs.drop ds.length)

def char? (c : Char) : List Char → Option (List Char)
  | [] => none
  | d :: rest => if c = d then some rest else none

/-- A fraction of a second: a point and digits, or nothing. -/
def fraction? (cs : List Char) : Option (List Char) :=
  match cs with
  | '.' :: rest =>
    if rest.head?.any Decimal.isDigit then some (rest.dropWhile Decimal.isDigit) else none
  | cs => some cs

/-- An offset, less than a day, at the end of the text. -/
def isOffset (cs : List Char) : Bool :=
  match cs with
  | ['Z'] | ['z'] => true
  | sign :: rest =>
    (sign = '+' || sign = '-' || sign = '−') &&
      (match digits? 2 2 rest with
      | some (hours, ':' :: rest) =>
        match digits? 2 2 rest with
        | some (minutes, []) => hours ≤ 23 && minutes ≤ 59
        | _ => false
      | _ => false)
  | [] => false

def strict? (cs : List Char) : Option Unit := do
  let (year, cs) ← digits? 4 4 cs
  let cs ← char? '-' cs
  let (month, cs) ← digits? 2 2 cs
  let cs ← char? '-' cs
  let (day, cs) ← digits? 2 2 cs
  let cs ← char? 'T' cs <|> char? 't' cs <|> char? ' ' cs
  let (hour, cs) ← digits? 2 2 cs
  let cs ← char? ':' cs
  let (minute, cs) ← digits? 2 2 cs
  let cs ← char? ':' cs
  let (second, cs) ← digits? 2 2 cs
  let cs ← fraction? cs
  guard (isOffset cs && isDay year month day && isTime hour minute second)

/-- A year of up to four digits, or of any number of digits after a sign. -/
def year? (cs : List Char) : Option (Int × List Char) :=
  match Text.trimStart cs with
  | '-' :: rest => (digits? 1 rest.length rest).map fun (n, rest) => (-(n : Int), rest)
  | '+' :: rest => (digits? 1 rest.length rest).map fun (n, rest) => ((n : Int), rest)
  | cs => (digits? 1 4 cs).map fun (n, rest) => ((n : Int), rest)

/-- One or two digits after any blanks. -/
def part? (cs : List Char) : Option (Nat × List Char) :=
  digits? 1 2 (Text.trimStart cs)

def looseDay? (cs : List Char) : Option (List Char) := do
  let (year, cs) ← year? cs
  let cs ← char? '-' cs
  let (month, cs) ← part? cs
  let cs ← char? '-' cs
  let (day, cs) ← part? cs
  guard (isDay year month day)
  return cs

def looseTime? (cs : List Char) : Option (List Char) := do
  let (hour, cs) ← part? cs
  let cs ← char? ':' cs
  let (minute, cs) ← part? cs
  let cs ← char? ':' cs
  let (second, cs) ← part? cs
  guard (isTime hour minute second)
  return cs

def isLoose (cs : List Char) : Bool :=
  match looseDay? cs with
  | none => false
  | some rest =>
    rest.isEmpty || looseTime? (Text.trimStart rest) = some [] ||
      (char? 'T' rest).bind looseTime? = some []

end Date

/-- Is a text a date in one of the known forms? -/
def isDate (cs : List Char) : Bool :=
  (Date.strict? cs).isSome || Date.isLoose cs

end FlowGraph
