import FlowGraph.Json.Printer

/-!
The evaluated parameters of a node as they are declared. What is missing or has
another form counts as absent.
-/

namespace FlowGraph

abbrev Settings := Fields Json

namespace Settings

def text? (s : Settings) (name : String) : Option String :=
  (s.get? name).bind Json.str?

def flag? (s : Settings) (name : String) : Option Bool :=
  (s.get? name).bind Json.bool?

/-- The first of the names that has a text. -/
def firstText? (s : Settings) (names : List String) : Option String :=
  names.findSome? s.text?

/-- A number, also one that is written in a text. -/
def number? (s : Settings) (name : String) : Option Json :=
  match s.get? name with
  | some (.int i) => some (.int i)
  | some (.float x) => some (.float x)
  | some (.str text) => Json.numberOfText? text
  | _ => none

end Settings

/-- ASCII letters in upper case; every other character as it stands. -/
def Text.upperAscii (s : String) : String :=
  String.ofList (s.toList.map Char.toUpper)

inductive TimeUnit where
  | seconds | minutes | hours | days | weeks | months
deriving DecidableEq, Repr

namespace TimeUnit

def name : TimeUnit → String
  | .seconds => "seconds"
  | .minutes => "minutes"
  | .hours => "hours"
  | .days => "days"
  | .weeks => "weeks"
  | .months => "months"

/-- A unit by its name in any case, with or without letters `s` at its end. -/
def ofText? (text : String) : Option TimeUnit :=
  let letters := (Text.lowerAscii (Text.strip text)).toList
  match String.ofList (letters.reverse.dropWhile (· = 's')).reverse with
  | "second" => some .seconds
  | "minute" => some .minutes
  | "hour" => some .hours
  | "day" => some .days
  | "week" => some .weeks
  | "month" => some .months
  | _ => none

end TimeUnit

end FlowGraph
