import FlowGraph.Project.Build

/-!
Command lines. Options come before or after other arguments, in a long form or as
single letters that may stand together; two dashes end them. What is wrong first
counts, and so does a request for help before it.
-/

namespace FlowGraph.Command

structure OptionSpec where
  name : String
  letter : Option Char := none
  takesValue : Bool := false
  repeatable : Bool := false

/-- Options that every command has, before or after its name. -/
def commonOptions : List OptionSpec :=
  [{ name := "config", letter := some 'c', takesValue := true },
    { name := "verbose", letter := some 'v' },
    { name := "log-json" },
    { name := "help", letter := some 'h' }]

def mainOptions : List OptionSpec :=
  { name := "version", letter := some 'V' } :: commonOptions

def initOptions : List OptionSpec :=
  { name := "name", letter := some 'n', takesValue := true } :: commonOptions

def compileOptions : List OptionSpec :=
  [{ name := "output", letter := some 'o', takesValue := true },
    { name := "strict" },
    { name := "compact" },
    { name := "no-layout" },
    { name := "spacing", takesValue := true },
    { name := "param", letter := some 'p', takesValue := true, repeatable := true }] ++ commonOptions

def validateOptions : List OptionSpec :=
  { name := "strict" } :: commonOptions

inductive Item where
  | option (name value : String)
  | positional (text : String)
  | invalid
deriving DecidableEq, Repr

/-- A single dash is no option. -/
def isOption (arg : String) : Bool :=
  arg.toList.head? = some '-' && arg ≠ "-"

def beforeSign (cs : List Char) : List Char :=
  cs.takeWhile (· ≠ '=')

/-- A long option, and its name if its value is yet to come. -/
def longItems (specs : List OptionSpec) (cs : List Char) : List Item × Option String :=
  let name := String.ofList (beforeSign cs)
  let value := (cs.drop (beforeSign cs).length).tail
  let hasValue := cs.contains '='
  match specs.find? fun spec => spec.name = name with
  | none => ([.invalid], none)
  | some spec =>
    if !spec.takesValue then
      (if hasValue then [.invalid] else [.option name ""], none)
    else if hasValue then ([.option name (String.ofList value)], none)
    else ([], some name)

def dropSign : List Char → List Char
  | '=' :: cs => cs
  | cs => cs

/-- Options as single letters, and the name of the last one if its value is yet
to come. -/
def letterItems (specs : List OptionSpec) : List Char → List Item × Option String
  | [] => ([], none)
  | c :: cs =>
    match specs.find? fun spec => spec.letter = some c with
    | none => ([.invalid], none)
    | some spec =>
      if !spec.takesValue then
        let (items, pending) := letterItems specs cs
        (.option spec.name "" :: items, pending)
      else if cs.isEmpty then ([], some spec.name)
      else ([.option spec.name (String.ofList (dropSign cs))], none)

def optionItems (specs : List OptionSpec) (arg : String) : List Item × Option String :=
  match arg.toList with
  | '-' :: '-' :: cs => longItems specs cs
  | '-' :: cs => letterItems specs cs
  | _ => ([.invalid], none)

/-- The items of a command's arguments; `pending` is an option whose value comes
next. -/
def items (specs : List OptionSpec) (pending : Option String) : List String → List Item
  | [] => if pending.isSome then [.invalid] else []
  | arg :: args =>
    match pending with
    | some name =>
      if isOption arg then [.invalid] else .option name arg :: items specs none args
    | none =>
      if arg = "--" then args.map .positional
      else if isOption arg then
        let (found, pending) := optionItems specs arg
        found ++ items specs pending args
      else .positional arg :: items specs none args

/-- The items before the name of a command, and that name with its arguments. -/
def mainItems (pending : Option String) : List String → List Item × List String
  | [] => (if pending.isSome then [.invalid] else [], [])
  | arg :: args =>
    match pending with
    | some name =>
      if isOption arg then ([.invalid], [])
      else
        let (found, rest) := mainItems none args
        (.option name arg :: found, rest)
    | none =>
      if arg = "--" then ([.invalid], [])
      else if isOption arg then
        let (found, pending) := optionItems mainOptions arg
        let (more, rest) := mainItems pending args
        (found ++ more, rest)
      else ([], arg :: args)

/-- Why there is no command to run. -/
inductive Stop where
  | invalid
  | help
  | version
deriving DecidableEq, Repr

/-- What was given, in order. -/
structure Given where
  options : List (String × String) := []
  positionals : List String := []

namespace Given

def value? (g : Given) (name : String) : Option String :=
  g.options.lookup name

def has (g : Given) (name : String) : Bool :=
  (g.value? name).isSome

def values (g : Given) (name : String) : List String :=
  g.options.filterMap fun (key, value) => if key = name then some value else none

end Given

/-- A parameter and its value with a sign between them. -/
def param? (text : String) : Option (String × String) :=
  let cs := text.toList
  let name := Text.trim (beforeSign cs)
  if !cs.contains '=' || name.isEmpty then none
  else some (String.ofList name, String.ofList (cs.drop (beforeSign cs).length).tail)

/-- Options whose values have a form of their own. -/
def isValid (name value : String) : Bool :=
  match name with
  | "spacing" => (Decimal.float? value.toList).isSome
  | "param" => (param? value).isSome
  | _ => true

def isRepeatable (specs : List OptionSpec) (name : String) : Bool :=
  specs.any fun spec => spec.name = name && spec.repeatable

/-- What a command takes besides options. -/
inductive Positionals where
  | none
  /-- A text, which may be missing. -/
  | text
  /-- A path, which has to be there and is not empty. -/
  | path
deriving DecidableEq, Repr

/-- May a text be the next one after those before it? -/
def Positionals.allows (p : Positionals) (before : List String) (text : String) : Bool :=
  match p with
  | .none => false
  | .text => before.isEmpty
  | .path => before.isEmpty && !text.isEmpty

/-- Takes the items one after the other. -/
def settle (specs : List OptionSpec) (p : Positionals) (g : Given) : List Item → Except Stop Given
  | [] => .ok g
  | .invalid :: _ => .error .invalid
  | .positional text :: rest =>
    if p.allows g.positionals text then
      settle specs p { g with positionals := g.positionals ++ [text] } rest
    else .error .invalid
  | .option name value :: rest =>
    if name = "help" then .error .help
    else if name = "version" then .error .version
    else if (g.has name && !isRepeatable specs name) || !isValid name value then .error .invalid
    else settle specs p { g with options := g.options ++ [(name, value)] } rest

/-- What a command line asks for. -/
inductive Request where
  | init (path : String) (name : Option String)
  | compile (args : Project.CompileArgs)
  | validate (path : String) (strict : Bool)

structure Invocation where
  config : String
  request : Request

/-- The path that a command needs. -/
def path? (g : Given) : Except Stop String :=
  match g.positionals with
  | path :: _ => .ok path
  | [] => .error .invalid

/-- Help on the program or on the command that is named. -/
def helpOn : List String → Stop
  | [] => .help
  | [name] => if ["init", "compile", "validate", "help"].contains name then .help else .invalid
  | _ => .invalid

def requestOf (command : String) (args : List String) : Except Stop (Given × Request) :=
  match command with
  | "init" => do
    let g ← settle initOptions .text {} (items initOptions none args)
    return (g, .init (g.positionals.head?.getD ".") (g.value? "name"))
  | "compile" => do
    let g ← settle compileOptions .path {} (items compileOptions none args)
    let path ← path? g
    return (g, .compile {
      path
      output := g.value? "output"
      strict := g.has "strict"
      compact := g.has "compact"
      noLayout := g.has "no-layout"
      spacing := (g.value? "spacing").bind fun text => Decimal.float? text.toList
      params := (g.values "param").filterMap param? })
  | "validate" => do
    let g ← settle validateOptions .path {} (items validateOptions none args)
    let path ← path? g
    return (g, .validate path (g.has "strict"))
  | "help" => .error (helpOn args)
  | _ => .error .invalid

/-- The command that the arguments ask for. Options after its name win over those
before it. -/
def Invocation.ofArgs (args : List String) : Except Stop Invocation := do
  let (before, rest) := mainItems none args
  let outer ← settle mainOptions .none {} before
  match rest with
  | [] => .error .invalid
  | command :: args =>
    let (inner, request) ← requestOf command args
    let config := inner.value? "config" <|> outer.value? "config"
    return ⟨config.getD Project.configFile, request⟩

end FlowGraph.Command
