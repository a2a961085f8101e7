import FlowGraph.Project

/-!
Compiling and checking the sources of a project, one after the other. A source
with errors does not keep the others from being compiled.
-/

namespace FlowGraph.Project

structure CompileArgs where
  path : String
  output : Option String := none
  strict : Bool := false
  compact : Bool := false
  noLayout : Bool := false
  spacing : Option Float := none
  params : List (String × String) := []

/-- The options of a configuration with those of the command on top. -/
def CompileArgs.options (args : CompileArgs) (config : Config) : CompileOptions :=
  let o := config.compileOptions
  let layout := o.generate.layout
  { o with
    strict := o.strict || args.strict
    generate := {
      layout := { layout with
        auto := layout.auto && !args.noLayout
        spacing := args.spacing.getD layout.spacing }
      params := args.params.foldl
        (fun params (name, text) => params.place name fun _ => .str text) o.generate.params } }

/-- The file that a document cannot be made without, if there is one. -/
def missingFile? (h : Host) (ids : IdSource) (o : CompileOptions) (source : String) :
    Option String :=
  match (Front.ofSource source).workflow with
  | none => none
  | some w =>
    match Document.ofWorkflow h ids o.generate w with
    | .error (.eval (.fileLoad path _)) => some path
    | _ => none

section

variable {m : Type → Type} [Monad m] [Shell m]

def report (source : String) : List Diagnostic → m Unit
  | [] => return
  | d :: rest => do
    Shell.complain (source ++ ": " ++ d.display ++ "\n")
    report source rest

/-- Compiles the text of a source; its files are looked for next to it. -/
def compileText (o : CompileOptions) (source text : String) : m Outcome := do
  let host : Host := { env := ← Shell.env, now := ← Shell.now }
  let ids ← Shell.ids
  let base := (Path.parent? source).getD "."
  let loader ← Shell.loader base fun known => missingFile? { host with files := some known } ids o text
  return compile { host with files := some loader } ids o text

/-- Puts a document where it belongs. -/
def deliver (destination : Destination) (source json : String) : m (Except CommandError Unit) := do
  match destination.target? source with
  | none =>
    Shell.print (json ++ "\n")
    return .ok ()
  | some target =>
    match ← Shell.writeText target (json ++ "\n") with
    | .ok _ => return .ok ()
    | .error e => return .error (.inFile ("Failed to write " ++ target) e)

/-- Compiles one source, and says whether it succeeded. -/
def compileSource (o : CompileOptions) (destination : Destination) (pretty : Bool)
    (source : String) : m (Except CommandError Bool) := do
  match ← Shell.readText source with
  | .error e => return .error (.inFile ("Failed to read " ++ source) e)
  | .ok text =>
    let outcome ← compileText o source text
    report source outcome.diagnostics
    match outcome.success, outcome.document with
    | true, some document =>
      match ← deliver destination source (document.text pretty) with
      | .error e => return .error e
      | .ok _ => return .ok true
    | _, _ => return .ok false

/-- Checks one source, and says whether it succeeded. -/
def checkSource (o : CompileOptions) (source : String) : m (Except CommandError Bool) := do
  match ← Shell.readText source with
  | .error e => return .error (.inFile ("Failed to read " ++ source) e)
  | .ok text =>
    let outcome := check o text
    report source outcome.diagnostics
    return .ok outcome.success

/-- Takes all sources in turn and counts those that do not succeed. -/
def failures (step : String → m (Except CommandError Bool)) :
    List String → m (Except CommandError Nat)
  | [] => return .ok 0
  | source :: rest => do
    match ← step source with
    | .error e => return .error e
    | .ok succeeded =>
      match ← failures step rest with
      | .error e => return .error e
      | .ok n => return .ok (if succeeded then n else n + 1)

def summary (verdict : String) (sources : List String) (failed : Nat) : Except CommandError Unit :=
  if failed = 0 then .ok ()
  else
    .error ⟨toString failed ++ " of " ++ toString sources.length ++ " workflows " ++ verdict, []⟩

/-- Makes the directory that documents go to. -/
def prepare (destination : Destination) : m (Except CommandError Unit) := do
  match destination with
  | .directory dir =>
    match ← Shell.makeDirs dir with
    | .ok _ => return .ok ()
    | .error e => return .error (.inFile ("Failed to create " ++ dir) e)
  | _ => return .ok ()

def compileAll (config : String) (args : CompileArgs) : m (Except CommandError Unit) := do
  match ← configFor config with
  | .error e => return .error e
  | .ok config =>
    match ← sourcesAt args.path with
    | .error e => return .error e
    | .ok sources =>
      let several := (← Shell.kind? args.path) = some .directory
      let destination := Destination.ofOption args.output several
      match ← prepare destination with
      | .error e => return .error e
      | .ok _ =>
        match ← failures (compileSource (args.options config) destination !args.compact) sources with
        | .error e => return .error e
        | .ok failed => return summary "failed to compile" sources failed

def checkAll (config path : String) (strict : Bool) : m (Except CommandError Unit) := do
  match ← configFor config with
  | .error e => return .error e
  | .ok config =>
    let o := config.compileOptions
    match ← sourcesAt path with
    | .error e => return .error e
    | .ok sources =>
      match ← failures (checkSource { o with strict := o.strict || strict }) sources with
      | .error e => return .error e
      | .ok failed => return summary "failed validation" sources failed

end

end FlowGraph.Project
