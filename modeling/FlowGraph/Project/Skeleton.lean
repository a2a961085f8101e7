import FlowGraph.Project

/-!
New projects: a configuration with the defaults, an example workflow, and a list
of files that are not kept.
-/

namespace FlowGraph.Project

def configText : String := "# flowdsl project configuration
layout:
  auto: true
  start: [0, 0]
  spacing: 200

validation:
  # Fail on warnings such as unconnected nodes
  strict: false
  # Check the generated document's structure
  validate_output: true

# Parameter overrides, by parameter name
params: \x7b\x7d
"

def exampleBefore : String := "// Example workflow
workflow \""

def exampleAfter : String := "\" \x7b
    param base_url string = \"https://api.example.com\"

    var endpoint = \"$\x7bbase_url\x7d/status\"

    node start \"manual.trigger\" \x7b\x7d

    node fetch \"http.request\" \x7b
        url: endpoint,
        method: \"GET\",
        headers: \x7b Accept: \"application/json\" \x7d
    \x7d

    node check \"if\" \x7b
        condition: \"\x7b\x7b $json.status \x7d\x7d == 'ok'\"
    \x7d

    node done \"noop\" \x7b\x7d
    node alert \"noop\" \x7b\x7d

    connect start -> fetch
    connect fetch -> check
    connect check.true -> done
    connect check.false -> alert
\x7d
"

/-- The source of an example workflow with this name. -/
def exampleText (name : String) : String :=
  exampleBefore ++ name ++ exampleAfter

def ignoredText : String := "# Compiled workflows
*.json
"

/-- The files of a new project, in the order in which they are written. -/
def skeleton (name : String) : List (String × String) :=
  [(configFile, configText), ("workflows/hello.flow", exampleText name), (".gitignore", ignoredText)]

section

variable {m : Type → Type} [Monad m] [Shell m]

def writeAll (dir : String) : List (String × String) → m (Except CommandError Unit)
  | [] => return .ok ()
  | (path, text) :: rest => do
    match ← Shell.writeText (Path.join dir path) text with
    | .error e => return .error (.ofFile e)
    | .ok _ => writeAll dir rest

/-- Makes a directory unless something is there. -/
def makeMissing (dir : String) : m (Except CommandError Unit) := do
  match ← Shell.kind? dir with
  | some _ => return .ok ()
  | none =>
    match ← Shell.makeDirs dir with
    | .error e => return .error (.ofFile e)
    | .ok _ => return .ok ()

/-- The name of the example workflow: the one that is given, or that of the
directory. -/
def exampleName (dir : String) (name : Option String) : m (Except CommandError String) := do
  match ← Shell.realName dir with
  | .error e => return .error (.ofFile e)
  | .ok found =>
    match name <|> found with
    | some name => return .ok name
    | none => return .error ⟨"Could not determine project name from path", []⟩

/-- Writes a new project into a directory that has no configuration yet. -/
def create (dir : String) (name : Option String) : m (Except CommandError Unit) := do
  match ← makeMissing dir with
  | .error e => return .error e
  | .ok _ =>
    match ← exampleName dir name with
    | .error e => return .error e
    | .ok name =>
      match ← Shell.kind? (Path.join dir configFile) with
      | some _ =>
        return .error ⟨"Directory '" ++ dir ++ "' already contains a " ++ configFile, []⟩
      | none =>
        match ← Shell.makeDirs (Path.join dir "workflows") with
        | .error e => return .error (.ofFile e)
        | .ok _ => writeAll dir (skeleton name)

end

end FlowGraph.Project
