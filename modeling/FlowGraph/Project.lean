import FlowGraph.Config
import FlowGraph.Shell

/-!
Projects on a disk: their configuration, their sources, and where documents go.
-/

namespace FlowGraph

/-- Why a command ends early, with the reasons behind it. -/
structure CommandError where
  message : String
  causes : List String := []
deriving DecidableEq, Repr

namespace CommandError

def ofFile (e : FileError) : CommandError where
  message := e.message

def inFile (message : String) (e : FileError) : CommandError where
  message
  causes := [e.message]

/-- The message, and below it the causes, with numbers if there are several. -/
def display (e : CommandError) : String :=
  let causes := match e.causes with
    | [] => []
    | [cause] => ["    " ++ cause]
    | causes => causes.mapIdx fun i cause => "    " ++ toString i ++ ": " ++ cause
  let listed := if causes.isEmpty then "" else "\n\nCaused by:\n" ++ String.intercalate "\n" causes
  "Error: " ++ e.message ++ listed ++ "\n"

end CommandError

namespace Project

/-- The name of configuration files. -/
def configFile : String := "flowdsl.yaml"

def sourceExtension : String := "flow"

inductive ConfigError where
  | notFound (path : String)
  | file (e : FileError)
  | unreadable

/-- What is said about the inside of a text that is no configuration. The wording is this
library's own, and no result rests on it. -/
def ConfigError.textFault : String := "the text does not have the form of a configuration"

def ConfigError.messages : ConfigError → List String
  | .notFound path => ["configuration file not found: " ++ path]
  | .file e => ["IO error: " ++ e.message, e.message]
  | .unreadable => ["failed to parse configuration: " ++ textFault, textFault]

/-- A configuration and the directory that it is for. -/
structure Loaded where
  config : Config
  base : String

section

variable {m : Type → Type} [Monad m] [Shell m]

/-- Where a path to a configuration leads: the file and its directory. A
directory stands for the configuration file in it. -/
def configPlace (path : String) : m (String × String) := do
  match ← Shell.kind? path with
  | some .directory => return (Path.join path configFile, path)
  | _ => return (path, (Path.parent? path).getD ".")

def loadConfig (path : String) : m (Except ConfigError Loaded) := do
  let (file, base) ← configPlace path
  match ← Shell.kind? file with
  | none => return .error (.notFound file)
  | some _ =>
    match ← Shell.readText file with
    | .error e => return .error (.file e)
    | .ok text =>
      match Config.ofText? text with
      | none => return .error .unreadable
      | some config => return .ok ⟨config, base⟩

/-- The configuration at a path, or the default one if there is none. -/
def loadConfigOrDefault (path : String) : m (Except ConfigError Loaded) := do
  match ← loadConfig path with
  | .error (.notFound _) =>
    let (_, base) ← configPlace path
    return .ok ⟨{}, base⟩
  | result => return result

/-- The configuration that a command works with. -/
def configFor (path : String) : m (Except CommandError Config) := do
  match ← loadConfigOrDefault path with
  | .ok loaded => return .ok loaded.config
  | .error e => return .error ⟨"Failed to load configuration", e.messages⟩

def isSource (path : String) : Bool :=
  Path.extension? path = some sourceExtension.toList

/-- The file at a path, or all sources in a directory and the directories in it. -/
def sourcesAt (path : String) : m (Except CommandError (List String)) := do
  match ← Shell.kind? path with
  | none => return .error ⟨"Path not found: " ++ path, []⟩
  | some .file => return .ok [path]
  | some .directory =>
    match ← Shell.filesBelow path with
    | .error e => return .error (.inFile ("Failed to read " ++ path) e)
    | .ok files =>
      match files.filter isSource with
      | [] => return .error ⟨"No ." ++ sourceExtension ++ " files found in " ++ path, []⟩
      | sources => return .ok sources

end

/-- Where documents go. -/
inductive Destination where
  /-- Next to each source. -/
  | alongside
  | stdout
  | file (path : String)
  | directory (path : String)
deriving DecidableEq, Repr

namespace Destination

/-- The destination that an option names, for one source or for a directory. -/
def ofOption (output : Option String) (several : Bool) : Destination :=
  match output with
  | none => .alongside
  | some "-" => .stdout
  | some path => if several then .directory path else .file path

/-- The file that the document of a source goes to. -/
def target? (d : Destination) (source : String) : Option String :=
  match d with
  | .alongside => some (Path.withExtension source "json")
  | .stdout => none
  | .file path => some path
  | .directory dir =>
    let name := match Path.fileName? source with
      | some name => Path.stem name
      | none => source.toList
    some (Path.join dir (String.ofList name ++ ".json"))

end Destination

end Project

end FlowGraph
