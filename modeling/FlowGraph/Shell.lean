import FlowGraph.Disk
import FlowGraph.Host
import FlowGraph.Uuid

/-!
What commands do to the world around them: they read and write files and print.
Commands are written for any shell; `Machine` is a shell that is a value.
-/

namespace FlowGraph

abbrev Loader := String → Except String String

class Shell (m : Type → Type) where
  kind? : String → m (Option FileKind)
  readText : String → m (Except FileError String)
  writeText : String → String → m (Except FileError Unit)
  makeDirs : String → m (Except FileError Unit)
  /-- The paths of all files in a directory and the directories in it, by name. -/
  filesBelow : String → m (Except FileError (List String))
  /-- The last name on the way from the root to an existing place. -/
  realName : String → m (Except FileError (Option String))
  /-- The files as seen from a base. The second argument tells which file a run
  with a given loader stops at, so that only files that matter need be read. -/
  loader : String → (Loader → Option String) → m Loader
  env : m (String → Option String)
  now : m String
  /-- Identifiers for one document. -/
  ids : m IdSource
  /-- Prints to the standard output. -/
  print : String → m Unit
  /-- Prints to the standard error output. -/
  complain : String → m Unit

/-- A disk, what surrounds a run, and what has been printed. -/
structure Machine where
  disk : Disk
  /-- The directory that relative paths start from. -/
  cwd : Place := Disk.home
  env : String → Option String
  now : String
  ids : IdSource
  stdout : String := ""
  stderr : String := ""

namespace Machine

/-- Keeps the disk that an operation makes, or the one that it stops at. -/
def update (change : Disk → Except Halt Disk) : StateM Machine (Except FileError Unit) :=
  fun machine =>
    match change machine.disk with
    | .ok disk => (.ok (), { machine with disk })
    | .error halt => (.error halt.error, { machine with disk := halt.disk })

def loader (machine : Machine) (base : String) : Loader := fun path =>
  (machine.disk.readText (Path.join base path) machine.cwd).mapError FileError.message

instance : Shell (StateM Machine) where
  kind? path := fun machine => (machine.disk.kind? path machine.cwd, machine)
  readText path := fun machine => (machine.disk.readText path machine.cwd, machine)
  writeText path text := fun machine =>
    update (fun disk => (disk.writeText path text machine.cwd).mapError (⟨·, disk⟩)) machine
  makeDirs path := fun machine => update (fun disk => disk.makeDirs path machine.cwd) machine
  filesBelow path := fun machine => (machine.disk.filesBelow path machine.cwd, machine)
  realName path := fun machine => (machine.disk.realName path machine.cwd, machine)
  loader base _ := fun machine => (machine.loader base, machine)
  env := fun machine => (machine.env, machine)
  now := fun machine => (machine.now, machine)
  ids := fun machine => (machine.ids, machine)
  print text := fun machine => ((), { machine with stdout := machine.stdout ++ text })
  complain text := fun machine => ((), { machine with stderr := machine.stderr ++ text })

end Machine

end FlowGraph
