import FlowGraph.Command
import Std.Time

/-!
The command line on the real file system.
-/

namespace FlowGraph

/-- The code and the text of an error of the system. -/
def systemError : IO.Error → UInt32 × String
  | .alreadyExists _ code text => (code, text)
  | .otherError code text => (code, text)
  | .resourceBusy code text => (code, text)
  | .resourceVanished code text => (code, text)
  | .unsupportedOperation code text => (code, text)
  | .hardwareFault code text => (code, text)
  | .unsatisfiedConstraints code text => (code, text)
  | .illegalOperation code text => (code, text)
  | .protocolError code text => (code, text)
  | .timeExpired code text => (code, text)
  | .interrupted _ code text => (code, text)
  | .noFileOrDirectory _ code text => (code, text)
  | .invalidArgument _ code text => (code, text)
  | .permissionDenied _ code text => (code, text)
  | .resourceExhausted _ code text => (code, text)
  | .inappropriateType _ code text => (code, text)
  | .noSuchThing _ code text => (code, text)
  | .unexpectedEof => (0, "unexpected end of file")
  | .userError text => (0, text)

def fileError (e : IO.Error) : FileError :=
  match systemError e with
  | (2, _) => .notFound
  | (17, _) => .exists
  | (20, _) => .notDirectory
  | (21, _) => .isDirectory
  | (0, text) => .other text
  | (code, text) => .other (text ++ " (os error " ++ toString code ++ ")")

def attempt {α : Type} (action : IO α) : IO (Except FileError α) := do
  try
    return .ok (← action)
  catch e => return .error (fileError e)

def kindOnSystem (path : String) : IO (Option FileKind) := do
  if path.isEmpty then return none
  try
    let info ← ((← IO.currentDir) / path).metadata
    return some (if info.type == .dir then .directory else .file)
  catch _ => return none

def readOnSystem (path : String) : IO (Except FileError String) := do
  if path.toList.contains (Char.ofNat 0) then return .error .badName
  match ← attempt (IO.FS.readBinFile path) with
  | .error e => return .error e
  | .ok bytes =>
    match String.fromUTF8? bytes with
    | some text => return .ok text
    | none => return .error .notText

partial def filesOnSystem (path : String) : IO (List String) := do
  let found ← ((← IO.currentDir) / path).readDir
  let names := found.toList.map fun entry => entry.fileName
  let parts ← (names.mergeSort fun a b => a ≤ b).mapM fun name => do
    let below := Path.join path name
    let info ← ((← IO.currentDir) / below).symlinkMetadata
    match info.type with
    | .dir => filesOnSystem below
    | .file => return [below]
    | _ => return []
  return parts.flatten

/-- Reads the files that a run asks for, one after the other. -/
partial def loadOnSystem (base : String) (wanted : Loader → Option String)
    (known : List (String × Except String String)) : IO Loader := do
  let loader : Loader := fun path => (known.lookup path).getD (.error "")
  match wanted loader with
  | none => return loader
  | some path =>
    if (known.lookup path).isSome then return loader
    let text ← readOnSystem (Path.join base path)
    loadOnSystem base wanted ((path, text.mapError FileError.message) :: known)

/-- The variables of the environment, each a name and a value with a sign between
them. -/
def environment : IO (List (String × String)) := do
  match ← attempt (IO.FS.readBinFile "/proc/self/environ") with
  | .error _ => return []
  | .ok bytes =>
    let entries := (bytes.toList.splitOnP (· == 0)).filterMap fun entry =>
      String.fromUTF8? ⟨entry.toArray⟩
    return entries.map fun entry =>
      let name := entry.toList.takeWhile (· ≠ '=')
      (String.ofList name, String.ofList (entry.toList.drop (name.length + 1)))

def randomWord : IO UInt64 := do
  let bytes ← IO.getRandomBytes 8
  return bytes.toList.foldl (fun word byte => (word <<< 8) ||| byte.toUInt64) 0

instance : Shell IO where
  kind? := kindOnSystem
  readText := readOnSystem
  writeText path text := attempt (IO.FS.writeFile path text)
  makeDirs path := attempt (IO.FS.createDirAll path)
  filesBelow path := attempt (filesOnSystem path)
  realName path := attempt do return (← IO.FS.realPath path).fileName
  loader base wanted := loadOnSystem base wanted []
  env := do
    let vars ← environment
    return fun name => vars.lookup name
  now := do
    let time := Std.Time.DateTime.ofTimestamp (← Std.Time.Timestamp.now)
      Std.Time.TimeZone.ZoneRules.UTC
    return time.format "uuuu-MM-dd'T'HH:mm:ss.SSSSSSSSSxxx"
  ids := do
    let high ← randomWord
    let low ← randomWord
    return .ofSeed high low
  print text := IO.print text
  complain text := IO.eprint text

end FlowGraph

def main (args : List String) : IO UInt32 := do
  let code : Nat ← FlowGraph.Command.run args
  return UInt32.ofNat code
