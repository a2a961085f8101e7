import FlowGraph.Command.Args
import FlowGraph.Project.Skeleton

/-!
Running command lines: the result is the exit code, and everything else goes
through the shell.
-/

namespace FlowGraph.Command

def versionText : String := "flowdsl 0.1.0\n"

/-- What is shown for help and for arguments that make no sense. The wording is this
library's own, and no result rests on it. -/
def usageText : String := "Usage: flowdsl [OPTIONS] <COMMAND>

Commands:
  init [PATH]      Start a project
  compile <PATH>   Write the documents of workflow sources
  validate <PATH>  Check workflow sources

Options:
  -c, --config <CONFIG>  Configuration file or its directory [default: flowdsl.yaml]
  -v, --verbose          Say more
      --log-json         Write logs as JSON lines
  -h, --help             Print this text
  -V, --version          Print the version
"

section

variable {m : Type → Type} [Monad m] [Shell m]

def Invocation.run (i : Invocation) : m (Except CommandError Unit) :=
  match i.request with
  | .init path name => Project.create path name
  | .compile args => Project.compileAll i.config args
  | .validate path strict => Project.checkAll i.config path strict

def run (args : List String) : m Nat := do
  match Invocation.ofArgs args with
  | .error .version =>
    Shell.print versionText
    return 0
  | .error .help =>
    Shell.print usageText
    return 0
  | .error .invalid =>
    Shell.complain usageText
    return 2
  | .ok invocation =>
    match ← invocation.run with
    | .ok _ => return 0
    | .error e =>
      Shell.complain e.display
      return 1

end

end FlowGraph.Command
