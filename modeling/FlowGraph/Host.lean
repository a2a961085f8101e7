/-!
What evaluation takes from outside: the environment, the files that can be read
and the present time. All three stay the same during a run.
-/

namespace FlowGraph

structure Host where
  env : String → Option String
  /-- A file's text, or why it cannot be read; absent if files are not available
  at all. -/
  files : Option (String → Except String String) := none
  now : String

namespace Host

/-- The value of an environment variable, empty if it is not set. -/
def envText (h : Host) (name : String) : String :=
  (h.env name).getD ""

end Host

end FlowGraph
