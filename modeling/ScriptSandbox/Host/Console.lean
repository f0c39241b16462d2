import ScriptSandbox.Argument
import ScriptSandbox.Json.Printer

/-!
# The guest console
-/

namespace ScriptSandbox.Console

/-- An argument in a line: texts bare, all else as JSON. -/
def textOf (value : Json) : String :=
  match value with
  | .str s => s
  | other => other.compact

def line (args : Arguments) : String := " ".intercalate (args.map textOf)

def call (args : Arguments) : HostResult := .ok (successWith [("message", .str (line args))])

end ScriptSandbox.Console
