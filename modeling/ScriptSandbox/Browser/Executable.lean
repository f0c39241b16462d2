import ScriptSandbox.Browser.Rehearsal
import ScriptSandbox.Files.Tree
import ScriptSandbox.Settings.Environment

/-!
# The browser's executable

A browser needs an executable. One is looked for at the path that a variable of the environment
names; a path at which there is something has to be taken, even if it cannot be started.
-/

namespace ScriptSandbox.Executable

def variableName : String := "CHROME"

def notFound : String :=
  "browser configuration failed: Could not auto detect a chrome executable"

def notStarted : String := "browser launch failed: Permission denied (os error 13)"

/-- The browser of a machine on which none can be started. -/
def rehearsal (vars : Environment.Variables) (files : FileTree) : Rehearsal :=
  let found := (vars.lookup variableName).any files.exists?
  { launch := [{ error := some (if found then notStarted else notFound) }] }

end ScriptSandbox.Executable
