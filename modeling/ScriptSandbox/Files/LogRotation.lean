import ScriptSandbox.Files.Tree

/-!
# Log rotation

Before a service starts to log, the log it left behind gets a name with the time in it.
-/

namespace ScriptSandbox.LogRotation

def current (directory service : String) : String := directory ++ "/" ++ service ++ ".log"

def backup (directory service stamp : String) : String :=
  directory ++ "/" ++ service ++ "." ++ stamp ++ ".log"

/-- Moves the log of a service aside, if there is one. -/
def rotate (files : FileTree) (directory service stamp : String) : Except FileError FileTree :=
  if files.exists? (current directory service) then
    files.rename (current directory service) (backup directory service stamp)
  else .ok files

end ScriptSandbox.LogRotation
