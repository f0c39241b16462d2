import ScriptSandbox.CommandLine.Run
import Std.Time.DateTime.Timestamp

/-!
# The program

The outer layer of the command line. It brings the files below the working directory in, lets the
run work on them, and writes down what the run has changed. Time is reckoned and not waited for.
-/

namespace ScriptSandbox.Program

/-- The variables of the environment that a run looks at. -/
def variableNames : List String :=
  ["SCRIPTBOX_DEFAULT_TIMEOUT_MS", "SCRIPTBOX_HTTP_TIMEOUT_MS", "SCRIPTBOX_BROWSER_TIMEOUT_MS",
    "SCRIPTBOX_MAX_FILE_SIZE", "SCRIPTBOX_HEADLESS", "SCRIPTBOX_DISABLE",
    Executable.variableName] ++ CommandLine.Field.all.filterMap CommandLine.Field.standIn?

def readVariables : IO Environment.Variables :=
  variableNames.filterMapM fun name => return (← IO.getEnv name).map (name, ·)

/-- The path of a location, from the working directory. -/
def pathOf (l : Location) : String := "/".intercalate ("." :: l.drop FileTree.home.length)

/-- Adds what a directory holds under a name, and all that is below it, as far as it can be read. -/
partial def gather (l : Location) (files : FileTree) (e : IO.FS.DirEntry) : IO FileTree := do
  let below := l ++ [e.fileName]
  if ← e.path.isDir then
    (← e.path.readDir).foldlM (gather below) (files.set below .dir)
  else
    match ← (IO.FS.readBinFile e.path).toBaseIO with
    | .ok content => return files.set below (.file content.toList)
    | .error _ => return files

def writeEntry (l : Location) : Entry → IO Unit
  | .file content => IO.FS.writeBinFile (pathOf l) ⟨content.toArray⟩
  | .dir => IO.FS.createDirAll (pathOf l)
  | .link _ | .sink => pure ()

/-- Writes down in which way files have changed. -/
def keep (before after : FileTree) : IO Unit := do
  for (l, e) in before.entries.reverse do
    if (after.get? l).isNone then
      if e.isDir then IO.FS.removeDir (pathOf l) else IO.FS.removeFile (pathOf l)
  for (l, e) in after.entries do
    if FileTree.home.isPrefixOf l && before.get? l != some e then
      writeEntry l e

/-- A source of chance that nobody can foresee. -/
def chance : IO Chance := do
  let seed ← IO.getRandomBytes 8
  return ⟨seed.toList.foldl (fun n b => 256 * n + b.toUInt64) 0⟩

def moment : IO Moment := do
  return ⟨(← Std.Time.Timestamp.now).toNanosecondsSinceUnixEpoch.toInt.toNat⟩

end ScriptSandbox.Program

open ScriptSandbox in
def main (arguments : List String) : IO UInt32 := do
  let held ← (← IO.currentDir).readDir
  let files ← held.foldlM (Program.gather FileTree.home) FileTree.empty
  let w : Surroundings :=
    { files, chance := ← Program.chance, now := ← Program.moment }
  let report := CommandLine.run arguments (← Program.readVariables) w []
  Program.keep files report.files
  IO.print report.output
  if let some complaint := report.complaint then IO.eprintln complaint
  return report.exitCode.toUInt32
