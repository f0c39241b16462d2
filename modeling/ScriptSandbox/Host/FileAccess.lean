import ScriptSandbox.Argument
import ScriptSandbox.Files.Glob
import ScriptSandbox.Settings.Basic
import ScriptSandbox.Text.Base64
import ScriptSandbox.World.Surroundings

/-!
# File functions

Reading and changing files within the settings. Paths and contents are checked before anything is
changed.
-/

namespace ScriptSandbox.FileAccess

def typeRefused (path : String) : Failure :=
  .invalidInput s!"file type of {path} is not allowed"

def tooLarge (code : Code) (path : String) (size limit : Nat) : Failure :=
  { code, message := s!"{path} is {size} bytes, over the {limit} byte limit" }

/-- The path argument, if files of its type are admitted. -/
def admittedPath (s : Settings) (args : Arguments) : Except Failure String := do
  let path ← args.requireText 0 "path"
  if s.allows path then return path else throw (typeRefused path)

/-- How the content of a file becomes text. -/
inductive Encoding
  | base64
  | text
deriving DecidableEq, Repr

def Encoding.ofName (name : String) : Except Failure Encoding :=
  match Text.lower name with
  | "base64" => .ok .base64
  | "utf8" | "utf-8" | "text" => .ok .text
  | other => .error (.invalidInput s!"unknown encoding '{other}'")

def Encoding.decode : Encoding → Bytes → String
  | .base64 => Base64.encodeText
  | .text => Utf8.decodeLossy

/-- The size of a file that is within the limit. -/
def sizeWithin (code : Code) (s : Settings) (path : String) : HostAction Nat := do
  let size ← HostAction.look (·.size path)
  if s.maxFileSize < size then HostAction.fail (tooLarge code path size s.maxFileSize)
  return size

def readFile (s : Settings) (args : Arguments) : HostAction Json := do
  let path ← HostAction.ofExcept (admittedPath s args)
  let name := (args.optionalText 1).getD "utf8"
  let size ← sizeWithin .filesystem s path
  let bytes ← HostAction.look (·.read path)
  let encoding ← HostAction.ofExcept (Encoding.ofName name)
  return successWith [("path", .str path), ("content", .str (encoding.decode bytes)), ("size", .nat size)]

inductive WriteMode
  | replace
  | append
deriving DecidableEq, Repr

/-- The number of bytes that stay before what is written. -/
def WriteMode.kept (m : WriteMode) (t : FileTree) (path : String) : Nat :=
  match m with
  | .replace => 0
  | .append => ((t.size path).toOption).getD 0

def WriteMode.change (m : WriteMode) (path : String) (content : Bytes) (t : FileTree) :
    Except FileError FileTree :=
  match m with
  | .replace => t.write path content
  | .append => t.append path content

/-- Makes the directories a file stands in. -/
def makeParents (path : String) : HostAction Unit :=
  match Path.parent? path with
  | some parent => HostAction.changePartly (·.makeAllDirs parent)
  | none => pure ()

def writeFile (m : WriteMode) (s : Settings) (args : Arguments) : HostAction Json := do
  let path ← HostAction.ofExcept (admittedPath s args)
  let content := Utf8.encode (← HostAction.ofExcept (args.requireAnyText 1 "content"))
  let total := m.kept (← get).files path + content.length
  if s.maxFileSize < total then HostAction.fail (tooLarge .filesystem path total s.maxFileSize)
  makeParents path
  HostAction.change (m.change path content)
  return successWith
    [("path", .str path), ("bytes", .nat content.length), ("size", .nat total)]

def listDir (args : Arguments) : HostAction Json := do
  let path ← HostAction.ofExcept (args.requireText 0 "path")
  let entries ← HostAction.look (·.list path)
  let sorted := entries.mergeSort fun a b => a.1 ≤ b.1
  let describe (e : String × Entry) : Json :=
    .object [("name", .str e.1), ("path", .str (Path.join path e.1)), ("is_dir", .bool e.2.isDir),
      ("size", .nat e.2.size)]
  return successWith
    [("path", .str path), ("count", .nat sorted.length), ("entries", .arr (sorted.map describe))]

def fileExists (args : Arguments) : HostAction Json := do
  let path ← HostAction.ofExcept (args.requireText 0 "path")
  let entry := ((← get).files.stat path).toOption
  return successWith
    [("exists", .bool entry.isSome), ("is_file", .bool (entry.any Entry.isFile)),
      ("is_dir", .bool (entry.any Entry.isDir))]

def deleteFile (s : Settings) (args : Arguments) : HostAction Json := do
  let path ← HostAction.ofExcept (args.requireText 0 "path")
  let options ← HostAction.ofExcept (args.optionalObject 1 "options")
  let recursive := ((options.getD []).lookup "recursive").bind Json.bool? |>.getD false
  let entry ← HostAction.look (·.stat path)
  if entry.isDir then
    if recursive then HostAction.changePartly (·.removeAll path)
    else HostAction.change (·.removeDir path)
  else if !s.allows path then HostAction.fail (typeRefused path)
  else HostAction.change (·.removeFile path)
  return successWith [("path", .str path)]

def makeDir (args : Arguments) : HostAction Json := do
  let path ← HostAction.ofExcept (args.requireText 0 "path")
  HostAction.changePartly (·.makeAllDirs path)
  return successWith [("path", .str path)]

/-- The most paths that a search answers with. -/
def maxMatches : Nat := 1000

/-- The paths of the regular files below a directory, each from the directory and in full. -/
def filesBelow (t : FileTree) (location : Location) (root : String) : List (String × String) :=
  (t.filesUnder location).map fun names =>
    let relative := "/".intercalate names
    (relative, Path.join root relative)

/-- Collects the full paths that satisfy a predicate in either form, in reverse onto `found`, and
stops at the first one beyond `maxMatches`. Says whether there is one. -/
def search (accepts : String → Bool) (found : List String) :
    List (String × String) → List String × Bool
  | [] => (found.reverse, false)
  | (relative, full) :: rest =>
    if accepts relative || accepts full then
      if found.length = maxMatches then (found.reverse, true)
      else search accepts (full :: found) rest
    else search accepts found rest

def findFiles (args : Arguments) : HostAction Json := do
  let root ← HostAction.ofExcept (args.requireText 0 "root")
  let pattern ← HostAction.ofExcept (args.requireText 1 "pattern")
  match ← HostAction.look (·.resolve root true) with
  | .free _ => throw (.io FileError.missing.toIo)
  | .found location entry =>
    if !entry.isDir then HostAction.fail (.invalidInput s!"{root} is not a directory")
    match Glob.ofPattern pattern with
    | .error e =>
      HostAction.fail (.invalidInput s!"invalid glob: error parsing glob '{pattern}': {e.message}")
    | .ok glob =>
      let (found, truncated) := search glob.accepts [] (filesBelow (← get).files location root)
      return successWith [("count", .nat found.length), ("matches", .arr (found.map .str)),
        ("truncated", .bool truncated)]

end ScriptSandbox.FileAccess
