import ScriptSandbox.Browser.Executable
import ScriptSandbox.CommandLine.Options
import ScriptSandbox.Files.LogRotation
import ScriptSandbox.Sandbox.Play

/-!
# Runs

A run does what a command line asks for: it makes a sandbox, runs one script in it, closes it, and
reports what came of it. The help is a text that explains the command line: its options in one
column, what they mean in a second.
-/

/-! ## Help -/

namespace ScriptSandbox.CommandLine.Help

/-- A line of the list of options. -/
structure Line where
  label : String
  meaning : String

def spaces (n : Nat) : String := String.ofList (List.replicate n ' ')

/-- A variable of the environment, with what it says. -/
def variableNote (vars : Environment.Variables) (name : String) : String :=
  " [env: " ++ name ++ "=" ++ (vars.lookup name).getD "" ++ "]"

def fieldNote (vars : Environment.Variables) (f : Field) : String :=
  ((f.standIn?.map (variableNote vars)).getD "") ++
    (if f = .timeout then " [default: 0]" else "")

def fieldMeaning : Field → String
  | .eval => "Inline script source"
  | .timeout => "Deadline in milliseconds; 0 uses the configured default"
  | .config => "JSON config file"
  | .logDir => "Also write logs to this directory"

def fieldLine (vars : Environment.Variables) (f : Field) : Line :=
  { label := (if f = .eval then "-e, " else spaces 4) ++ f.usage
    meaning := fieldMeaning f ++ fieldNote vars f }

def switchLine (s : Switch) : Line :=
  { label := spaces 4 ++ "--" ++ s.name
    meaning := if s = .headed then "Show the browser window" else "" }

def lines (vars : Environment.Variables) : List Line :=
  [fieldLine vars .eval, fieldLine vars .timeout, fieldLine vars .config] ++
    Switch.all.map switchLine ++
    [fieldLine vars .logDir, { label := "-h, --help", meaning := "Print help" }]

def widest (ls : List Line) : Nat := ls.foldl (fun n l => max n l.label.length) 0

def lineText (width : Nat) (l : Line) : String :=
  "  " ++ l.label ++ spaces (width + 2 - l.label.length) ++ l.meaning ++ "\n"

def text (vars : Environment.Variables) : String :=
  let ls := lines vars
  "Run a JavaScript file inside a capability sandbox\n\n" ++
    "Usage: scriptbox [OPTIONS] [FILE]\n\n" ++
    "Arguments:\n  [FILE]  Script file to run\n\n" ++
    "Options:\n" ++ String.join (ls.map (lineText (widest ls)))

end ScriptSandbox.CommandLine.Help

/-! ## Runs -/

namespace ScriptSandbox.CommandLine

/-- What a run leaves behind. -/
structure Report where
  exitCode : Nat
  output : String := ""
  /-- What is said on the error channel of a run that does not get as far as its script. -/
  complaint : Option String := none
  files : FileTree

/-! ## Logs -/

def service : String := "scriptbox"

/-- Opens the log in a directory, after the one that is there has been moved aside. Where nothing
can be written there is no log. -/
def openLog (files : FileTree) (directory : String) (now : Moment) : FileTree :=
  match files.makeAllDirs directory with
  | (files, .error _) => files
  | (files, .ok ()) =>
    let probe := directory ++ "/.test_write"
    match files.write probe [] with
    | .error _ => files
    | .ok files =>
      let files := (files.removeFile probe).toOption.getD files
      let files := (LogRotation.rotate files directory service now.stamp).toOption.getD files
      let log := Path.join directory (service ++ ".log." ++ now.dateText)
      (files.append log []).toOption.getD files

/-! ## Runs -/

/-- The result of a script, as it is printed. -/
def resultJson : JobResult → Json
  | .ok v => .object [("success", .bool true), ("value", v.getD .null)]
  | .error f =>
    .object [("code", .str f.code.name), ("error", .str f.message), ("success", .bool false)]

def died (files : FileTree) (reason : String) : Report :=
  { exitCode := 1, complaint := some ("Error: " ++ reason), files }

/-- Runs a script in a new sandbox. -/
def runScript (settings : Settings) (source : String) (timeout : Nat)
    (vars : Environment.Variables) (w : Surroundings) (interruptions : List Interruption) :
    Report :=
  match Sandbox.create true settings w (Executable.rehearsal vars w.files) with
  | .error f => died w.files f.display
  | .ok sandbox =>
    let (p, result) : Play × JobResult :=
      match sandbox.runWithDeadline source timeout with
      | (sandbox, .error f) => ({ sandbox, interruptions }, .error f)
      | (sandbox, .ok awaited) =>
        let (p, result) := Play.finish { sandbox, interruptions } awaited
        (p, result.getD (.error (.timedOut timeout)))
    { exitCode := if result.isOk then 0 else 1
      output := (resultJson result).pretty ++ "\n"
      files := p.close.sandbox.host.stage.files }

def run (arguments : List String) (vars : Environment.Variables) (w : Surroundings)
    (interruptions : List Interruption) : Report :=
  match Options.read arguments vars with
  | .error .help => { exitCode := 0, output := Help.text vars, files := w.files }
  | .error (.misuse m) =>
    { exitCode := 2, complaint := some ("error: " ++ m.message), files := w.files }
  | .ok o =>
    let files := match o.logDir with
      | some directory => openLog w.files directory w.now
      | none => w.files
    match o.settings vars files, o.source files with
    | .error e, _ | .ok _, .error e => died files e
    | .ok settings, .ok source =>
      runScript settings source o.timeout vars { w with files } interruptions

end ScriptSandbox.CommandLine
