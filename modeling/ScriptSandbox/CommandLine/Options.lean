import ScriptSandbox.Settings.File
import ScriptSandbox.Settings.Environment

/-!
# Options

What a command line asks for. An argument is a word of its own, a switch, or an option with a value;
the value is attached to the option or is the next argument. Where an option is not given, a variable
of the environment can stand in for it.
-/

namespace ScriptSandbox.CommandLine

/-- The options that have values. -/
inductive Field
  | eval
  | timeout
  | config
  | logDir
deriving DecidableEq, Repr

namespace Field

def all : List Field := [.eval, .timeout, .config, .logDir]

def name : Field → String
  | .eval => "eval"
  | .timeout => "timeout-ms"
  | .config => "config"
  | .logDir => "log-dir"

/-- How help and complaints write the option. -/
def usage : Field → String
  | .eval => "--eval <EVAL>"
  | .timeout => "--timeout-ms <TIMEOUT_MS>"
  | .config => "--config <CONFIG>"
  | .logDir => "--log-dir <LOG_DIR>"

/-- The variable that stands in for the option. -/
def standIn? : Field → Option String
  | .eval => none
  | .timeout => some "SCRIPTBOX_TIMEOUT_MS"
  | .config => some "SCRIPTBOX_CONFIG"
  | .logDir => some "SCRIPTBOX_LOG_DIR"

/-- Whether the option can have this value. -/
def accepts : Field → String → Bool
  | .timeout, value => (Environment.word? value).isSome
  | .config, value => value != ""
  | .eval, _ | .logDir, _ => true

end Field

inductive Switch
  | without (f : Feature)
  /-- The window of the browser is shown. -/
  | headed
deriving DecidableEq, Repr

namespace Switch

def all : List Switch :=
  [.without .browser, .without .filesystem, .without .http, .without .documents,
    .without .images, .headed]

def name : Switch → String
  | .without .filesystem => "no-fs"
  | .without f => "no-" ++ f.name
  | .headed => "headed"

def apply (s : Settings) : Switch → Settings
  | .without f => s.switch f false
  | .headed => { s with headless := false }

end Switch

/-- What is wrong with a command line. -/
inductive Misuse
  | unexpected (argument : String)
  | missingValue (f : Field)
  | unneededValue (name : String)
  | repeated (name : String)
  | badValue (f : Field) (value : String)
  | badFile
  /-- There is both a file and a script in the line. -/
  | twoScripts
  | noScript
deriving DecidableEq, Repr

def Misuse.message : Misuse → String
  | .unexpected argument => "unexpected argument '" ++ argument ++ "' found"
  | .missingValue f =>
    "a value is required for '" ++ f.usage ++ "' but none was supplied"
  | .unneededValue name => "unexpected value for '--" ++ name ++ "' found; no more were expected"
  | .repeated name => "the argument '--" ++ name ++ "' cannot be used multiple times"
  | .badValue f value => "invalid value '" ++ value ++ "' for '" ++ f.usage ++ "'"
  | .badFile => "a value is required for '[FILE]' but none was supplied"
  | .twoScripts => "the argument '--eval <EVAL>' cannot be used with '[FILE]'"
  | .noScript => "the following required arguments were not provided: <FILE>"

/-- Why a command line is not followed. -/
inductive Stop
  | help
  | misuse (m : Misuse)
deriving DecidableEq, Repr

/-! ## Arguments -/

/-- What an argument is by itself. -/
inductive Word
  | plain (text : String)
  /-- All that follows is plain. -/
  | divider
  | help
  | switch (s : Switch)
  | field (f : Field) (attached : Option String)
  | wrong (m : Misuse)
deriving DecidableEq, Repr

namespace Word

def ofLong (argument name : String) (attached : Option String) : Word :=
  match Field.all.find? (·.name == name), Switch.all.find? (·.name == name), attached with
  | some f, _, _ => .field f attached
  | none, some s, none => .switch s
  | none, some _, some _ => .wrong (.unneededValue name)
  | none, none, none => if name == "help" then .help else .wrong (.unexpected argument)
  | none, none, some _ =>
    .wrong (if name == "help" then .unneededValue name else .unexpected argument)

/-- Splits a text at its first equals sign. -/
def splitValue (cs : List Char) : String × Option String :=
  let rest := cs.dropWhile (· != '=')
  (String.ofList (cs.takeWhile (· != '=')),
    if rest.isEmpty then none else some (String.ofList (rest.drop 1)))

def ofArgument (argument : String) : Word :=
  match argument.toList with
  | ['-', '-'] => .divider
  | '-' :: '-' :: rest =>
    let (name, attached) := splitValue rest
    ofLong argument name attached
  | '-' :: 'e' :: rest =>
    .field .eval
      (match rest with
      | [] => none
      | '=' :: value => some (String.ofList value)
      | value => some (String.ofList value))
  | '-' :: 'h' :: _ => .help
  | '-' :: _ :: _ => .wrong (.unexpected argument)
  | _ => .plain argument

end Word

/-- What has been given so far. -/
structure Given where
  file : Option String := none
  values : List (Field × String) := []
  switches : List Switch := []
deriving DecidableEq, Repr

namespace Given

def putFile (g : Given) (path : String) : Except Stop Given :=
  if g.file.isSome then .error (.misuse (.unexpected path))
  else if path == "" then .error (.misuse .badFile)
  else .ok { g with file := some path }

def putValue (g : Given) (f : Field) (value : String) : Except Stop Given :=
  if (g.values.lookup f).isSome then .error (.misuse (.repeated f.name))
  else if !f.accepts value then .error (.misuse (.badValue f value))
  else .ok { g with values := g.values ++ [(f, value)] }

def putSwitch (g : Given) (s : Switch) : Except Stop Given :=
  if g.switches.contains s then .error (.misuse (.repeated s.name))
  else .ok { g with switches := g.switches ++ [s] }

/-- Takes arguments up to the first that cannot be taken. -/
def take (g : Given) : List String → Except Stop Given
  | [] => .ok g
  | argument :: rest =>
    match Word.ofArgument argument with
    | .divider => rest.foldlM putFile g
    | .help => .error .help
    | .wrong m => .error (.misuse m)
    | .plain text => do (← g.putFile text).take rest
    | .switch s => do (← g.putSwitch s).take rest
    | .field f (some value) => do (← g.putValue f value).take rest
    | .field f none =>
      match rest with
      | [] => .error (.misuse (.missingValue f))
      | value :: rest =>
        match Word.ofArgument value with
        | .plain value => do (← g.putValue f value).take rest
        | _ => .error (.misuse (.missingValue f))

/-- Takes what the environment says where nothing else has been given. -/
def standIn (vars : Environment.Variables) (g : Given) (f : Field) : Except Stop Given :=
  match f.standIn?.bind (vars.lookup ·) with
  | some value => if (g.values.lookup f).isSome then .ok g else g.putValue f value
  | none => .ok g

end Given

/-! ## Options -/

inductive Script
  | file (path : String)
  | source (text : String)
deriving DecidableEq, Repr

structure Options where
  script : Script
  /-- The milliseconds for the script; zero stands for what the settings say. -/
  timeout : Nat
  settingsFile : Option String
  logDir : Option String
  switches : List Switch
deriving DecidableEq, Repr

def Given.script (g : Given) : Except Stop Script :=
  match g.values.lookup .eval, g.file with
  | some _, some _ => .error (.misuse .twoScripts)
  | some text, none => .ok (.source text)
  | none, some path => .ok (.file path)
  | none, none => .error (.misuse .noScript)

namespace Options

def read (arguments : List String) (vars : Environment.Variables) : Except Stop Options := do
  let given ← Given.take {} arguments
  let given ← Field.all.foldlM (Given.standIn vars) given
  let script ← given.script
  return {
    script
    timeout := ((given.values.lookup .timeout).bind Environment.word?).getD 0
    settingsFile := given.values.lookup .config
    logDir := given.values.lookup .logDir
    switches := given.switches }

/-- The settings: those of the file, then the environment, then the switches. -/
def settings (o : Options) (vars : Environment.Variables) (files : FileTree) :
    Except String Settings := do
  let fromFile ← match o.settingsFile with
    | some path => (SettingsFile.load files path).map (·.apply {})
    | none => pure {}
  let layer ← Environment.layer vars
  return o.switches.foldl Switch.apply (layer.apply fromFile)

/-- The source of the script. -/
def source (o : Options) (files : FileTree) : Except String String :=
  match o.script with
  | .source text => .ok text
  | .file path =>
    match files.readText path with
    | .ok text => .ok text
    | .error e =>
      .error ("Failed to read script " ++ path ++ "\n\nCaused by:\n    " ++ e.message)

end Options

end ScriptSandbox.CommandLine
