import ScriptSandbox.Files.Kind
import ScriptSandbox.Host.FileAccess
import ScriptSandbox.Regex.Search

/-!
# Utility and system functions
-/

namespace ScriptSandbox.Utilities

/-- The time a sleep takes, in milliseconds. -/
def sleepTime (args : Arguments) : Except Failure Nat :=
  let usage : Failure := .invalidInput "sleep() expects a non-negative number of milliseconds"
  match args.get 0 with
  | .num n =>
    let x := n.toDouble
    if x.isNegative && !x.isZero then .error usage else .ok (Arguments.clampWord x)
  | _ => .error usage

def sleep (args : Arguments) : HostAction Json := do
  let time ← HostAction.ofExcept (sleepTime args)
  HostAction.pause time
  return successWith [("slept_ms", .nat time)]

def uuid : HostAction Json := do
  return successWith [("uuid", .str (← HostAction.chance Chance.identifier))]

def now : HostAction Json := do
  let moment := (← get).now
  return successWith [("iso", .str moment.iso), ("epoch_ms", .nat moment.milliseconds)]

def base64Encode (args : Arguments) : HostAction Json := do
  let text ← HostAction.ofExcept (args.requireAnyText 0 "text")
  return successWith [("result", .str (Base64.encodeText (Utf8.encode text)))]

def base64Decode (args : Arguments) : HostAction Json := do
  let text ← HostAction.ofExcept (args.requireAnyText 0 "text")
  match Base64.decodeText (Text.trim text) with
  | .ok bytes =>
    return successWith [("result", .str (Utf8.decodeLossy bytes)), ("bytes", .nat bytes.length)]
  | .error e =>
    let reason := e.message
    HostAction.fail (.invalidInput s!"invalid base64: {reason}")

/-- A number without its fraction, held within the signed words of 64 bits. -/
def bound (args : Arguments) (index : Nat) (name : String) : Except Failure Int :=
  match args.get index with
  | .num n => .ok (max (-0x8000000000000000) (min n.toDouble.truncate 0x7fffffffffffffff))
  | _ => .error (.invalidInput s!"'{name}' must be a number")

def randomInt (args : Arguments) : HostAction Json := do
  let low ← HostAction.ofExcept (bound args 0 "min")
  let high ← HostAction.ofExcept (bound args 1 "max")
  if high < low then
    HostAction.fail (.invalidInput s!"min ({low}) must not exceed max ({high})")
  return successWith [("value", .int (← HostAction.chance (·.between low high)))]

def regexTest (args : Arguments) : HostAction Json := do
  let pattern ← HostAction.ofExcept (args.requireText 0 "pattern")
  let text ← HostAction.ofExcept (args.requireAnyText 1 "text")
  match Regex.compile pattern with
  | .error e =>
    let reason := e.message pattern
    HostAction.fail (.invalidInput s!"invalid pattern: {reason}")
  | .ok re =>
    let found := Regex.allMatches re text
    return successWith [("matched", .bool !found.isEmpty), ("matches", .arr (found.map .str))]

def detectFileType {σ : Type} (r : FileReader σ) (args : Arguments) : HostAction Json := do
  let path ← HostAction.ofExcept (args.requireText 0 "path")
  let kind ← HostAction.look fun t => FileKind.ofPath r t path
  return successWith [("path", .str path), ("mime", .str kind.mime),
    ("extension", .str kind.extension), ("category", .str kind.category.name)]

def systemInfo : HostAction Json := do
  let m := (← get).machine
  let optional (s : Option String) : Json := (s.map Json.str).getD .null
  return successWith [("os", optional m.system), ("os_version", optional m.systemVersion),
    ("kernel_version", optional m.kernel), ("hostname", optional m.hostName),
    ("arch", .str m.architecture), ("cpus", .nat m.processors), ("total_memory", .nat m.memory),
    ("available_memory", .nat m.freeMemory), ("uptime_secs", .nat m.uptime)]

def settings (s : Settings) : HostAction Json :=
  return successWith [("default_timeout_ms", .nat s.scriptTimeout),
    ("http_timeout_ms", .nat s.httpTimeout), ("browser_timeout_ms", .nat s.browserTimeout),
    ("max_file_size", .nat s.maxFileSize), ("allowed_file_types", .arr (s.fileTypes.map .str)),
    ("headless", .bool s.headless), ("groups", .arr (s.features.map fun f => .str f.name))]

end ScriptSandbox.Utilities
