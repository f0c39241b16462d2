import ScriptSandbox.Json.Basic

/-!
# Failures

A failure has a code and a message. A host function may also end with a bare input or output
error, some other error or a panic; `HostError.toFailure` is what the guest is told of each.
-/

namespace ScriptSandbox

inductive Code
  | timeout
  | invalidInput
  | fileNotFound
  | http
  | filesystem
  | browser
  | document
  | image
  | system
  | execution
  | cancelled
  | unknown
deriving DecidableEq, Repr, Inhabited

namespace Code

def all : List Code :=
  [.timeout, .invalidInput, .fileNotFound, .http, .filesystem, .browser, .document, .image, .system,
    .execution, .cancelled, .unknown]

def name : Code → String
  | .timeout => "TIMEOUT"
  | .invalidInput => "INVALID_INPUT"
  | .fileNotFound => "FILE_NOT_FOUND"
  | .http => "HTTP_ERROR"
  | .filesystem => "FILESYSTEM_ERROR"
  | .browser => "BROWSER_ERROR"
  | .document => "DOCUMENT_ERROR"
  | .image => "IMAGE_ERROR"
  | .system => "SYSTEM_ERROR"
  | .execution => "EXECUTION_ERROR"
  | .cancelled => "CANCELLED"
  | .unknown => "UNKNOWN"

def ofName? (name : String) : Option Code := all.find? (·.name == name)

end Code

structure Failure where
  code : Code
  message : String
  /-- Whether another error is behind this one. -/
  caused : Bool := false
deriving DecidableEq, Repr, Inhabited

namespace Failure

def invalidInput (message : String) : Failure := { code := .invalidInput, message }

def browser (message : String) : Failure := { code := .browser, message }

def cancelled (message : String) : Failure := { code := .cancelled, message }

def sessionClosedText : String := "browser session is closed"

def sessionClosed : Failure := browser sessionClosedText

/-- The deadline of a script ran out after `ms` milliseconds. -/
def timedOut (ms : Nat) : Failure :=
  { code := .timeout
    message := s!"script did not finish within {ms}ms; evaluation continues in the background" }

def isTimedOut (f : Failure) : Bool := f.code == .timeout

def isSessionClosed (f : Failure) : Bool := f.code == .browser && f.message == sessionClosedText

def display (f : Failure) : String := f.code.name ++ ": " ++ f.message

/-- A failure as the guest sees it. -/
def toJson (f : Failure) : Json :=
  .object [("success", .bool false), ("error", .str f.message), ("code", .str f.code.name)]

end Failure

/-- The kinds of input and output errors that are told apart. -/
inductive IoKind
  | notFound
  | other
deriving DecidableEq, Repr, Inhabited

def IoKind.code : IoKind → Code
  | .notFound => .fileNotFound
  | .other => .filesystem

/-- An error of the operating system. -/
structure IoError where
  kind : IoKind
  message : String
deriving DecidableEq, Repr, Inhabited

def IoError.toFailure (e : IoError) : Failure :=
  { code := e.kind.code, message := e.message, caused := true }

/-- How a host function fails. -/
inductive HostError
  | failure (f : Failure)
  | io (e : IoError)
  | other (message : String)
  /-- The function broke off. -/
  | panic
deriving DecidableEq, Repr, Inhabited

/-- The failure that a call of the function `name` ends with. -/
def HostError.toFailure (name : String) : HostError → Failure
  | .failure f => f
  | .io e => e.toFailure
  | .other message => { code := .unknown, message }
  | .panic => { code := .system, message := name ++ " failed unexpectedly" }

instance : Coe Failure HostError := ⟨.failure⟩

instance : Coe IoError HostError := ⟨.io⟩

/-- What a call of a host function ends with. -/
abbrev HostResult := Except HostError Json

/-- The value of a call that succeeds: an object says so itself, and another value is its field
`value`. -/
def success : Json → Json
  | .obj fields => .obj (Json.insertField "success" (.bool true) fields)
  | .null => .object [("success", .bool true)]
  | value => .object [("value", value), ("success", .bool true)]

def successWith (fields : List (String × Json)) : Json := success (.object fields)

/-- The value of a call, as the guest gets it. -/
def HostResult.toJson (name : String) : HostResult → Json
  | .ok value => value
  | .error e => (e.toFailure name).toJson

end ScriptSandbox
