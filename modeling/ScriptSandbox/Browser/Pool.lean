import ScriptSandbox.Browser.Line
import ScriptSandbox.Browser.Page
import ScriptSandbox.Failure

/-!
# The pool

A pool owns the one browser process that all sessions share. The process starts when it is first
asked for. Starting and stopping happen in one line, so that no two tasks do so at once; a task that
finds the process running does not enter the line.

`Acquire` and `Teardown` are the places at which a task can be in its dealings with the pool, and
`step` takes it from one to the next. A step reads or writes one thing, so that the steps of several
tasks can come in any order.
-/

namespace ScriptSandbox

abbrev ProcessId := Nat

structure Pool where
  options : LaunchOptions
  line : Line := []
  /-- Whether a process is said to run. -/
  running : Bool := false
  stored : Option ProcessId := none
  /-- How many processes have been started so far. -/
  started : Nat := 0
  /-- The processes that have been told to stop. -/
  stopped : List ProcessId := []
  /-- Whether nothing may be started any more. -/
  cancelled : Bool := false
deriving DecidableEq, Repr

/-- What a pool asks of the outside. -/
inductive PoolRequest
  | launch (o : LaunchOptions)
  | shutDown (p : ProcessId)
deriving DecidableEq, Repr

namespace Pool

def shutDownFailure : Failure := .cancelled "browser pool has been shut down"

/-- Whether a process has been told to stop. -/
def isStopped (p : Pool) (process : ProcessId) : Bool :=
  p.cancelled || p.stopped.contains process

def leave (p : Pool) (i : TaskId) : Pool := { p with line := p.line.leave i }

end Pool

/-- What a move of a task does to the pool. -/
structure PoolMove (α : Type) where
  pool : Pool
  place : α
  request : Option PoolRequest := none

inductive Acquire
  | looking
  /-- A process was said to run; which one is still to be read. -/
  | reading
  | arriving
  | queued
  /-- The task has the line to itself and looks again. -/
  | lookingAgain
  | readingAgain
  /-- No process runs. Whether one may still be started is to be seen. -/
  | checking
  | starting
  | launching
  | storing (p : ProcessId)
  | announcing (p : ProcessId)
  /-- The result is there, and the line is still to be left. -/
  | leaving (r : Except Failure ProcessId)
  | done (r : Except Failure ProcessId)

namespace Acquire

/-- Whether the task waits for something, so that it can be broken off. -/
def waits : Acquire → Bool
  | .queued | .launching => true
  | _ => false

def step (i : TaskId) (p : Pool) : Acquire → Option (PoolMove Acquire)
  | .looking => some { pool := p, place := if p.running then .reading else .arriving }
  | .reading =>
    match p.stored with
    | some process => some { pool := p, place := .done (.ok process) }
    | none => some { pool := p, place := .arriving }
  | .arriving => some { pool := { p with line := p.line.join i }, place := .queued }
  | .queued => if p.line.serves i then some { pool := p, place := .lookingAgain } else none
  | .lookingAgain => some { pool := p, place := if p.running then .readingAgain else .checking }
  | .readingAgain =>
    match p.stored with
    | some process => some { pool := p, place := .leaving (.ok process) }
    | none => some { pool := p, place := .checking }
  | .checking =>
    some
      { pool := p
        place := if p.cancelled then .leaving (.error Pool.shutDownFailure) else .starting }
  | .starting => some { pool := p, place := .launching, request := some (.launch p.options) }
  | .launching => none
  | .storing process =>
    some { pool := { p with stored := some process }, place := .announcing process }
  | .announcing process =>
    some { pool := { p with running := true }, place := .leaving (.ok process) }
  | .leaving r => some { pool := p.leave i, place := .done r }
  | .done _ => none

/-- The launch that a task waits for has come to an end. -/
def launched (p : Pool) : Except Failure Unit → PoolMove Acquire
  | .ok () => { pool := { p with started := p.started + 1 }, place := .storing p.started }
  | .error f => { pool := p, place := .leaving (.error f) }

end Acquire

inductive Teardown
  | arriving
  | queued
  /-- The task has the line to itself. -/
  | clearing
  | taking
  /-- A process has been taken. Its token is still to be cancelled. -/
  | cancelling (p : ProcessId)
  | calling (p : ProcessId)
  | stopping (p : ProcessId)
  | leaving
  | done
deriving DecidableEq, Repr

namespace Teardown

/-- Whether the task waits for something, so that it can be broken off. -/
def waits : Teardown → Bool
  | .queued | .stopping _ => true
  | _ => false

def step (i : TaskId) (p : Pool) : Teardown → Option (PoolMove Teardown)
  | .arriving => some { pool := { p with line := p.line.join i }, place := .queued }
  | .queued => if p.line.serves i then some { pool := p, place := .clearing } else none
  | .clearing => some { pool := { p with running := false }, place := .taking }
  | .taking =>
    match p.stored with
    | some process => some { pool := { p with stored := none }, place := .cancelling process }
    | none => some { pool := p, place := .leaving }
  | .cancelling process =>
    some { pool := { p with stopped := process :: p.stopped }, place := .calling process }
  | .calling process =>
    some { pool := p, place := .stopping process, request := some (.shutDown process) }
  | .stopping _ => none
  | .leaving => some { pool := p.leave i, place := .done }
  | .done => none

/-- The shutdown that a task waits for has come to an end. -/
def ended (p : Pool) : PoolMove Teardown := { pool := p, place := .leaving }

end Teardown

end ScriptSandbox
