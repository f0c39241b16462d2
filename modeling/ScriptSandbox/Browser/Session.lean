import ScriptSandbox.Browser.Pool
import ScriptSandbox.Browser.Work

/-!
# Sessions

A session has one page, opened when an operation first needs it, and a lifetime. Operations take
their turns in the line of the session. Once a session is closed, by a call or because its time is
over, it stays closed.
-/

namespace ScriptSandbox

abbrev PageId := Nat

abbrev SessionId := Nat

inductive SessionState
  | created
  | active
  | closed
deriving DecidableEq, Repr

def SessionState.name : SessionState → String
  | .created => "created"
  | .active => "active"
  | .closed => "closed"

structure Session where
  /-- The name under which messages speak of the session. -/
  label : String
  options : SessionOptions
  deadline : Nat
  line : Line := []
  page : Option PageId := none
  /-- Whether a page has been opened. -/
  active : Bool := false
  closed : Bool := false
  cancelled : Bool := false

namespace Session

def opened (label : String) (options : SessionOptions) (now : Nat) : Session :=
  { label, options, deadline := now + options.lifetime }

/-- Whether the session or the pool it belongs to has been cancelled. -/
def isCancelled (s : Session) (p : Pool) : Bool := s.cancelled || p.cancelled

def isClosed (s : Session) (p : Pool) : Bool := s.closed || s.isCancelled p

def state (s : Session) (p : Pool) : SessionState :=
  if s.isClosed p then .closed else if s.active then .active else .created

/-- Ends the session without looking after its page. -/
def expire (s : Session) : Session := { s with closed := true, cancelled := true }

/-- Whether the session can be used. One that is found to be past its deadline is closed. -/
def ensureOpen (s : Session) (p : Pool) (now : Nat) : Session × Except Failure Unit :=
  if s.isClosed p then (s, .error .sessionClosed)
  else if s.deadline ≤ now then (s.expire, .error .sessionClosed)
  else (s, .ok ())

def lifetimeFailure (s : Session) : Failure :=
  { code := .timeout, message := s!"browser session {s.label} exceeded its lifetime" }

/-- What ends an operation from outside, if anything does: first that the session is cancelled,
then that its time is over. -/
def interruption (s : Session) (p : Pool) (now : Nat) : Option (Session × Failure) :=
  if s.isCancelled p then some (s, .sessionClosed)
  else if s.deadline ≤ now then some (s.expire, s.lifetimeFailure)
  else none

def leave (s : Session) (i : TaskId) : Session := { s with line := s.line.leave i }

end Session

/-- How long the close of a page may take. -/
def closeLimit : Nat := 5000

/-- What is still to be done for an operation. -/
abbrev Rest := PageTask (Except Failure Report)

/-- The places at which an operation can be. -/
inductive Progress
  | queued (op : Operation)
  | acquiring (op : Operation) (a : Acquire)
  | opening (op : Operation) (process : ProcessId)
  /-- The next part of the task is to be taken up. The page is absent where none is needed. -/
  | acting (page : Option PageId) (rest : Rest)
  | asking (page : PageId) (c : PageCall) (next : Except Failure c.Answer → Rest)
  | askingUntil (deadline : Nat) (page : PageId) (c : PageCall)
      (next : Option (Except Failure c.Answer) → Rest)
  | pausing (deadline : Nat) (page : Option PageId) (rest : Rest)
  | saving (page : Option PageId) (path : String) (content : List UInt8)
      (next : Except Failure Nat → Rest)
  | done (r : Except Failure Report)

/-- Whether an operation waits for something, so that it can be broken off. -/
def Progress.waits : Progress → Bool
  | .acquiring _ a => a.waits
  | .acting _ _ | .done _ => false
  | _ => true

/-- The places at which a close can be. -/
inductive Closing
  | queued
  | closingPage (deadline : Nat) (page : PageId)
  | done
deriving DecidableEq, Repr

def Closing.waits : Closing → Bool
  | .queued | .closingPage _ _ => true
  | .done => false

end ScriptSandbox
