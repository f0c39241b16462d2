import ScriptSandbox.Sandbox.Worker

/-!
# Sandboxes

A sandbox is a worker and the host's side of its realm. It changes by `Event`s: a job is handed in,
the worker or a task behind it makes a move, the scope is cancelled, time passes. A caller who waits
for a job changes nothing; what it learns, and when, follows from the state alone (`learns`).
-/

namespace ScriptSandbox

open Guest

/-- The places at which a call that closes a sandbox can be. -/
inductive CloseCall
  | arriving
  /-- No call was there before, so this one does the work. -/
  | cancelling
  /-- The call waits for a task that stops the browser. -/
  | stopping (i : TaskId)
  | releasing
  /-- The call has returned; `first` says whether it did the work. -/
  | done (first : Bool)
deriving DecidableEq, Repr

structure Sandbox where
  id : String
  host : HostSide
  worker : Worker
  /-- The names of the groups that were installed, in order. -/
  groups : List String
  closed : Bool := false
  /-- Whether the worker still takes jobs. -/
  hasWorker : Bool := true
  closings : List CloseCall := []

/-- How long a caller waits, and until when. -/
structure Deadline where
  limit : Nat
  moment : Nat
deriving DecidableEq, Repr

/-- A job that a caller waits for. -/
structure Awaited where
  ticket : Ticket
  deadline : Option Deadline
deriving DecidableEq, Repr

namespace Sandbox

/-- A new sandbox. There must be something that its tasks can run on. -/
def create (canRun : Bool) (settings : Settings) (surroundings : Surroundings)
    (rehearsal : Rehearsal) : Except Failure Sandbox :=
  if !canRun then
    .error
      { code := .system
        message := "sandbox needs a Tokio runtime: there is no reactor running, " ++
          "must be called from the context of a Tokio 1.x runtime" }
  else
    let (id, chance) := surroundings.chance.identifier
    let host := HostSide.start settings settings.browser { surroundings with chance } rehearsal
    match host.installAll Realm.fresh with
    | (_, _, .error f) => .error f
    | (host, realm, .ok groups) => .ok { id, host, worker := { realm }, groups }

def now (s : Sandbox) : Nat := s.host.now

def isClosed (s : Sandbox) : Bool := s.closed || s.host.isCancelled

def cancel (s : Sandbox) : Sandbox := { s with host := s.host.cancel }

/-! ## Jobs -/

def closedFailure : Failure := .cancelled "sandbox is closed"

def closedMeanwhile : Failure := .cancelled "sandbox closed while the script was running"

/-- Leaves a job with the worker, as long as that takes any. -/
def handIn (s : Sandbox) (j : Job) : Sandbox × Except Failure Ticket :=
  if s.hasWorker then
    let (worker, ticket) := s.worker.accept j
    ({ s with worker }, .ok ticket)
  else (s, .error closedFailure)

/-- Hands a job in. A closed sandbox takes none. -/
def submit (s : Sandbox) (j : Job) : Sandbox × Except Failure Ticket :=
  if s.isClosed then (s, .error closedFailure) else s.handIn j

/-- The deadline of a caller who is ready to wait so long; zero stands for what the settings say. -/
def deadline (s : Sandbox) (limit : Nat) : Deadline :=
  let limit := if limit = 0 then s.host.settings.scriptTimeout else limit
  { limit, moment := s.now + limit }

/-- Hands a job in and waits for it, up to a limit if there is one. -/
def await (s : Sandbox) (j : Job) (limit : Option Nat) : Sandbox × Except Failure Awaited :=
  let (after, r) := s.submit j
  (after, r.map fun ticket => { ticket, deadline := limit.map s.deadline })

def run (s : Sandbox) (source : String) : Sandbox × Except Failure Awaited :=
  s.await (.eval source) none

def runWithDeadline (s : Sandbox) (source : String) (limit : Nat) :
    Sandbox × Except Failure Awaited :=
  s.await (.eval source) (some limit)

/-- Runs a script with variables. Its scratch gets a name that nobody can guess. -/
def runScoped (s : Sandbox) (source : String) (vars : List (String × Json)) (limit : Nat) :
    Sandbox × Except Failure Awaited :=
  let (label, chance) := s.host.surroundings.chance.identifier
  let host := { s.host with surroundings := { s.host.surroundings with chance } }
  { s with host }.await (.scoped source vars (Scratch.slotName label)) (some limit)

def set (s : Sandbox) (name : String) (value : Json) : Sandbox × Except Failure Awaited :=
  s.await (.set name value) none

def get (s : Sandbox) (name : String) : Sandbox × Except Failure Awaited :=
  s.await (.get name) none

/-- What a caller learns now, if anything: first that the scope is cancelled, then the result of
its job, then that its time is over. -/
def learns (s : Sandbox) (a : Awaited) : Option JobResult :=
  if s.host.isCancelled then some (.error closedMeanwhile)
  else
    match s.worker.result? a.ticket, a.deadline with
    | some r, _ => some r
    | none, some d => if d.moment ≤ s.now then some (.error (.timedOut d.limit)) else none
    | none, none => none

/-! ## Closing -/

def putClosing (s : Sandbox) (k : Nat) (c : CloseCall) : Sandbox :=
  { s with closings := s.closings.set k c }

def beginClose (s : Sandbox) : Sandbox × Nat :=
  ({ s with closings := s.closings ++ [.arriving] }, s.closings.length)

/-- Begins to stop the browser, if there is one. -/
def stopBrowser (s : Sandbox) (k : Nat) : Sandbox :=
  if s.host.hasPool then
    let (scene, i) := s.host.stage.scene.beginTeardown
    let stage := { s.host.stage with scene, background := s.host.stage.background ++ [i] }
    { s with host := { s.host with stage } }.putClosing k (.stopping i)
  else s.putClosing k .releasing

/-- The sandbox after a call that closes it has moved on, where it can. All work is cancelled before
the browser is stopped. A second call has nothing to do. -/
def stepClose (s : Sandbox) (k : Nat) : Option Sandbox :=
  match s.closings[k]? with
  | some .arriving =>
    if s.closed then some (s.putClosing k (.done false))
    else some ({ s with closed := true }.putClosing k .cancelling)
  | some .cancelling => some (s.cancel.stopBrowser k)
  | some (.stopping i) =>
    if s.host.stage.hasTornDown i then some (s.putClosing k .releasing) else none
  | some .releasing => some ({ s with hasWorker := false }.putClosing k (.done true))
  | some (.done _) | none => none

/-- Moves a call that closes the sandbox as far as it can go; it has five places at most. -/
def advanceClose (s : Sandbox) (k : Nat) : Sandbox :=
  let move (s : Sandbox) : Sandbox := (s.stepClose k).getD s
  move (move (move (move s)))

/-! ## Events -/

/-- The worker makes a move, where it can. -/
def work (s : Sandbox) : Option Sandbox :=
  (s.worker.step s.host).map fun (host, worker) => { s with host, worker }

/-- What goes on behind the worker moves as far as it can. -/
def moveHost (s : Sandbox) : Sandbox × Bool :=
  let (host, moved) := s.host.move s.worker.underway
  ({ s with host }, moved)

def passTo (s : Sandbox) (moment : Nat) : Sandbox := { s with host := s.host.passTo moment }

inductive Event
  | submit (j : Job)
  | work
  | moveHost
  | cancel
  | beginClose
  | stepClose (k : Nat)
  /-- Something happens in the browser, whoever is behind it. -/
  | browser (e : Scene.Event)
  | pass (milliseconds : Nat)

def apply (s : Sandbox) : Event → Sandbox
  | .submit j => (s.submit j).1
  | .work => s.work.getD s
  | .moveHost => s.moveHost.1
  | .cancel => s.cancel
  | .beginClose => s.beginClose.1
  | .stepClose k => (s.stepClose k).getD s
  | .browser e =>
    { s with host := { s.host with
        stage := { s.host.stage with scene := s.host.stage.scene.apply e } } }
  | .pass ms => s.passTo (s.now + ms)

def follow (s : Sandbox) (events : List Event) : Sandbox := events.foldl apply s

end Sandbox

end ScriptSandbox
