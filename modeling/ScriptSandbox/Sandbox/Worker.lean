import ScriptSandbox.Sandbox.HostSide
import ScriptSandbox.Sandbox.Scratch

/-!
# The worker

A job is what a caller asks of a sandbox, and it comes to what the caller gets: the value of a script,
nothing of note for an assignment, and for a global that is read its value, if it exists.

A worker has the realm of a sandbox to itself. It does jobs one at a time, in the order in which
they were accepted, and each goes on to its end whether or not somebody still waits for it.
-/

namespace ScriptSandbox

open Guest

/-! ## Jobs -/

inductive Job
  | eval (source : String)
  /-- The slot is the name of the scratch. -/
  | scoped (source : String) (vars : List (String × Json)) (slot : String)
  | set (name : String) (value : Json)
  | get (name : String)
deriving DecidableEq

abbrev JobResult := Except Failure (Option Json)

namespace Job

def setChecked (name : String) (value : Json) : GuestAction JobResult := do
  if Text.isBlankText name then
    return .error (.invalidInput "global name must not be empty")
  return (← setGlobal name value).map fun _ => some .null

def action : Job → GuestAction JobResult
  | .eval source => return (← evaluate source).map some
  | .scoped source vars slot => return (← Scratch.evaluateWith evaluate slot source vars).map some
  | .set name value => setChecked name value
  | .get name => getGlobal name

end Job

/-! ## The worker -/

/-- The number of a job among those that have been accepted. -/
abbrev Ticket := Nat

/-- The end that a job has come to. -/
structure Outcome where
  ticket : Ticket
  moment : Nat
  result : JobResult

/-- What a worker is at. -/
inductive Activity
  | idle
  /-- A job waits for the answer of a call, and goes on with it. -/
  | calling (ticket : Ticket) (u : Underway)
      (next : Value → Realm → GuestTask (JobResult × Realm))
  /-- A job never ends. -/
  | lost (ticket : Ticket)

structure Worker where
  realm : Realm
  /-- How many jobs have been accepted so far. -/
  accepted : Nat := 0
  queue : List (Ticket × Job) := []
  activity : Activity := .idle
  /-- The ends of the jobs, the last first. -/
  outcomes : List Outcome := []

namespace Worker

def accept (w : Worker) (j : Job) : Worker × Ticket :=
  ({ w with accepted := w.accepted + 1, queue := w.queue ++ [(w.accepted, j)] }, w.accepted)

/-- The call that the job at hand waits for. -/
def underway (w : Worker) : Option Underway :=
  match w.activity with
  | .calling _ u _ => some u
  | _ => none

/-- Takes a job as far as it gets without the host: to its end, or to its next call, which is
begun. -/
def takeUp (w : Worker) (h : HostSide) (ticket : Ticket) :
    GuestTask (JobResult × Realm) → HostSide × Worker
  | .done (result, realm) =>
    let outcome := { ticket, moment := h.now, result }
    (h, { w with realm, activity := .idle, outcomes := outcome :: w.outcomes })
  | .call f args realm next =>
    let (h, u) := h.begin f args
    (h, { w with realm, activity := .calling ticket u next })
  | .endless => (h, { w with activity := .lost ticket })

/-- What a worker can take up now: the next job, or the one at hand with the answer that it has
waited for. -/
def ready (w : Worker) (h : HostSide) :
    Option (HostSide × Worker × Ticket × GuestTask (JobResult × Realm)) :=
  match w.activity with
  | .idle =>
    match w.queue with
    | [] => none
    | (ticket, job) :: queue => some (h, { w with queue }, ticket, job.action w.realm)
  | .calling ticket u next =>
    match h.poll u with
    | (h, some a) =>
      let (h, realm, v) := h.deliver w.realm a
      some (h, w, ticket, next v realm)
    | (_, none) => none
  | .lost _ => none

/-- One move of a worker. -/
def step (w : Worker) (h : HostSide) : Option (HostSide × Worker) :=
  (w.ready h).map fun (h, w, ticket, task) => w.takeUp h ticket task

/-- The result of a job, once it has come to its end. -/
def result? (w : Worker) (ticket : Ticket) : Option JobResult :=
  (w.outcomes.find? (·.ticket == ticket)).map Outcome.result

end Worker

end ScriptSandbox
