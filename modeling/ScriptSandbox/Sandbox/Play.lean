import ScriptSandbox.Sandbox.Basic

/-!
# Sandboxes on a clock

A play takes a sandbox through time, on a clock of whole milliseconds, until a caller has what it
waits for. At each moment the worker and what goes on behind it move as far as they can; then time
passes up to the next moment at which something can happen.
-/

namespace ScriptSandbox

/-- What cancels a sandbox from outside. -/
inductive Interruption
  | clock (moment : Nat)
  /-- A file that comes to exist. -/
  | file (path : String)

structure Play where
  sandbox : Sandbox
  interruptions : List Interruption := []

namespace Play

/-- The most moves at one moment. -/
def haste : Nat := 100000

/-- The most moments. -/
def endurance : Nat := 1000000

def now (p : Play) : Nat := p.sandbox.now

/-- Cancels the sandbox if its moment has come. -/
def ring (p : Play) : Play :=
  let due := p.interruptions.any fun
    | .clock moment => moment ≤ p.now
    | .file _ => false
  if due then { p with sandbox := p.sandbox.cancel } else p

/-- Whether a file exists that cancels the sandbox. -/
def isTripped (p : Play) : Bool :=
  p.interruptions.any fun
    | .clock _ => false
    | .file path => p.sandbox.host.stage.files.exists? path

/-- One move of the worker, and the moves of all that goes on behind it. -/
def move (p : Play) : Play × Bool :=
  let (sandbox, worked) := match p.sandbox.work with
    | some sandbox => (sandbox, true)
    | none => (p.sandbox, false)
  let (sandbox, moved) := sandbox.moveHost
  ({ p with sandbox }, worked || moved)

/-- The next moment at which something can happen. -/
def nextMoment (p : Play) (others : List Nat) : Option Nat :=
  let alarms := p.interruptions.filterMap fun
    | .clock moment => some moment
    | .file _ => none
  let h := p.sandbox.host
  h.nextOf (h.timers p.sandbox.worker.underway ++ alarms ++ others)

variable {α : Type}

/-- Moves until nothing moves any more, or until somebody has what it waits for. -/
def settle (early : Sandbox → Option α) : Nat → Play → Play × Option α
  | 0, p => (p, none)
  | n + 1, p =>
    match early p.sandbox with
    | some a => (p, some a)
    | none =>
      let (p, moved) := p.move
      if moved then settle early n p else (p, early p.sandbox)

/-- Plays until somebody has what it waits for. What comes of moves goes before what comes of time
(`late`). -/
def until' (early late : Sandbox → Option α) (moments : List Nat) :
    Nat → Play → Play × Option α
  | 0, p => (p, none)
  | n + 1, p =>
    match p.ring.settle early haste with
    | (p, some a) => (p, some a)
    | (p, none) =>
      match late p.sandbox with
      | some a => (p, some a)
      | none =>
        if p.isTripped && !p.sandbox.host.isCancelled then
          until' early late moments n { p with sandbox := p.sandbox.cancel }
        else
          match p.nextMoment moments with
          | none => (p, none)
          | some t => until' early late moments n { p with sandbox := p.sandbox.passTo t }

/-- Waits for a job. -/
def finish (p : Play) (a : Awaited) : Play × Option JobResult :=
  p.until' (·.learns { a with deadline := none }) (·.learns a)
    (a.deadline.map Deadline.moment).toList endurance

/-- Closes the sandbox and waits until its browser is shut down. -/
def close (p : Play) : Play :=
  let (sandbox, k) := p.sandbox.beginClose
  let p : Play := { p with sandbox := sandbox.advanceClose k }
  match p.sandbox.closings[k]? with
  | some (.stopping i) =>
    let isDown (s : Sandbox) : Option Unit := if s.host.stage.isDone i then some () else none
    let p := (p.until' isDown isDown [] endurance).1
    { p with sandbox := p.sandbox.advanceClose k }
  | _ => p

end Play

end ScriptSandbox
