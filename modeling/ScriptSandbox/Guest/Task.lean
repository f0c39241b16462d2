import ScriptSandbox.Failure
import ScriptSandbox.Guest.Step

/-!
# Tasks of guests

A task of a guest is a tree: what it calls of the host, and how it goes on with each answer. A task
hands its realm out with a call and takes it back with the answer, so that the host can put new
objects into it. `evaluate` is the task that a script is: it runs to its end, then run the
microtasks that it has left, and then its value leaves the guest.
-/

namespace ScriptSandbox.Guest

inductive GuestTask (α : Type) : Type
  | done (a : α)
  | call (f : HostId) (args : List Json) (realm : Realm) (next : Value → Realm → GuestTask α)
  /-- The guest goes on for ever. -/
  | endless

namespace GuestTask

variable {α β : Type}

def bind : GuestTask α → (α → GuestTask β) → GuestTask β
  | .done a, f => f a
  | .call g args realm next, f => .call g args realm fun v r => (next v r).bind f
  | .endless, _ => .endless

instance : Monad GuestTask where
  pure := .done
  bind := bind

end GuestTask

/-- A task that works on a realm. -/
abbrev GuestAction (α : Type) := StateT Realm GuestTask α

/-- The steps after which a script is taken to go on for ever. -/
def patience : Nat := 10000000

namespace Machine

/-- Runs a machine to its end. -/
def run : Nat → Machine → GuestTask (Ending × Realm)
  | 0, _ => .endless
  | n + 1, m =>
    match m.step with
    | .next m => run n m
    | .call f args m => .call f args m.realm fun v realm => run n { m with realm, control := .give v }
    | .ended e r => .done (e, r)

end Machine

namespace GuestAction

/-- Runs the machine that a realm sets up. -/
def run (start : Realm → Machine) : GuestAction Ending := fun r => (start r).run patience

/-- Runs all microtasks, also those that come from others. -/
def runMicrotasks : Nat → GuestAction Unit
  | 0 => fun _ => .endless
  | n + 1 => fun r =>
    match r.microtasks with
    | [] => .done ((), r)
    | t :: rest => do
      let (_, r) ← (Machine.ofMicrotask { r with microtasks := rest } t).run patience
      runMicrotasks n r

end GuestAction

/-- Why a script ends with an error. -/
def guestFailure (message : String) : Failure := { code := .execution, message }

/-- The value of a script, or what it stands for if it is a promise. -/
def settled (r : Realm) (v : Value) : Except Failure Value :=
  match r.promiseState? v with
  | none => .ok v
  | some (.fulfilled v) => .ok v
  | some (.rejected v) => .error (guestFailure ("promise rejected: " ++ r.display v))
  | some (.pending _) => .error (guestFailure "promise still pending after the job queue drained")

/-- The steps after which a value is taken not to leave the guest. There are more where there is more
to be written: all that is there, and that again below each of its parts. -/
def patienceFor (r : Realm) : Nat := patience + 4 * r.extent * r.extent

/-- Lets a value leave the guest. -/
def exported (v : Value) : GuestAction (Except Failure Json) := do
  match ← fun r => ({ realm := r, control := .export v } : Machine).run (patienceFor r) with
  | .json j => return .ok j
  | .thrown e => return .error (guestFailure ((← get).display e))
  | .value _ => return .ok .null

/-- Runs a script but not the microtasks that it leaves. -/
def runScript (source : String) : GuestAction (Except Value Value) := do
  match ← GuestAction.run (Machine.ofScript · source) with
  | .value v => return .ok v
  | .thrown e => return .error e
  | .json _ => return .ok .undefined

/-- Evaluates a script. One that throws leaves its microtasks to the next. -/
def evaluate (source : String) : GuestAction (Except Failure Json) := do
  match ← runScript source with
  | .error e => return .error (guestFailure ((← get).display e))
  | .ok v =>
    GuestAction.runMicrotasks patience
    match settled (← get) v with
    | .error f => return .error f
    | .ok v => exported v

namespace Realm

mutual

/-- Brings a value into the guest. The fields of an object are its own, whatever their names. -/
def bringIn (r : Realm) : Json → Value × Realm
  | .null => (.null, r)
  | .bool b => (.bool b, r)
  | .num n => (.number n.toDouble, r)
  | .str s => (.ofString s, r)
  | .arr items =>
    let (vs, r) := bringItems r items
    let (o, r) := r.alloc (arrayOf (vs.map some))
    (.object o, r)
  | .obj fields =>
    let (props, r) := bringFields r fields
    let (o, r) := r.alloc { proto := some Intrinsic.objectProto.id, props }
    (.object o, r)

def bringItems (r : Realm) : List Json → List Value × Realm
  | [] => ([], r)
  | j :: rest =>
    let (v, r) := bringIn r j
    let (vs, r) := bringItems r rest
    (v :: vs, r)

def bringFields (r : Realm) : List (String × Json) → List (Units × Property) × Realm
  | [] => ([], r)
  | (k, j) :: rest =>
    let (v, r) := bringIn r j
    let (props, r) := bringFields r rest
    ((Units.ofString k, .plain v) :: props, r)

end

end Realm

end ScriptSandbox.Guest
