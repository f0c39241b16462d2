import ScriptSandbox.Browser.Stage
import ScriptSandbox.Guest.Global
import ScriptSandbox.Host.Call

/-!
# The host's side of a guest

What the host binds into a realm and what becomes of a call. Functions of the host never throw: a
call that fails returns an object that says why. Once the scope of the host is cancelled, no call
has any effect, and one that is under way ends at once.
-/

namespace ScriptSandbox

open Guest

/-- A function that someone else gives a guest. One that never answers gives nothing. -/
structure CustomFunction where
  name : String
  arity : Nat
  call : Arguments → Option HostResult

/-- What a guest can call. -/
inductive Callee
  | function (f : HostFunction)
  | newSession
  | method (s : SessionId) (m : SessionMethod)
  | custom (f : CustomFunction)

/-- What a call gives the guest. -/
inductive Answer
  | json (j : Json)
  | session (s : SessionId)

/-- A call of the guest. -/
inductive Underway
  | answered (a : Answer)
  /-- The call waits. Its answer is there from this moment on, if nothing cuts it short. -/
  | later (a : Answer) (due : Nat)
  /-- The call waits for a task on the stage. -/
  | operation (i : TaskId)
  | never

structure HostSide where
  settings : Settings
  /-- Whether there is a browser to be had. -/
  hasPool : Bool
  surroundings : Surroundings
  stage : Stage
  callees : Array Callee := #[]

namespace HostSide

/-- The host's side as it begins; `rehearsal` is the browser. -/
def start (settings : Settings) (hasPool : Bool) (surroundings : Surroundings)
    (rehearsal : Rehearsal) : HostSide :=
  let options : LaunchOptions :=
    { headless := settings.headless, requestTimeout := settings.browserTimeout }
  { settings, hasPool, surroundings
    stage := { scene := Scene.fresh options, rehearsal, files := surroundings.files } }

/-- The milliseconds since the beginning. -/
def now (h : HostSide) : Nat := h.stage.scene.now

def isCancelled (h : HostSide) : Bool := h.stage.scene.pool.cancelled

/-- Cancels the scope, and with it the pool. -/
def cancel (h : HostSide) : HostSide :=
  { h with stage := { h.stage with scene := h.stage.scene.cancelPool } }

def cancelledFailure : Failure := .cancelled "sandbox closed"

/-! ## Binding -/

/-- Takes a callee up and says under which number the guest finds it. -/
def enlist (h : HostSide) (c : Callee) : HostId × HostSide :=
  (h.callees.size, { h with callees := h.callees.push c })

/-- Binds a callee as a global function. -/
def bindCallee (h : HostSide) (r : Realm) (c : Callee) (name : String) (arity : Nat) :
    HostSide × Realm × Except Mistake Unit :=
  let (id, h) := h.enlist c
  let (v, r) := r.makeHost id name arity true
  match r.defineGlobal name (.hidden v) with
  | .ok r => (h, r, .ok ())
  | .error e => (h, r, .error e)

/-- Binds functions one after the other, up to the first that cannot be bound. -/
def bindFunctions (h : HostSide) (r : Realm) :
    List HostFunction → HostSide × Realm × Except Mistake Unit
  | [] => (h, r, .ok ())
  | f :: rest =>
    match h.bindCallee r (.function f) f.name f.arity with
    | (h, r, .ok ()) => bindFunctions h r rest
    | failed => failed

/-- Makes the methods of an object. -/
def makeMethods (h : HostSide) (r : Realm) :
    List (Callee × String × Nat) → HostSide × Realm × List (Units × Property)
  | [] => (h, r, [])
  | (c, name, arity) :: rest =>
    let (id, h) := h.enlist c
    let (v, r) := r.makeHost id name arity false
    let (h, r, props) := makeMethods h r rest
    (h, r, (Units.ofString name, .hidden v) :: props)

def bindConsole (h : HostSide) (r : Realm) (fs : List HostFunction) :
    HostSide × Realm × Except Mistake Unit :=
  let (h, r, props) := h.makeMethods r (fs.map fun f => (.function f, f.name, f.arity))
  let (o, r) := r.alloc { proto := some Intrinsic.objectProto.id, props }
  match r.defineGlobal "console" (.plain (.object o)) with
  | .ok r => (h, r, .ok ())
  | .error e => (h, r, .error e)

/-- Binds the functions of a group and says how many there are. What has been bound before a
function that cannot be stays. -/
def install (h : HostSide) (r : Realm) (g : Group) : HostSide × Realm × Except Mistake Nat :=
  let (h, r, result) :=
    match g with
    | .logging => h.bindConsole r g.functions
    | .feature .browser =>
      if h.hasPool then h.bindCallee r .newSession "newBrowserSession" 1 else (h, r, .ok ())
    | g => h.bindFunctions r g.functions
  let count := match g with
    | .feature .browser => if h.hasPool then 1 else 0
    | g => g.functions.length
  (h, r, result.map fun _ => count)

/-- The groups that are installed. -/
def groups (h : HostSide) : List Group :=
  Group.always ++ (h.settings.features.filter fun f => f != .browser || h.hasPool).map .feature

def installFailure (g : Group) (e : Mistake) : Failure :=
  let name := g.name
  let reason := e.display
  { code := .system, message := s!"registering {name} group failed: {reason}" }

/-- Installs groups up to the first that fails. -/
def installEach (h : HostSide) (r : Realm) : List Group → HostSide × Realm × Except Failure Unit
  | [] => (h, r, .ok ())
  | g :: rest =>
    match h.install r g with
    | (h, r, .ok _) => installEach h r rest
    | (h, r, .error e) => (h, r, .error (installFailure g e))

/-- Installs all groups that the settings leave, and says which these are. -/
def installAll (h : HostSide) (r : Realm) : HostSide × Realm × Except Failure (List String) :=
  let groups := h.groups
  let (h, r, result) := h.installEach r groups
  (h, r, result.map fun _ => groups.map Group.name)

/-! ## Calls -/

/-- Does what a function of the host does; the second part is the time that it takes. -/
def act (h : HostSide) (f : HostFunction) (args : Arguments) : Json × Nat × HostSide :=
  let start := h.surroundings.now
  let w : Surroundings :=
    { h.surroundings with files := h.stage.files, now := start.later h.now, spent := 0 }
  let (result, w) := (f.action h.settings args).run w
  (HostResult.toJson f.name result, w.spent,
    { h with
      surroundings := { w with now := start }, stage := { h.stage with files := w.files } })

/-- The lifetime that a script asks for a session. -/
def sessionTime (h : HostSide) (args : Arguments) : Except Failure Nat := do
  match ← args.optionalObject 0 "options" with
  | none => return h.settings.browserTimeout
  | some fields =>
    match fields.lookup "timeout" with
    | none | some .null => return h.settings.browserTimeout
    | some (.num n) =>
      let x := n.toDouble
      if x.isZero || x.isNegative then
        .error (.invalidInput "session timeout must be a positive number of milliseconds")
      else return Arguments.clampWord x
    | some _ => .error (.invalidInput "session timeout must be a number of milliseconds")

/-- Opens a session and watches over its time. -/
def openSession (h : HostSide) (args : Arguments) : HostSide × Except Failure SessionId :=
  match h.sessionTime args with
  | .error f => (h, .error f)
  | .ok lifetime =>
    if h.isCancelled then (h, .error cancelledFailure)
    else
      let (label, chance) := h.surroundings.chance.identifier
      let (scene, s) := h.stage.scene.openSession label { lifetime }
      let (scene, i) := scene.beginWatch s
      let stage := { h.stage with scene, background := h.stage.background ++ [i] }
      ({ h with surroundings := { h.surroundings with chance }, stage }, .ok s)

/-- Begins a method of a session. -/
def beginMethod (h : HostSide) (s : SessionId) (m : SessionMethod) (args : Arguments) :
    HostSide × TaskId :=
  let (scene, i) := h.stage.scene.dispatch s m args
  ({ h with stage := { h.stage with scene } }, i)

def failed (f : Failure) : Underway := .answered (.json f.toJson)

/-- Begins a call. Where the scope is cancelled nothing is begun. A function that has to wait for
something is not answered with this move, even if it takes no time. -/
def begin (h : HostSide) (f : HostId) (args : Arguments) : HostSide × Underway :=
  match h.callees[f]? with
  | none => (h, failed { code := .system, message := "no such function" })
  | some .newSession =>
    match h.openSession args with
    | (h, .ok s) => (h, .answered (.session s))
    | (h, .error e) => (h, failed e)
  | some callee =>
    if h.isCancelled then (h, failed cancelledFailure)
    else
      match callee with
      | .function f =>
        let (j, time, after) := h.act f args
        (after, if f.awaits h.settings args then .later (.json j) (h.now + time)
          else .answered (.json j))
      | .method s m =>
        let (h, i) := h.beginMethod s m args
        (h, .operation i)
      | .custom f =>
        (h, match f.call args with
          | some r => .answered (.json (HostResult.toJson f.name r))
          | none => .never)
      | .newSession => (h, .never)

/-- What a task on the stage has come to, as the guest sees it. -/
def taskAnswer : Task → Option Json
  | .operation _ (.done (.ok r)) => some (successWith r.fields)
  | .operation _ (.done (.error f)) => some f.toJson
  | .close _ .done => some (success .null)
  | _ => none

/-- Gives up a call. -/
def abandon (h : HostSide) : Underway → HostSide
  | .operation i => { h with stage := { h.stage with scene := h.stage.scene.abandon i } }
  | _ => h

/-- The answer of a call, if it has come. A call under way ends when the scope is cancelled. -/
def poll (h : HostSide) (u : Underway) : HostSide × Option Answer :=
  match u with
  | .answered a => (h, some a)
  | u =>
    if h.isCancelled then (h.abandon u, some (.json cancelledFailure.toJson))
    else
      match u with
      | .later a due => (h, if due ≤ h.now then some a else none)
      | .operation i => (h, ((h.stage.task? i).bind taskAnswer).map .json)
      | .answered a => (h, some a)
      | .never => (h, none)

/-- Puts an answer into the realm. A session is an object with its name and its methods. -/
def deliver (h : HostSide) (r : Realm) (a : Answer) : HostSide × Realm × Value :=
  match a with
  | .json j =>
    let (v, r) := r.bringIn j
    (h, r, v)
  | .session s =>
    let label := (h.stage.scene.sessions[s]?.map Session.label).getD ""
    let (h, r, methods) := h.makeMethods r
      (SessionMethod.all.map fun m => (.method s m, m.name, m.arity))
    let id : Units × Property :=
      (Units.ofString "id", ⟨.data (.ofString label) false, true, false⟩)
    let (o, r) := r.alloc { proto := some Intrinsic.objectProto.id, props := id :: methods }
    (h, r, .object o)

/-! ## Time -/

/-- The most moves that a task makes at one moment. -/
def patience : Nat := 1000000

/-- Moves what can move at this moment: the task that a call waits for, and then the watches. -/
def move (h : HostSide) (u : Option Underway) : HostSide × Bool :=
  let (stage, moved) := match u with
    | some (.operation i) => h.stage.advance i patience
    | _ => (h.stage, false)
  let (stage, movedBehind) := stage.advanceBackground patience
  ({ h with stage }, moved || movedBehind)

/-- The moments at which something can move by the clock. -/
def timers (h : HostSide) (u : Option Underway) : List Nat :=
  let own := match u with
    | some (.later _ due) => [due]
    | some (.operation i) => h.stage.taskTimers i
    | _ => []
  own ++ h.stage.background.flatMap h.stage.taskTimers

/-- The next moment of several that lies ahead. -/
def nextOf (h : HostSide) (moments : List Nat) : Option Nat := (moments.filter (h.now < ·)).min?

def passTo (h : HostSide) (now : Nat) : HostSide :=
  { h with stage := { h.stage with scene := { h.stage.scene with now } } }

/-- Lets time pass until a call is answered; a call that never is gives nothing. -/
def await : Nat → HostSide → Underway → HostSide × Option Answer
  | 0, h, _ => (h, none)
  | n + 1, h, u =>
    let (h, moved) := h.move (some u)
    match h.poll u with
    | (h, some a) => (h, some a)
    | (h, none) =>
      if moved then await n h u
      else
        match h.nextOf (h.timers (some u)) with
        | none => (h, none)
        | some t => await n (h.passTo t) u

/-- Runs a task of a guest and answers its calls; at most `fuel` are made. -/
def drive {α : Type} : Nat → HostSide → GuestTask α → HostSide × Option α
  | 0, h, _ => (h, none)
  | fuel + 1, h, task =>
    match task with
    | .done a => (h, some a)
    | .endless => (h, none)
    | .call f args realm next =>
      let (h, u) := h.begin f args
      match h.await patience u with
      | (h, none) => (h, none)
      | (h, some a) =>
        let (h, realm, v) := h.deliver realm a
        drive fuel h (next v realm)

end HostSide

end ScriptSandbox
