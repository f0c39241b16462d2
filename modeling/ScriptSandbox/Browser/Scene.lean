import ScriptSandbox.Browser.Session

/-!
# Scenes

A scene is a pool, its sessions, and the tasks that deal with them, at one moment. It changes by
`Event`s: a task moves on by itself, an answer from outside comes in, time passes. Any order of
events is possible here; who moves when is for others to decide.

An operation is broken off where it waits, when its session has been cancelled or its time is over:
an answer that comes in at that moment comes too late.
-/

namespace ScriptSandbox

/-- What is asked of the outside. -/
inductive Scene.Request
  | launch (o : LaunchOptions)
  | shutDown (p : ProcessId)
  | openPage (p : ProcessId)
  | page (page : PageId) (c : PageCall)
  | save (path : String) (content : List UInt8)
deriving DecidableEq, Repr

abbrev Scene.Request.Answer : Scene.Request → Type
  | .launch _ | .openPage _ => Except Failure Unit
  | .shutDown _ => Unit
  | .page _ c => Except Failure c.Answer
  | .save _ _ => Except Failure Nat

def PoolRequest.toRequest : PoolRequest → Scene.Request
  | .launch o => .launch o
  | .shutDown p => .shutDown p

inductive Task
  | acquire (a : Acquire)
  | teardown (t : Teardown)
  | operation (s : SessionId) (p : Progress)
  | close (s : SessionId) (c : Closing)
  /-- Waits until a session is over and then closes it. -/
  | watch (s : SessionId)
  /-- Its caller no longer wants it. -/
  | gone

structure Scene where
  now : Nat := 0
  pool : Pool
  sessions : List Session := []
  tasks : List Task := []
  /-- How many pages have been opened so far. -/
  pages : Nat := 0
  /-- All that has been asked of the outside, the last first. -/
  asked : List Scene.Request := []

/-- A scene in which nothing has happened yet. -/
def Scene.fresh (options : LaunchOptions) : Scene := { pool := { options } }

/-- The answers of the outside. -/
abbrev Scene.Answers := (r : Scene.Request) → r.Answer

namespace Task

/-- What a task waits for from outside. -/
def request? (options : LaunchOptions) : Task → Option Scene.Request
  | .acquire .launching => some (.launch options)
  | .teardown (.stopping p) => some (.shutDown p)
  | .operation _ (.acquiring _ .launching) => some (.launch options)
  | .operation _ (.opening _ process) => some (.openPage process)
  | .operation _ (.asking page c _) => some (.page page c)
  | .operation _ (.askingUntil _ page c _) => some (.page page c)
  | .operation _ (.saving _ path content _) => some (.save path content)
  | .close _ (.closingPage _ page) => some (.page page .close)
  | _ => none

/-- Whether a task waits for something, so that it can be broken off. Nobody breaks off a watch. -/
def waits : Task → Bool
  | .acquire a => a.waits
  | .teardown t => t.waits
  | .operation _ p => p.waits
  | .close _ c => c.waits
  | .watch _ | .gone => false

/-- The session that a task deals with. -/
def session? : Task → Option SessionId
  | .operation s _ | .close s _ | .watch s => some s
  | _ => none

def isDone : Task → Bool
  | .acquire (.done _) | .teardown .done | .operation _ (.done _) | .close _ .done | .gone => true
  | _ => false

/-- The moments at which a task can move on by itself. -/
def timers (sessions : List Session) : Task → List Nat
  | .operation _ (.done _) => []
  | .operation s p =>
    let own := match p with
      | .pausing deadline _ _ => [deadline]
      | .askingUntil deadline _ _ _ => [deadline]
      | _ => []
    own ++ (sessions[s]?.map Session.deadline).toList
  | .watch s => (sessions[s]?.map Session.deadline).toList
  | .close _ (.closingPage deadline _) => [deadline]
  | _ => []

end Task

namespace Scene

/-- The task of a number. A number that nobody has stands for a task that is gone. -/
def task (w : Scene) (i : TaskId) : Task := (w.tasks[i]?).getD .gone

def ask (w : Scene) (r : Request) : Scene := { w with asked := r :: w.asked }

def put (w : Scene) (i : TaskId) (t : Task) : Scene := { w with tasks := w.tasks.set i t }

def putSession (w : Scene) (s : SessionId) (session : Session) : Scene :=
  { w with sessions := w.sessions.set s session }

def start (w : Scene) (t : Task) : Scene × TaskId :=
  ({ w with tasks := w.tasks ++ [t] }, w.tasks.length)

/-- The effect of a move on the pool, apart from the place of the task. -/
def takePoolMove {α : Type} (w : Scene) (m : PoolMove α) : Scene :=
  let w := { w with pool := m.pool }
  match m.request with
  | some r => w.ask r.toRequest
  | none => w

/-! ## Sessions -/

def openSession (w : Scene) (label : String) (options : SessionOptions) : Scene × SessionId :=
  ({ w with sessions := w.sessions ++ [.opened label options w.now] }, w.sessions.length)

def sessionState (w : Scene) (s : SessionId) : SessionState :=
  match w.sessions[s]? with
  | some session => session.state w.pool
  | none => .closed

def ensureOpen (w : Scene) (s : SessionId) : Scene × Except Failure Unit :=
  match w.sessions[s]? with
  | none => (w, .error .sessionClosed)
  | some session =>
    let (session, r) := session.ensureOpen w.pool w.now
    (w.putSession s session, r)

/-- Begins an operation that ends at once. -/
def refuse (w : Scene) (s : SessionId) (f : Failure) : Scene × TaskId :=
  w.start (.operation s (.done (.error f)))

def joinLine (w : Scene) (s : SessionId) : Scene :=
  match w.sessions[s]? with
  | some session => w.putSession s { session with line := session.line.join w.tasks.length }
  | none => w

/-- Begins an operation whose arguments are in order, where the session is open. -/
def enter (w : Scene) (s : SessionId) (op : Operation) : Scene × TaskId :=
  match w.ensureOpen s with
  | (w, .error f) => w.refuse s f
  | (w, .ok ()) => (w.joinLine s).start (.operation s (.queued op))

/-- Begins an operation. A session that is not open is found out before faulty arguments are. -/
def beginOperation (w : Scene) (s : SessionId) (op : Except Failure Operation) : Scene × TaskId :=
  match w.ensureOpen s, op with
  | (w, .error f), _ | (w, .ok ()), .error f => w.refuse s f
  | (w, .ok ()), .ok op => w.enter s op

/-- Begins a call of a session. -/
def beginCall (w : Scene) (s : SessionId) (c : SessionCall) : Scene × TaskId :=
  if c.looksFirst then w.beginOperation s c.operation
  else
    match c.operation with
    | .error f => w.refuse s f
    | .ok op => w.enter s op

/-- The first half of a close: the session is closed at once, its page when its turn comes. -/
def markClosed (w : Scene) (s : SessionId) (i : TaskId) : Scene :=
  match w.sessions[s]? with
  | some session => w.putSession s { session.expire with line := session.line.join i }
  | none => w

/-- Begins a close. Nobody can close a session that there is not. -/
def beginClose (w : Scene) (s : SessionId) : Scene × TaskId :=
  match w.sessions[s]? with
  | some _ => (w.markClosed s w.tasks.length).start (.close s .queued)
  | none => w.start .gone

/-- Begins what a script asks for. All but a close find out first whether the session is open. -/
def dispatch (w : Scene) (s : SessionId) (m : SessionMethod) (args : Arguments) :
    Scene × TaskId :=
  match if m = .close then (w, .ok ()) else w.ensureOpen s with
  | (w, .error f) => w.refuse s f
  | (w, .ok ()) =>
    match SessionCall.ofMethod m args with
    | .error f => w.refuse s f
    | .ok none => w.beginClose s
    | .ok (some c) => w.beginCall s c

def beginWatch (w : Scene) (s : SessionId) : Scene × TaskId := w.start (.watch s)

def beginAcquire (w : Scene) : Scene × TaskId := w.start (.acquire .looking)

def beginTeardown (w : Scene) : Scene × TaskId := w.start (.teardown .arriving)

def cancelPool (w : Scene) : Scene := { w with pool := { w.pool with cancelled := true } }

/-! ## Operations -/

/-- Leaves all lines. -/
def withdraw (w : Scene) (s : SessionId) (i : TaskId) : Scene :=
  let w := { w with pool := w.pool.leave i }
  match w.sessions[s]? with
  | some session => w.putSession s (session.leave i)
  | none => w

def finish (w : Scene) (s : SessionId) (i : TaskId) (r : Except Failure Report) : Scene :=
  (w.withdraw s i).put i (.operation s (.done r))

/-- The scene after an operation has been broken off, where that is due. -/
def interrupted (w : Scene) (s : SessionId) (i : TaskId) (p : Progress) : Option Scene :=
  if !p.waits then none
  else
    match w.sessions[s]? with
    | none => none
    | some session =>
      match session.interruption w.pool w.now with
      | none => none
      | some (session, f) => some ((w.putSession s session).finish s i (.error f))

/-- Begins the work of an operation whose turn has come. -/
def beginWork (w : Scene) (s : SessionId) (i : TaskId) (session : Session) (op : Operation) :
    Scene :=
  match op.needsPage, session.page with
  | true, none => w.put i (.operation s (.acquiring op .looking))
  | _, page => w.put i (.operation s (.acting page (op.work session.options).run))

/-- Takes up the next part of a task. -/
def act (w : Scene) (s : SessionId) (i : TaskId) (page : Option PageId) : Rest → Scene
  | .done r => w.finish s i r
  | .pause ms rest =>
    w.put i (.operation s (if ms = 0 then .acting page rest else .pausing (w.now + ms) page rest))
  | .clock next => w.put i (.operation s (.acting page (next w.now)))
  | .save path content next =>
    (w.ask (.save path content)).put i (.operation s (.saving page path content next))
  | .call c next =>
    match page with
    | some p => (w.ask (.page p c)).put i (.operation s (.asking p c next))
    | none => w.put i (.operation s (.acting page (next (.error .sessionClosed))))
  | .callWithin ms c next =>
    match page with
    | some p => (w.ask (.page p c)).put i (.operation s (.askingUntil (w.now + ms) p c next))
    | none => w.put i (.operation s (.acting page (next (some (.error .sessionClosed)))))

def stepOperation (w : Scene) (s : SessionId) (i : TaskId) (p : Progress) : Option Scene :=
  match w.interrupted s i p with
  | some w => some w
  | none =>
    match p with
    | .queued op =>
      match w.sessions[s]? with
      | none => none
      | some session =>
        if !session.line.serves i then none
        else
          let (session, r) := session.ensureOpen w.pool w.now
          match r with
          | .error f => some ((w.putSession s session).finish s i (.error f))
          | .ok () => some (w.beginWork s i session op)
    | .acquiring op (.done (.ok process)) =>
      some ((w.ask (.openPage process)).put i (.operation s (.opening op process)))
    | .acquiring _ (.done (.error f)) => some (w.finish s i (.error f))
    | .acquiring op a =>
      (a.step i w.pool).map fun m =>
        (w.takePoolMove m).put i (.operation s (.acquiring op m.place))
    | .acting page rest => some (w.act s i page rest)
    | .pausing deadline page rest =>
      if deadline ≤ w.now then some (w.put i (.operation s (.acting page rest))) else none
    | .askingUntil deadline page _ next =>
      if deadline ≤ w.now then some (w.put i (.operation s (.acting (some page) (next none))))
      else none
    | .opening _ _ | .asking _ _ _ | .saving _ _ _ _ | .done _ => none

/-- A page has been opened for a session. -/
def pageOpened (w : Scene) (s : SessionId) : Scene :=
  let w := match w.sessions[s]? with
    | some session => w.putSession s { session with page := some w.pages, active := true }
    | none => w
  { w with pages := w.pages + 1 }

def answerOperation (w : Scene) (s : SessionId) (i : TaskId) (p : Progress) (answers : Answers) :
    Scene :=
  match w.interrupted s i p with
  | some w => w
  | none =>
    match p with
    | .acquiring op .launching =>
      let m := Acquire.launched w.pool (answers (.launch w.pool.options))
      (w.takePoolMove m).put i (.operation s (.acquiring op m.place))
    | .opening op process =>
      match answers (.openPage process) with
      | .error f => w.finish s i (.error f)
      | .ok () =>
        let page := w.pages
        let w := w.pageOpened s
        match w.sessions[s]? with
        | some session =>
          w.put i (.operation s (.acting (some page) (op.work session.options).run))
        | none => w
    | .asking page c next =>
      w.put i (.operation s (.acting (some page) (next (answers (.page page c)))))
    | .askingUntil _ page c next =>
      w.put i (.operation s (.acting (some page) (next (some (answers (.page page c))))))
    | .saving page path content next =>
      w.put i (.operation s (.acting page (next (answers (.save path content)))))
    | _ => w

/-! ## Closing -/

def stepClosing (w : Scene) (s : SessionId) (i : TaskId) : Closing → Option Scene
  | .queued =>
    match w.sessions[s]? with
    | none => some (w.put i (.close s .done))
    | some session =>
      if !session.line.serves i then none
      else
        let w := w.putSession s { session.leave i with page := none }
        match session.page with
        | none => some (w.put i (.close s .done))
        | some page =>
          some ((w.ask (.page page .close)).put i
            (.close s (.closingPage (w.now + closeLimit) page)))
  | .closingPage deadline _ =>
    if deadline ≤ w.now then some (w.put i (.close s .done)) else none
  | .done => none

/-- A watch turns into a close when the session has been cancelled or its time is over. -/
def stepWatch (w : Scene) (s : SessionId) (i : TaskId) : Option Scene :=
  match w.sessions[s]? with
  | none => none
  | some session =>
    if session.isCancelled w.pool || session.deadline ≤ w.now then
      some ((w.markClosed s i).put i (.close s .queued))
    else none

/-! ## Events -/

/-- The scene after a task has moved on, where it can. -/
def step (w : Scene) (i : TaskId) : Option Scene :=
  match w.tasks[i]? with
  | none => none
  | some (.acquire a) =>
    (a.step i w.pool).map fun m => (w.takePoolMove m).put i (.acquire m.place)
  | some (.teardown t) =>
    (t.step i w.pool).map fun m => (w.takePoolMove m).put i (.teardown m.place)
  | some (.operation s p) => w.stepOperation s i p
  | some (.close s c) => w.stepClosing s i c
  | some (.watch s) => w.stepWatch s i
  | some .gone => none

/-- The scene after the outside has answered what a task waits for. -/
def answer (w : Scene) (i : TaskId) (answers : Answers) : Scene :=
  match w.tasks[i]? with
  | some (.acquire .launching) =>
    let m := Acquire.launched w.pool (answers (.launch w.pool.options))
    (w.takePoolMove m).put i (.acquire m.place)
  | some (.teardown (.stopping _)) =>
    let m := Teardown.ended w.pool
    (w.takePoolMove m).put i (.teardown m.place)
  | some (.operation s p) => w.answerOperation s i p answers
  | some (.close s (.closingPage _ _)) => w.put i (.close s .done)
  | _ => w

/-- The scene after the operation of a task has been broken off, where that is due. -/
def brokenOff (w : Scene) (i : TaskId) : Option Scene :=
  match w.tasks[i]? with
  | some (.operation s p) => w.interrupted s i p
  | _ => none

/-- Breaks off a task that its caller no longer wants. -/
def abandon (w : Scene) (i : TaskId) : Scene :=
  match w.tasks[i]? with
  | none => w
  | some t =>
    if !t.waits then w
    else
      match t.session? with
      | some s => (w.withdraw s i).put i .gone
      | none => { w with pool := w.pool.leave i }.put i .gone

inductive Event
  | step (i : TaskId)
  | answer (i : TaskId) (answers : Answers)
  | abandon (i : TaskId)
  | pass (milliseconds : Nat)
  | openSession (label : String) (options : SessionOptions)
  | call (s : SessionId) (c : SessionCall)
  | dispatch (s : SessionId) (m : SessionMethod) (args : Arguments)
  | beginClose (s : SessionId)
  | beginWatch (s : SessionId)
  | beginAcquire
  | beginTeardown
  | ensureOpen (s : SessionId)
  | cancelPool

def apply (w : Scene) : Event → Scene
  | .step i => (w.step i).getD w
  | .answer i answers => w.answer i answers
  | .abandon i => w.abandon i
  | .pass ms => { w with now := w.now + ms }
  | .openSession label options => (w.openSession label options).1
  | .call s c => (w.beginCall s c).1
  | .dispatch s m args => (w.dispatch s m args).1
  | .beginClose s => (w.beginClose s).1
  | .beginWatch s => (w.beginWatch s).1
  | .beginAcquire => w.beginAcquire.1
  | .beginTeardown => w.beginTeardown.1
  | .ensureOpen s => (w.ensureOpen s).1
  | .cancelPool => w.cancelPool

def run (w : Scene) (events : List Event) : Scene := events.foldl apply w

theorem run_append (w : Scene) (before later : List Event) :
    w.run (before ++ later) = (w.run before).run later := List.foldl_append

/-- A run keeps what each of its events keeps. -/
theorem run_induction {P : Scene → Prop} {w : Scene} {events : List Event} (hw : P w)
    (keep : ∀ w, P w → ∀ e ∈ events, P (w.apply e)) : P (w.run events) := by
  induction events generalizing w with
  | nil => exact hw
  | cons e events ih =>
    exact ih (keep w hw e List.mem_cons_self) fun w hw e' he' =>
      keep w hw e' (List.mem_cons_of_mem _ he')

/-- The same, where an invariant helps to keep it. -/
theorem run_induction_of_invariant {I P : Scene → Prop} {w : Scene} {events : List Event}
    (stay : ∀ w, I w → ∀ e, I (w.apply e)) (hi : I w) (hw : P w)
    (keep : ∀ w, I w → P w → ∀ e ∈ events, P (w.apply e)) : P (w.run events) := by
  refine (run_induction (P := fun t => I t ∧ P t) ⟨hi, hw⟩ ?_).2
  rintro t ⟨hi, ht⟩ e he
  exact ⟨stay t hi e, keep t hi ht e he⟩

end Scene

end ScriptSandbox
