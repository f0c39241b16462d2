import ScriptSandbox.Proofs.Guest.BringIn
import ScriptSandbox.Proofs.Sandbox.Cancelled

/-!
# What calls tell the guest

A script goes on after a call of the host with an object that tells whether the call has succeeded,
and if not, why (`structured_results`). Nothing is ever thrown into the script: a call gives it a
value, or keeps it waiting until it has come to its end.
-/

namespace ScriptSandbox

open Guest

/-- A function of the host or a method of a session. -/
def Callee.IsNative : Callee → Prop
  | .function _ | .method _ _ => True
  | .newSession | .custom _ => False

/-- A call under way whose answer tells of success or failure, where the answer is known. -/
def Underway.Structured : Underway → Prop
  | .answered (.json j) | .later (.json j) _ => ∃ x, j.Tells x
  | .operation _ => True
  | _ => False

/-- An answer that is known tells of success or failure. -/
theorem Underway.Structured.known {u : Underway} {a : Answer} (hu : u.Structured)
    (h : u = .answered a ∨ ∃ due, u = .later a due) : ∃ j x, a = .json j ∧ j.Tells x := by
  cases a with
  | json j =>
    obtain ⟨x, hx⟩ : ∃ x, j.Tells x := by rcases h with rfl | ⟨due, rfl⟩ <;> exact hu
    exact ⟨j, x, rfl, hx⟩
  | session s => rcases h with rfl | ⟨due, rfl⟩ <;> exact hu.elim

namespace HostSide

variable {h after : HostSide} {id : HostId} {c : Callee} {args : Arguments} {u : Underway}

/-! ## How a call begins -/

theorem begin_native_of_isCancelled (hid : h.callees[id]? = some c) (hc : c.IsNative)
    (hcancelled : h.isCancelled = true) :
    (h.begin id args).2 = .answered (.json cancelledFailure.toJson) := by
  obtain ⟨f, hf, hbegin⟩ := begin_of_isCancelled hcancelled hid args
  rw [hbegin]
  cases c with
  | newSession | custom => exact hc.elim
  | function | method =>
    obtain rfl : f = cancelledFailure := hf
    rfl

theorem act_result (h : HostSide) (f : HostFunction) (args : Arguments) :
    ∃ r, f.MayEnd h.settings args r ∧ (h.act f args).1 = r.toJson f.name := ⟨_, .own _, rfl⟩

/-- What waits for nothing has touched neither files nor browser. -/
theorem act_stage {f : HostFunction} (hf : f.awaits h.settings args = false) :
    (h.act f args).2.2.stage = h.stage := by
  let w : Surroundings :=
    { h.surroundings with
      files := h.stage.files, now := h.surroundings.now.later h.now, spent := 0 }
  obtain ⟨r, chance, hrun⟩ := HostFunction.prompt_of_not_awaits hf w
  show { h.stage with files := ((f.action h.settings args).run w).2.files } = h.stage
  rw [hrun w rfl rfl]

/-- A call of a function is answered at once or at a known moment, with what the function has come
to. -/
theorem begin_function {f : HostFunction} (args : Arguments)
    (hid : h.callees[id]? = some (.function f)) (hopen : h.isCancelled = false) :
    ∃ r, f.MayEnd h.settings args r ∧
      (f.awaits h.settings args = false → (h.begin id args).1.stage = h.stage ∧
        (h.begin id args).2 = .answered (.json (r.toJson f.name))) ∧
      (f.awaits h.settings args = true →
        ∃ due, h.now ≤ due ∧ (h.begin id args).2 = .later (.json (r.toJson f.name)) due) := by
  obtain ⟨r, hr, hact⟩ := act_result h f args
  refine ⟨r, hr, fun hf => ?_, fun hf => ⟨h.now + (h.act f args).2.1, Nat.le_add_right .., ?_⟩⟩
  all_goals simp only [begin, hid, hopen, hf, hact, Bool.false_eq_true, if_false, if_true]
  exact ⟨act_stage hf, trivial⟩

/-- A call of a method waits for its task, and for nothing else while the scope is not cancelled. -/
theorem begin_method {s : SessionId} {m : SessionMethod} (args : Arguments)
    (hid : h.callees[id]? = some (.method s m)) (hopen : h.isCancelled = false) :
    ∃ i, (h.begin id args).2 = .operation i ∧ ∀ after : HostSide, after.isCancelled = false →
      (after.poll (.operation i)).2 = ((after.stage.task? i).bind taskAnswer).map .json := by
  refine ⟨(h.beginMethod s m args).2, ?_, fun after hafter => ?_⟩
  · simp only [begin, hid, hopen, Bool.false_eq_true, if_false]
  · simp only [poll, hafter, Bool.false_eq_true, if_false]

theorem structured_begin (hid : h.callees[id]? = some c) (hc : c.IsNative) (args : Arguments) :
    (h.begin id args).2.Structured := by
  by_cases hcancelled : h.isCancelled = true
  · rw [begin_native_of_isCancelled hid hc hcancelled]
    exact ⟨_, cancelledFailure.tells⟩
  · cases c with
    | newSession | custom => exact hc.elim
    | function f =>
      obtain ⟨r, hr, hprompt, hwaits⟩ := begin_function args hid (by simpa using hcancelled)
      cases hf : f.awaits h.settings args with
      | false =>
        rw [(hprompt hf).2]
        exact hr.tells
      | true =>
        obtain ⟨due, -, hu⟩ := hwaits hf
        rw [hu]
        exact hr.tells
    | method s m =>
      obtain ⟨i, hu, -⟩ := begin_method args hid (by simpa using hcancelled)
      rw [hu]
      trivial

/-! ## How it ends -/

/-- The call has come to its end: its time has come, its task is done, or the scope has been
cancelled. -/
def HasEnded (h : HostSide) : Underway → Prop
  | .answered _ => True
  | .later _ due => h.isCancelled = true ∨ due ≤ h.now
  | .operation i => h.isCancelled = true ∨
      ∃ t, h.stage.task? i = some t ∧ (taskAnswer t).isSome = true
  | .never => h.isCancelled = true

theorem taskAnswer_operation (s : SessionId) (r : Except Failure Report) :
    ∃ j, taskAnswer (.operation s (.done r)) = some j ∧
      j.Tells (match r with | .ok _ => none | .error f => some f) := by
  cases r with
  | ok report => exact ⟨_, rfl, success_tells _⟩
  | error f => exact ⟨_, rfl, f.tells⟩

theorem taskAnswer_tells {t : Task} {j : Json} (h : taskAnswer t = some j) : ∃ x, j.Tells x := by
  unfold taskAnswer at h
  split at h
  · obtain rfl := Option.some.inj h
    exact ⟨none, success_tells _⟩
  · obtain rfl := Option.some.inj h
    exact ⟨_, Failure.tells _⟩
  · obtain rfl := Option.some.inj h
    exact ⟨none, success_tells _⟩
  · simp at h

theorem hasEnded_iff : after.HasEnded u ↔ (after.poll u).2.isSome = true := by
  cases hc : after.isCancelled with
  | true => cases u <;> simp [HasEnded, poll, hc]
  | false =>
    cases u with
    | answered | never => simp [HasEnded, poll, hc]
    | later a due => by_cases hd : due ≤ after.now <;> simp [HasEnded, poll, hc, hd]
    | operation i =>
      simp only [HasEnded, poll, hc, Bool.false_eq_true, false_or, if_false, Option.isSome_map]
      cases after.stage.task? i <;> simp

theorem poll_tells (hu : u.Structured) {a : Answer} (ha : (after.poll u).2 = some a) :
    ∃ j x, a = .json j ∧ j.Tells x := by
  by_cases hcut : after.isCancelled = true ∧ ∀ a, u ≠ .answered a
  · rw [poll_of_isCancelled hcut.1 hcut.2] at ha
    exact ⟨_, _, (Option.some.inj ha).symm, cancelledFailure.tells⟩
  · cases u with
    | answered b =>
      obtain rfl : b = a := Option.some.inj ha
      exact hu.known (.inl rfl)
    | later b due =>
      have hopen : after.isCancelled = false := by simpa using hcut
      simp only [poll, hopen, Bool.false_eq_true, if_false] at ha
      split at ha
      · obtain rfl : b = a := Option.some.inj ha
        exact hu.known (.inr ⟨due, rfl⟩)
      · simp at ha
    | operation i =>
      have hopen : after.isCancelled = false := by simpa using hcut
      simp only [poll, hopen, Bool.false_eq_true, if_false, Option.map_eq_some_iff,
        Option.bind_eq_some_iff] at ha
      obtain ⟨j, ⟨t, -, ht⟩, rfl⟩ := ha
      obtain ⟨x, hx⟩ := taskAnswer_tells ht
      exact ⟨j, x, rfl, hx⟩
    | never => exact hu.elim

end HostSide

/-! ## The script -/

/-- A script that waits for a call goes on with what the answer tells. -/
theorem Worker.ready_of_poll {w : Worker} {after : HostSide} {ticket : Ticket} {u : Underway}
    {next : Value → Realm → GuestTask (JobResult × Realm)} {j : Json} {x : Option Failure}
    (hw : w.activity = .calling ticket u next) (ha : (after.poll u).2 = some (.json j))
    (hj : j.Tells x) :
    ∃ o realm, w.ready after = some ((after.poll u).1, w, ticket, next (.object o) realm) ∧
      realm.Tells o x := by
  obtain ⟨o, ho, htells⟩ := Realm.tells_bringIn w.realm hj
  refine ⟨o, (w.realm.bringIn j).2, ?_, htells⟩
  rcases hpoll : after.poll u with ⟨h, a⟩
  rw [hpoll] at ha
  obtain rfl : a = some (.json j) := ha
  simp only [ready, hw, hpoll, HostSide.deliver, ho]

theorem Worker.ready_of_poll_none {w : Worker} {after : HostSide} {ticket : Ticket} {u : Underway}
    {next : Value → Realm → GuestTask (JobResult × Realm)}
    (hw : w.activity = .calling ticket u next) (ha : (after.poll u).2 = none) :
    w.ready after = none := by
  rcases hpoll : after.poll u with ⟨h, a⟩
  rw [hpoll] at ha
  obtain rfl : a = none := ha
  simp only [ready, hw, hpoll]

/-- A script whose call has come to its end goes on, with the cancelled scope if that has cut the call
short. -/
theorem Worker.ready_of_hasEnded {w : Worker} {after : HostSide} {ticket : Ticket} {u : Underway}
    {next : Value → Realm → GuestTask (JobResult × Realm)}
    (hw : w.activity = .calling ticket u next) (hu : u.Structured) (hend : after.HasEnded u) :
    ∃ j x o realm, (after.poll u).2 = some (.json j) ∧ j.Tells x ∧
      (after.isCancelled = true → (∀ a, u ≠ .answered a) → x = some HostSide.cancelledFailure) ∧
      w.ready after = some ((after.poll u).1, w, ticket, next (.object o) realm) ∧
      realm.Tells o x := by
  obtain ⟨a, ha⟩ := Option.isSome_iff_exists.1 (HostSide.hasEnded_iff.1 hend)
  by_cases hcut : after.isCancelled = true ∧ ∀ a, u ≠ .answered a
  · have hpoll := congrArg Prod.snd (HostSide.poll_of_isCancelled hcut.1 hcut.2)
    have hx := HostSide.cancelledFailure.tells
    obtain ⟨o, realm, hready, htells⟩ := w.ready_of_poll hw hpoll hx
    exact ⟨_, _, o, realm, hpoll, hx, fun _ _ => rfl, hready, htells⟩
  · obtain ⟨j, x, rfl, hx⟩ := HostSide.poll_tells hu ha
    obtain ⟨o, realm, hready, htells⟩ := w.ready_of_poll hw ha hx
    exact ⟨j, x, o, realm, ha, hx, fun hc hne => absurd ⟨hc, hne⟩ hcut, hready, htells⟩

/-- Of every call of a function of the host and of a method of a session, with any arguments:

* a value that a function gives tells of success, or of what the status of a response says; an error
  tells of a failure, also where something that the function asks for has failed or the function
  has broken off;
* the failure has the code that belongs to the kind of the error;
* an operation of a session tells of success, or of its own failure, and a close of success;
* a call that begins when the scope has been cancelled is answered at once with this failure;
  otherwise a function that waits for nothing is answered at once and has touched neither files nor
  browser, one that waits has its answer at a known moment, and a method when its task is done;
* once the call has come to its end, and not before, the script goes on with an object that tells of
  success or failure; and if the scope has been cancelled meanwhile, it tells of that. -/
theorem structured_results :
    (∀ (f : HostFunction) (s : Settings) (args : Arguments) (r : HostResult), f.MayEnd s args r →
      match r with
      | .ok v => r.toJson f.name = v ∧ f.Told v
      | .error e => (r.toJson f.name).Tells (some (e.toFailure f.name))) ∧
    (∀ (name : String) (e : HostError), (e.toFailure name).code =
      match e with
      | .failure f => f.code
      | .io ⟨.notFound, _⟩ => .fileNotFound
      | .io ⟨.other, _⟩ => .filesystem
      | .other _ => .unknown
      | .panic => .system) ∧
    (∀ (s : SessionId) (r : Except Failure Report), ∃ j,
      HostSide.taskAnswer (.operation s (.done r)) = some j ∧
        j.Tells (match r with | .ok _ => none | .error f => some f)) ∧
    (∀ s : SessionId, ∃ j, HostSide.taskAnswer (.close s .done) = some j ∧ j.Tells none) ∧
    (∀ (h after : HostSide) (id : HostId) (args : Arguments) (c : Callee),
      h.callees[id]? = some c → c.IsNative →
      let u := (h.begin id args).2
      (h.isCancelled = true → u = .answered (.json HostSide.cancelledFailure.toJson)) ∧
      (h.isCancelled = false → ∀ f, c = .function f → ∃ r, f.MayEnd h.settings args r ∧
        (f.awaits h.settings args = false → (h.begin id args).1.stage = h.stage ∧
          u = .answered (.json (r.toJson f.name))) ∧
        (f.awaits h.settings args = true →
          ∃ due, h.now ≤ due ∧ u = .later (.json (r.toJson f.name)) due)) ∧
      (h.isCancelled = false → ∀ s m, c = .method s m → ∃ i, u = .operation i ∧
        ∀ after : HostSide, after.isCancelled = false → (after.poll (.operation i)).2 =
          ((after.stage.task? i).bind HostSide.taskAnswer).map .json) ∧
      ∀ (w : Worker) (ticket : Ticket) (next : Value → Realm → GuestTask (JobResult × Realm)),
        w.activity = .calling ticket u next →
        (¬ after.HasEnded u → w.ready after = none) ∧
        (after.HasEnded u → ∃ j x o realm, (after.poll u).2 = some (.json j) ∧ j.Tells x ∧
          (after.isCancelled = true → (∀ a, u ≠ .answered a) →
            x = some HostSide.cancelledFailure) ∧
          w.ready after = some ((after.poll u).1, w, ticket, next (.object o) realm) ∧
          realm.Tells o x)) := by
  refine ⟨fun f s args r hr => ?_, fun name e => ?_, HostSide.taskAnswer_operation, fun s => ?_,
    fun h after id args c hid hc => ?_⟩
  · cases r with
    | error e => exact (e.toFailure f.name).tells
    | ok v =>
      refine ⟨rfl, ?_⟩
      generalize hv : (.ok v : HostResult) = r at hr
      cases hr with
      | own w => exact f.gives_told s args w v hv.symm
      | failed e => simp at hv
  · rcases e with f | ⟨kind, message⟩ | message | _
    · rfl
    · cases kind <;> rfl
    · rfl
    · rfl
  · exact ⟨_, rfl, success_tells _⟩
  · intro u
    have hu : u.Structured := HostSide.structured_begin hid hc args
    refine ⟨HostSide.begin_native_of_isCancelled hid hc, ?_, ?_, fun w ticket next hw =>
      ⟨fun hnot => ?_, w.ready_of_hasEnded hw hu⟩⟩
    · rintro hopen f rfl
      exact HostSide.begin_function args hid hopen
    · rintro hopen s m rfl
      exact HostSide.begin_method args hid hopen
    · refine w.ready_of_poll_none hw (Option.not_isSome_iff_eq_none.1 fun ha => hnot ?_)
      exact HostSide.hasEnded_iff.2 ha

end ScriptSandbox
