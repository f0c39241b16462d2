import ScriptSandbox.Proofs.Browser.CloseProgress
import ScriptSandbox.Proofs.Browser.SessionLifecycle

/-!
# Sessions that are over

A session that is closed, cancelled or past its deadline is over for ever. Whoever turns to it next
finds it closed, and so does everybody after. An operation that begins is refused at once and asks
for nothing; a close comes to its end all the same (`session_over`).
-/

namespace ScriptSandbox

theorem Session.state_eq_closed_iff {session : Session} {p : Pool} :
    session.state p = .closed ↔ session.isClosed p = true := by
  unfold Session.state
  by_cases hc : session.isClosed p = true
  · simp [hc]
  · rw [if_neg hc]
    by_cases ha : session.active = true <;> simp [hc, ha]

namespace Scene

variable {w w' : Scene} {e : Event} {i j : TaskId} {s : SessionId} {t : Task}
variable {session session' : Session}

/-! ## Over for ever -/

theorem SessionNext.isClosed {p : Pool} (h : SessionNext w s session session')
    (hp : w.pool.cancelled = true → p.cancelled = true) (hc : session.isClosed w.pool = true) :
    session'.isClosed p = true := by
  have hcases : session.closed = true ∨ session.cancelled = true ∨ w.pool.cancelled = true := by
    simpa [Session.isClosed, Session.isCancelled] using hc
  suffices session'.closed = true ∨ session'.cancelled = true ∨ p.cancelled = true by
    simpa [Session.isClosed, Session.isCancelled] using this
  refine hcases.imp ?_ (Or.imp ?_ hp)
  · intro hclosed
    cases h with
    | kept _ _ hc => exact hc hclosed
    | paged _ _ _ h | taken _ _ h => rw [h]; exact hclosed
  · intro hcancelled
    cases h with
    | kept _ _ _ hc => exact hc hcancelled
    | paged _ _ _ h | taken _ _ h => rw [h]; exact hcancelled

/-- What a session has been opened with stays. -/
theorem SessionNext.fixed (h : SessionNext w s session session') :
    session'.deadline = session.deadline ∧ session'.label = session.label ∧
      session'.options = session.options := by
  cases h with
  | kept _ _ _ _ hd hl ho => exact ⟨hd, hl, ho⟩
  | paged _ _ _ h | taken _ _ h => rw [h]; exact ⟨rfl, rfl, rfl⟩

theorem SessionNext.deadline_eq (h : SessionNext w s session session') :
    session'.deadline = session.deadline := h.fixed.1

theorem SessionNext.label_eq (h : SessionNext w s session session') :
    session'.label = session.label := h.fixed.2.1

theorem SessionNext.options_eq (h : SessionNext w s session session') :
    session'.options = session.options := h.fixed.2.2

/-- The session is closed, cancelled or past its deadline. -/
def Over (w : Scene) (s : SessionId) : Prop :=
  ∃ session, w.sessions[s]? = some session ∧ session.IsOver w.pool w.now

/-- The session is found closed. -/
def Shut (w : Scene) (s : SessionId) : Prop :=
  ∃ session, w.sessions[s]? = some session ∧ session.isClosed w.pool = true

theorem Shut.sessionState (h : w.Shut s) : w.sessionState s = .closed := by
  obtain ⟨session, hsess, hc⟩ := h
  rw [Scene.sessionState, hsess]
  exact Session.state_eq_closed_iff.2 hc

theorem Over.apply (h : w.Over s) (ho : w.Orderly) (e : Event) : (w.apply e).Over s := by
  obtain ⟨session, hsess, hover⟩ := h
  obtain ⟨session', hsess', hnext⟩ := apply_next ho e hsess
  refine ⟨session', hsess', hover.imp ?_ ?_⟩
  · exact fun hc => hnext.isClosed (fun hp => cancelled_apply hp e) hc
  · intro hd
    rw [hnext.deadline_eq]
    exact Nat.le_trans hd (apply_sessionStep ho e).now

theorem Shut.apply (h : w.Shut s) (ho : w.Orderly) (e : Event) : (w.apply e).Shut s := by
  obtain ⟨session, hsess, hc⟩ := h
  obtain ⟨session', hsess', hnext⟩ := apply_next ho e hsess
  exact ⟨session', hsess', hnext.isClosed (fun hp => cancelled_apply hp e) hc⟩

theorem Over.run (h : w.Over s) (ho : w.Orderly) (later : List Event) : (w.run later).Over s :=
  ho.run_induction (P := (Over · s)) h fun _ ho h e _ => h.apply ho e

theorem Shut.run (h : w.Shut s) (ho : w.Orderly) (later : List Event) : (w.run later).Shut s :=
  ho.run_induction (P := (Shut · s)) h fun _ ho h e _ => h.apply ho e

/-! ## Who turns to a session -/

/-- With this event an operation of the session begins. -/
def Event.StartsOperation (s : SessionId) : Event → Prop
  | .call s' _ => s' = s
  | .dispatch s' m _ => s' = s ∧ m ≠ .close
  | _ => False

/-- With this event a close of the session begins. -/
def Event.StartsClose (s : SessionId) : Event → Prop
  | .beginClose s' => s' = s
  | .dispatch s' m _ => s' = s ∧ m = .close
  | _ => False

/-- With this event somebody begins something with the session, or just looks at it. -/
def Event.TurnsTo (s : SessionId) (e : Event) : Prop :=
  e.StartsOperation s ∨ e.StartsClose s ∨ e = .ensureOpen s

theorem Event.StartsOperation.apply (he : e.StartsOperation s) (h : w.Over s) :
    w.apply e = ((w.ensureOpen s).1.refuse s .sessionClosed).1 := by
  obtain ⟨session, hsess, hover⟩ := h
  cases e with
  | call s' c =>
    obtain rfl : s' = s := he
    show (w.beginCall s' c).1 = _
    rw [beginCall_of_isOver hsess hover]
  | dispatch s' m args =>
    obtain ⟨rfl, hm⟩ : s' = s ∧ m ≠ .close := he
    show (w.dispatch s' m args).1 = _
    rw [dispatch_of_isOver hsess hover hm]
  | _ => exact he.elim

theorem Event.StartsClose.apply (he : e.StartsClose s) : w.apply e = (w.beginClose s).1 := by
  cases e with
  | beginClose s' =>
    obtain rfl : s' = s := he
    rfl
  | dispatch s' m args =>
    obtain ⟨rfl, rfl⟩ : s' = s ∧ m = .close := he
    exact congrArg Prod.fst (dispatch_close args)
  | _ => exact he.elim

theorem beginClose_eq (hsess : w.sessions[s]? = some session) :
    w.beginClose s =
      (w.putSession s { session.expire with line := session.line.join w.tasks.length }).start
        (.close s .queued) := by
  rw [beginClose, hsess]
  show (w.markClosed s w.tasks.length).start _ = _
  rw [markClosed_eq hsess]

theorem Over.shut_ensureOpen (h : w.Over s) : (w.ensureOpen s).1.Shut s := by
  obtain ⟨session, hsess, hover⟩ := h
  have hlt := (List.getElem?_eq_some_iff.1 hsess).1
  refine ⟨(session.ensureOpen w.pool w.now).1, ?_, ?_⟩
  · rw [ensureOpen_sessions hsess, List.getElem?_set_self hlt]
  · rw [ensureOpen_pool]
    exact (Session.ensureOpen_of_isOver hover).2

/-- Whoever turns to a session that is over finds it closed and leaves it so. -/
theorem Over.shut_of_turnsTo (h : w.Over s) (he : e.TurnsTo s) : (w.apply e).Shut s := by
  rcases he with he | he | rfl
  · rw [he.apply h]
    exact h.shut_ensureOpen
  · obtain ⟨session, hsess, -⟩ := h
    have hlt := (List.getElem?_eq_some_iff.1 hsess).1
    rw [he.apply, beginClose_eq hsess]
    refine ⟨_, List.getElem?_set_self hlt, ?_⟩
    simp [Session.isClosed, Session.expire]
  · exact h.shut_ensureOpen

/-! ## Refusals and closes -/

/-- The operation with this number has been refused because its session is closed. No event that is
about it changes anything. -/
structure Refused (w : Scene) (s : SessionId) (i : TaskId) : Prop where
  task : w.tasks[i]? = some (.operation s (.done (.error .sessionClosed)))
  still : ∀ e : Event, e.mover = some i → w.apply e = w

/-- No event that is about an operation that is done changes anything. -/
theorem still_of_done {r : Except Failure Report} (hi : w.tasks[i]? = some (.operation s (.done r)))
    (he : e.mover = some i) : w.apply e = w := by
  cases e with
  | step j => rw [Option.some.inj he, step_of_done hi]
  | answer j answers => rw [Option.some.inj he, answer_of_done hi]
  | abandon j => rw [Option.some.inj he, abandon_of_done hi]
  | _ => simp [Event.mover] at he

theorem refused_of_getElem?
    (hi : w.tasks[i]? = some (.operation s (.done (.error .sessionClosed)))) : w.Refused s i where
  task := hi
  still _ he := still_of_done hi he

theorem Refused.run (h : w.Refused s i) (later : List Event) : (w.run later).Refused s i :=
  run_induction (P := (Refused · s i)) h fun _ h e _ => refused_of_getElem? (done_apply h.task e)

theorem close_run {c : Closing} (hi : w.tasks[i]? = some (.close s c)) {later : List Event}
    (hl : Event.abandon i ∉ later) : ∃ c', (w.run later).tasks[i]? = some (.close s c') :=
  run_induction (P := fun t => ∃ c', t.tasks[i]? = some (.close s c')) ⟨c, hi⟩
    fun _ ⟨_, hi⟩ _ he => close_apply hi fun h => hl (h ▸ he)

/-- Once a session is closed, cancelled or past its deadline, in every run from there:

* whoever turns to it finds it closed, and it is closed for ever after;
* an operation that begins, whatever its arguments are, is refused for this one reason, and neither
  then nor later does it ask for anything;
* a close that begins can only end well, and does so unless its caller abandons it. -/
theorem session_over (options : LaunchOptions) (before later : List Event) (s : SessionId)
    (h : ((fresh options).run before).Over s) :
    let t := ((fresh options).run before).run later
    (∀ e : Event, e.TurnsTo s → ∀ after, ((t.apply e).run after).sessionState s = .closed) ∧
    (∀ e : Event, e.StartsOperation s →
      let u := t.apply e
      u.pool = t.pool ∧ u.pages = t.pages ∧ u.asked = t.asked ∧
      ∀ after, (u.run after).Refused s t.tasks.length) ∧
    (∀ e : Event, e.StartsClose s → ∀ after, Event.abandon t.tasks.length ∉ after →
      let u := (t.apply e).run after
      (∃ c, u.tasks[t.tasks.length]? = some (.close s c)) ∧ u.Ends s t.tasks.length) := by
  intro t
  have ho : SessionOrder t := (sessionOrder_run options before).run later
  have hover : t.Over s := h.run (sessionOrder_run options before).orderly later
  refine ⟨fun e he after => ?_, fun e he => ?_, fun e he after hafter => ?_⟩
  · exact ((hover.shut_of_turnsTo he).run (ho.apply e).orderly after).sessionState
  · have happ := he.apply hover
    show (t.apply e).pool = _ ∧ (t.apply e).pages = _ ∧ (t.apply e).asked = _ ∧ _
    rw [happ]
    refine ⟨ensureOpen_pool, ensureOpen_pages, ensureOpen_asked, fun after => ?_⟩
    refine (refused_of_getElem? ?_).run after
    simp [refuse]
  · obtain ⟨session, hsess, -⟩ := hover
    have hclose : (t.apply e).tasks[t.tasks.length]? = some (.close s .queued) := by
      rw [he.apply, beginClose_eq hsess]
      simp
    obtain ⟨c, hc⟩ := close_run hclose hafter
    exact ⟨⟨c, hc⟩, ((ho.apply e).run after).close_ends hc⟩

/-- A session past its deadline counts as created until somebody turns to it. A click on nothing is
then refused like all else, though its argument is at fault. -/
theorem session_over_pastDeadline :
    let t := (fresh default).run [.openSession "a" { lifetime := 10 }, .pass 10]
    t.sessionState 0 = .created ∧
      (Operation.clickOn "").toOption = none ∧
      (t.apply (.call 0 (.click ""))).sessionState 0 = .closed ∧
      (t.apply (.call 0 (.click ""))).Refused 0 0 := by
  obtain ⟨hstate, hrefused, -⟩ :=
    session_over default [.openSession "a" { lifetime := 10 }, .pass 10] [] 0
      ⟨.opened "a" { lifetime := 10 } 0, rfl, .inr (by decide)⟩
  refine ⟨rfl, by decide, ?_, ?_⟩
  · exact hstate (.call 0 (.click "")) (.inl rfl) []
  · exact (hrefused (.call 0 (.click "")) rfl).2.2.2 []

end Scene

end ScriptSandbox
