import ScriptSandbox.Proofs.Browser.PoolDown
import ScriptSandbox.Proofs.Browser.Quiescent

/-!
# Sessions side by side

An event is about one session at most (`Event.Concerns`), and a session that it is not about stays
what it is. Nothing is asked of its page then, and the pool is not cancelled. As long as no teardown
begins either, the process that all sessions share stays where it is. A cancellation goes down from
the pool to its sessions and in no other direction.
-/

namespace ScriptSandbox.Scene

variable {w w' : Scene} {e : Event} {i : TaskId} {s s' : SessionId} {p : Progress}
  {session : Session}

/-! ## The other sessions -/

theorem withdraw_session_of_ne (hs : s ≠ s') :
    (w.withdraw s' i).sessions[s]? = w.sessions[s]? := by
  rw [withdraw_sessions, List.getElem?_modify_ne _ _ hs.symm]

theorem finish_session_of_ne (hs : s ≠ s') (r : Except Failure Report) :
    (w.finish s' i r).sessions[s]? = w.sessions[s]? := withdraw_session_of_ne hs

theorem putSession_session_of_ne (hs : s ≠ s') (session : Session) :
    (w.putSession s' session).sessions[s]? = w.sessions[s]? :=
  List.getElem?_set_ne hs.symm

theorem pageOpened_session_of_ne (hs : s ≠ s') :
    (w.pageOpened s').sessions[s]? = w.sessions[s]? := by
  unfold pageOpened
  dsimp only
  split
  · exact putSession_session_of_ne hs _
  · rfl

theorem markClosed_session_of_ne (hs : s ≠ s') :
    (w.markClosed s' i).sessions[s]? = w.sessions[s]? := by
  unfold markClosed
  split
  · exact putSession_session_of_ne hs _
  · rfl

theorem ensureOpen_session_of_ne (hs : s ≠ s') :
    (w.ensureOpen s').1.sessions[s]? = w.sessions[s]? := by
  unfold ensureOpen
  split
  · rfl
  · exact putSession_session_of_ne hs _

theorem act_session_of_ne (hs : s ≠ s') (page : Option PageId) (rest : Rest) :
    (w.act s' i page rest).sessions[s]? = w.sessions[s]? := by
  cases rest with
  | done r => exact finish_session_of_ne hs r
  | call c next | callWithin ms c next => cases page <;> rfl
  | pause | clock | save => rfl

theorem OperationMove.session_of_ne (h : w.OperationMove s' i p w') (hs : s ≠ s') :
    w'.sessions[s]? = w.sessions[s]? := by
  cases h with
  | broken | refused =>
    exact (finish_session_of_ne hs _).trans (putSession_session_of_ne hs _)
  | turned op session =>
    unfold beginWork
    split <;> rfl
  | acquiring op a m => rw [put_sessions, takePoolMove_sessions]
  | unacquired | unopened => exact finish_session_of_ne hs _
  | opened | lost => exact pageOpened_session_of_ne hs
  | acting page rest => exact act_session_of_ne hs page rest
  | acquired | rested | answered | givenUp | answeredInTime | saved => rfl

theorem ClosingMove.session_of_ne {c : Closing} (h : w.ClosingMove s' i c w') (hs : s ≠ s') :
    w'.sessions[s]? = w.sessions[s]? := by
  cases h with
  | taken | takenNothing => exact putSession_session_of_ne hs _
  | lost | ended => rfl

theorem Begun.session_of_ne (h : Begun w s' w') (hs : s ≠ s') :
    w'.sessions[s]? = w.sessions[s]? := by
  cases h with
  | refused f => exact ensureOpen_session_of_ne hs
  | queued session op hsess =>
    rw [joinLine_eq hsess]
    exact putSession_session_of_ne hs _
  | closing =>
    unfold beginClose
    split
    · exact markClosed_session_of_ne hs
    · rfl

/-! ## Events -/

/-- The event is about the session. -/
def Event.Concerns (w : Scene) (s : SessionId) : Event → Prop
  | .step i | .answer i _ | .abandon i => (w.task i).session? = some s
  | .call s' _ | .dispatch s' _ _ | .beginClose s' | .beginWatch s' | .ensureOpen s' => s' = s
  | .pass _ | .openSession _ _ | .beginAcquire | .beginTeardown | .cancelPool => False

theorem session_step (h : w.step i = some w') (hs : (w.task i).session? ≠ some s) :
    w'.sessions[s]? = w.sessions[s]? := by
  unfold step at h
  split at h
  · simp at h
  · obtain ⟨m, -, rfl⟩ := Option.map_eq_some_iff.1 h
    rw [put_sessions, takePoolMove_sessions]
  · obtain ⟨m, -, rfl⟩ := Option.map_eq_some_iff.1 h
    rw [put_sessions, takePoolMove_sessions]
  all_goals rename_i hi; rw [task_eq_of_getElem? hi] at hs
  · exact (operationMove_of_step h).session_of_ne fun heq => hs (congrArg some heq.symm)
  · exact (closingMove_of_step h).session_of_ne fun heq => hs (congrArg some heq.symm)
  · unfold stepWatch at h
    split at h
    · simp at h
    · obtain ⟨-, rfl⟩ : _ ∧ _ = w' := by simpa using h
      exact markClosed_session_of_ne fun heq => hs (congrArg some heq.symm)
  · simp at h

theorem session_answer (answers : Answers) (hs : (w.task i).session? ≠ some s) :
    (w.answer i answers).sessions[s]? = w.sessions[s]? := by
  unfold answer
  split
  · rw [put_sessions, takePoolMove_sessions]
  · rw [put_sessions, takePoolMove_sessions]
  · rename_i s' x hi
    rw [task_eq_of_getElem? hi] at hs
    rcases operationMove_of_answer answers with heq | hmove
    · rw [heq]
    · exact hmove.session_of_ne fun heq => hs (congrArg some heq.symm)
  · rfl
  · rfl

theorem session_abandon (hs : (w.task i).session? ≠ some s) :
    (w.abandon i).sessions[s]? = w.sessions[s]? := by
  unfold abandon
  split
  · rfl
  · rename_i t hi
    rw [task_eq_of_getElem? hi] at hs
    split
    · rfl
    · split
      · rename_i s' hs'
        have hne : s ≠ s' := by
          rintro rfl
          exact hs hs'
        exact withdraw_session_of_ne hne
      · rfl

/-- An event leaves a session alone that it is not about. -/
theorem session_apply (hsess : w.sessions[s]? = some session) (he : ¬ e.Concerns w s) :
    (w.apply e).sessions[s]? = some session := by
  cases e with
  | step i =>
    show ((w.step i).getD w).sessions[s]? = _
    cases hstep : w.step i with
    | none => exact hsess
    | some w' => exact (session_step hstep he).trans hsess
  | answer i answers => exact (session_answer answers he).trans hsess
  | abandon i => exact (session_abandon he).trans hsess
  | openSession label options =>
    show (w.sessions ++ [_])[s]? = _
    rw [List.getElem?_append_left (List.getElem?_eq_some_iff.1 hsess).1, hsess]
  | call s' c => exact ((begun_beginCall c).session_of_ne (Ne.symm he)).trans hsess
  | dispatch s' m args => exact ((begun_dispatch m args).session_of_ne (Ne.symm he)).trans hsess
  | beginClose s' => exact (Begun.closing.session_of_ne (Ne.symm he)).trans hsess
  | ensureOpen s' => exact (ensureOpen_session_of_ne (Ne.symm he)).trans hsess
  | pass | beginWatch | beginAcquire | beginTeardown | cancelPool => exact hsess

/-- Only a cancellation of the pool cancels the pool. -/
theorem pool_cancelled_apply (w : Scene) (he : e ≠ .cancelPool) :
    (w.apply e).pool.cancelled = w.pool.cancelled := by
  cases apply_poolChange w e with
  | acquire i a m hi hm hp => rw [hp]; cases hm <;> rfl
  | teardown i t m hi hm hp => rw [hp]; cases hm <;> rfl
  | cancelled hp hs ha hcancel => exact absurd hcancel he
  | rest hp | entered _ _ _ _ hp | left _ _ hp | received _ _ _ hp =>
    exact (congrArg Pool.cancelled hp :)

theorem Event.concerns_of_mover (he : e.mover = some i) (hi : (w.task i).session? = some s) :
    e.Concerns w s := by
  cases e with
  | step j | answer j answers | abandon j =>
    obtain rfl : j = i := by simpa [Event.mover] using he
    exact hi
  | _ => simp [Event.mover] at he

/-- Nothing is asked of the page of a session that the event is not about. -/
theorem calls_apply (ho : SessionOrder w) (hp : PageOrder w) {q : PageId}
    (hsess : w.sessions[s]? = some session) (hpage : session.page = some q)
    (he : ¬ e.Concerns w s) (c : PageCall) : (w.apply e).calls q c = w.calls q c := by
  have hstores : w.Stores s q := ⟨session, hsess, hpage⟩
  by_cases hc : c = .close
  · -- whoever closes the page takes it out of the session
    subst hc
    have hstays : (w.apply e).Stores s q := ⟨session, session_apply hsess he, hpage⟩
    have hle : w.closes q ≤ (w.apply e).closes q :=
      (apply_sessionStep ho.orderly e).change.calls_le q .close
    have hopen := (hp.of_change (apply_sessionStep ho.orderly e).change).open' s q hstays
    show (w.apply e).closes q = w.closes q
    omega
  · rcases Nat.lt_or_ge (w.calls q c) ((w.apply e).calls q c) with hlt | hge
    · obtain ⟨s', i, hmover, ⟨x, hi, -⟩, hstores'⟩ := ho.caller hc hlt
      obtain rfl := hp.unique s s' q hstores hstores'
      exact absurd (Event.concerns_of_mover hmover (by rw [task_eq_of_getElem? hi]; rfl)) he
    · exact Nat.le_antisymm hge ((apply_sessionStep ho.orderly e).change.calls_le q c)

/-! ## Runs -/

/-- All of the events are about other sessions, and none of them ends the pool. -/
def Spares (s : SessionId) : Scene → List Event → Prop
  | _, [] => True
  | w, e :: later =>
    ¬ e.Concerns w s ∧ e ≠ .cancelPool ∧ e ≠ .beginTeardown ∧ Spares s (w.apply e) later

theorem Spares.induction {P : Scene → Prop} {later : List Event} (h : Spares s w later) (hw : P w)
    (keep : ∀ u e, P u → ¬ e.Concerns u s → e ≠ .cancelPool → e ≠ .beginTeardown →
      P (u.apply e)) : P (w.run later) := by
  induction later generalizing w with
  | nil => exact hw
  | cons e later ih =>
    obtain ⟨he, hcancel, hteardown, hlater⟩ := h
    exact ih hlater (keep w e hw he hcancel hteardown)

/-- Nothing changes for a session that all events spare. -/
theorem Spares.keeps_session {later : List Event} (h : Spares s w later) (ho : SessionOrder w)
    (hp : PageOrder w) (hsess : w.sessions[s]? = some session) :
    (w.run later).sessions[s]? = some session ∧
      (w.run later).pool.cancelled = w.pool.cancelled ∧
      ∀ q c, session.page = some q → (w.run later).calls q c = w.calls q c := by
  have hkept := h.induction (P := fun u => (SessionOrder u ∧ PageOrder u) ∧
      u.sessions[s]? = some session ∧ u.pool.cancelled = w.pool.cancelled ∧
      ∀ q c, session.page = some q → u.calls q c = w.calls q c)
    ⟨⟨ho, hp⟩, hsess, rfl, fun _ _ _ => rfl⟩
    (fun u e ⟨⟨ho, hp⟩, hsess, hcancelled, hcalls⟩ he hcancel _ => by
      refine ⟨⟨ho.apply e, hp.of_change (apply_sessionStep ho.orderly e).change⟩,
        session_apply hsess he, (pool_cancelled_apply u hcancel).trans hcancelled,
        fun q c hpage => ?_⟩
      rw [calls_apply ho hp hsess hpage he, hcalls q c hpage])
  exact hkept.2

/-! ## The process they share -/

variable {p q : ProcessId}

/-- As long as no teardown is under way, a process that has come up is stored, but for the moment in
which the task that started it stores it. -/
theorem Calm.stored_or_storing (h : w.Calm p) (ho : PoolOrder w) (hs : w.pool.started = p + 1) :
    w.pool.stored = some p ∨ ∃ i, w.place i = .acquiring (.storing p) := by
  have not_bare (hb : w.pool.Bare w.shutDowns) : False := by
    have := hb.told.unique h.told
    omega
  have of_stores {q : ProcessId} (hq : w.pool.Stores w.shutDowns q) : w.pool.stored = some p := by
    rw [hq.stored, hq.told.unique h.told]
  have of_settled (hset : w.pool.Settled w.shutDowns) : w.pool.stored = some p := by
    rcases hset with hb | ⟨-, q, hq⟩
    · exact (not_bare hb).elim
    · exact of_stores hq
  rcases ho.holding_or_settled with ⟨i, hi⟩ | hset
  · have hfits := ho.fits_of_holding hi
    cases hx : w.place i with
    | away => rw [hx] at hi; simp [PoolPlace.standing] at hi
    | tearing t =>
      obtain rfl := h.teardowns i t hx
      rw [hx] at hi
      simp [PoolPlace.standing] at hi
    | acquiring a =>
      rw [hx] at hfits
      cases a with
      | storing q =>
        obtain rfl : q = p := hfits.told.unique h.told
        exact .inr ⟨i, hx⟩
      | announcing q => exact .inl (of_stores hfits.2)
      | leaving r =>
        cases r with
        | ok q => exact .inl (of_stores hfits.2)
        | error f => exact (not_bare hfits).elim
      | checking | starting | launching => exact (not_bare hfits).elim
      | _ => exact .inl (of_settled hfits)
  · exact .inl (of_settled hset)

/-- The task that has started a process stores it in its next step. -/
theorem stored_step_storing (hi : w.place i = .acquiring (.storing p)) :
    (w.apply (.step i)).pool.stored = some p := by
  unfold place task at hi
  rcases htask : w.tasks[i]? with _ | (a | t | ⟨s, x⟩ | ⟨s, c⟩ | s | _)
  all_goals rw [htask] at hi
  · simp [Task.poolPlace] at hi
  · obtain rfl : a = .storing p := by simpa [Task.poolPlace] using hi
    rw [apply_step_acquire htask rfl]
    simp
  · simp [Task.poolPlace] at hi
  · cases x with
    | acquiring op a =>
      obtain rfl : a = .storing p := by simpa [Task.poolPlace] using hi
      rw [apply_step_acquiring htask rfl rfl]
      simp
    | _ => simp [Task.poolPlace] at hi
  all_goals simp [Task.poolPlace] at hi

/-- Without a teardown, nobody takes the process away. -/
theorem Calm.process_apply (h : w.Calm p) (ho : PoolOrder w) (he : e ≠ .beginTeardown) :
    (w.apply e).shutDowns = w.shutDowns ∧ (w.apply e).pool.stopped = w.pool.stopped ∧
      (w.pool.stored = some q → (w.apply e).pool.stored = some q) := by
  have hcalm := h.apply he
  refine ⟨?_, ?_, fun hq => ?_⟩
  · funext q
    rw [hcalm.told q, h.told q]
  · cases apply_poolChange w e with
    | acquire i a m hi hm hp => rw [hp]; cases hm <;> rfl
    | teardown i t m hi hm hp =>
      obtain rfl := h.teardowns i t hi
      cases hm
    | rest hp | cancelled hp | entered _ _ _ _ hp | left _ _ hp | received _ _ _ hp =>
      exact (congrArg Pool.stopped hp :)
  · rcases stored_apply w e with hs | ⟨i, q', hi, -, -⟩ | ⟨i, q', -, hi, -⟩
    · exact hs.trans hq
    · rw [(ho.loose_of_storing hi).stored] at hq
      simp at hq
    · have := h.teardowns i _ hi
      simp at this

theorem Calm.process_run {later : List Event} (h : w.Calm p) (ho : PoolOrder w)
    (hl : Event.beginTeardown ∉ later) :
    (w.run later).shutDowns = w.shutDowns ∧ (w.run later).pool.stopped = w.pool.stopped ∧
      ∀ q, w.pool.stored = some q → (w.run later).pool.stored = some q := by
  refine (ho.run_induction (P := fun t => t.Calm p ∧ t.shutDowns = w.shutDowns ∧
    t.pool.stopped = w.pool.stopped ∧ ∀ q, w.pool.stored = some q → t.pool.stored = some q)
    ⟨h, rfl, rfl, fun _ hq => hq⟩ ?_).2
  rintro t ho ⟨ht, htold, hstopped, hstored⟩ e he
  have hne : e ≠ .beginTeardown := fun heq => hl (heq ▸ he)
  obtain ⟨htold', hstopped', -⟩ := ht.process_apply (q := p) ho hne
  exact ⟨ht.apply hne, htold'.trans htold, hstopped'.trans hstopped, fun q hq =>
    (ht.process_apply ho hne).2.2 (hstored q hq)⟩

theorem Spares.beginTeardown_not_mem {later : List Event} (h : Spares s w later) :
    Event.beginTeardown ∉ later := by
  induction later generalizing w with
  | nil => simp
  | cons e later ih =>
    obtain ⟨-, -, hteardown, hlater⟩ := h
    exact List.not_mem_cons_of_ne_of_not_mem (Ne.symm hteardown) (ih hlater)

/-! ## All together -/

/-- Whatever happens to all sessions but one, as long as nobody ends the pool:

* the one session stays what it is, in all its parts and its state, and nothing is asked of its page;
* if no teardown was under way, no process is shut down, a process that is stored stays stored, and
  one that comes up is stored at once.

A cancellation of the pool closes every session, also those that are opened later. -/
theorem siblings_isolated (options : LaunchOptions) (before : List Event) :
    let w := (fresh options).run before
    (∀ s session later, w.sessions[s]? = some session → Spares s w later →
      let t := w.run later
      (t.sessions[s]? = some session ∧
        session.isCancelled t.pool = session.isCancelled w.pool ∧
        t.sessionState s = w.sessionState s ∧
        ∀ q c, session.page = some q → t.calls q c = w.calls q c) ∧
      ((∀ i x, w.place i = .tearing x → x = .done) →
        t.shutDowns = w.shutDowns ∧ t.pool.stopped = w.pool.stopped ∧
        (∀ p, w.pool.stored = some p → t.pool.stored = some p ∧ t.shutDowns p = 0) ∧
        ∀ p, p < t.pool.started → t.shutDowns p = 0 → t.pool.stored = some p ∨
          ∃ i, t.place i = .acquiring (.storing p) ∧
            (t.apply (.step i)).pool.stored = some p)) ∧
    ∀ later s session, ((w.apply .cancelPool).run later).sessions[s]? = some session →
      session.isCancelled ((w.apply .cancelPool).run later).pool = true ∧
        ((w.apply .cancelPool).run later).sessionState s = .closed := by
  intro w
  have hsessions : SessionOrder w := sessionOrder_run options before
  have hpool : PoolOrder w := poolOrder_run options before
  refine ⟨fun s session later hsess hspares => ?_, fun later s session hsess => ?_⟩
  · intro t
    obtain ⟨hsess', hcancelled, hcalls⟩ :=
      hspares.keeps_session hsessions (pageOrder_run options before) hsess
    have hsame : session.isCancelled t.pool = session.isCancelled w.pool := by
      rw [Session.isCancelled, Session.isCancelled, hcancelled]
    have hstate : t.sessionState s = w.sessionState s := by
      simp only [sessionState, hsess, t, hsess']
      rw [Session.state, Session.state, Session.isClosed, Session.isClosed, hsame]
    refine ⟨⟨hsess', hsame, hstate, hcalls⟩, fun hcalm => ?_⟩
    · obtain ⟨p, hp⟩ := exists_calm hpool hcalm
      have hno := hspares.beginTeardown_not_mem
      have ht : PoolOrder t := hpool.run later
      obtain ⟨htold, hstopped, hstored⟩ := hp.process_run hpool hno
      refine ⟨htold, hstopped, fun q hq => ⟨hstored q hq, ht.shutDowns_of_stored (hstored q hq)⟩,
        fun q hlt hq => ?_⟩
      have hcalm' : t.Calm p := hp.run hno
      have hstarted := hcalm'.started ht
      -- all processes before this one have been told to shut down
      obtain rfl : q = p := by
        have := hcalm'.told q
        split at this <;> omega
      refine (hcalm'.stored_or_storing ht (by omega)).imp_right ?_
      rintro ⟨i, hi⟩
      exact ⟨i, hi, stored_step_storing hi⟩
  · have hcancelled : ((w.apply .cancelPool).run later).pool.cancelled = true :=
      run_induction (P := fun t => t.pool.cancelled = true) rfl fun _ h e _ => cancelled_apply h e
    have hclosed : session.isCancelled ((w.apply .cancelPool).run later).pool = true := by
      rw [Session.isCancelled, hcancelled, Bool.or_true]
    refine ⟨hclosed, ?_⟩
    rw [sessionState, hsess]
    exact Session.state_eq_closed_iff.2 (by rw [Session.isClosed, hclosed, Bool.or_true])

namespace Expired

/-- The first of two sessions opens its page in a browser that it starts. -/
def before : List Event :=
  .openSession "a" { lifetime := 60 } :: .openSession "b" { lifetime := 10 } ::
    .call 0 .getUrl :: List.replicate 7 (.step 0) ++ .answer 0 .obliging ::
      List.replicate 4 (.step 0) ++ [.answer 0 .obliging]

/-- The lifetime of the second one ends while an operation waits, and it is closed. -/
def later : List Event := [.call 1 .getUrl, .pass 10, .step 1, .beginClose 1, .step 2]

def scene : Scene := (fresh default).run before

theorem spares : Spares 0 scene later := by
  have hstep : ((scene.run [.call 1 .getUrl, .pass 10]).task 1).session? ≠ some 0 := by
    decide +kernel
  have hclose : ((scene.run [.call 1 .getUrl, .pass 10, .step 1, .beginClose 1]).task 2).session? ≠
      some 0 := by
    decide +kernel
  exact ⟨nofun, nofun, nofun, id, nofun, nofun, hstep, nofun, nofun, nofun, nofun, nofun, hclose,
    nofun, nofun, trivial⟩

theorem calm (i : TaskId) (x : Teardown) (hx : scene.place i = .tearing x) : x = .done := by
  have hi := getElem?_of_place_tearing hx
  have hlen : scene.tasks.length = 1 := by decide +kernel
  obtain rfl : i = 0 := Nat.lt_one_iff.1 (hlen ▸ lt_length_of_getElem? hi)
  have hop : scene.tasks[0]?.bind Task.session? = some 0 := by decide +kernel
  rw [hi] at hop
  simp [Task.session?] at hop

end Expired

open Expired in
/-- The one session goes on with its page and the browser while the other expires. -/
theorem siblings_isolated_expired :
    (scene.run later).sessionState 1 = .closed ∧ (scene.run later).sessionState 0 = .active ∧
      (scene.run later).pool.stored = some 0 ∧ (scene.run later).shutDowns 0 = 0 := by
  have hactive : scene.sessions[0]?.isSome = true := by decide +kernel
  have hsess := (Option.some_get hactive).symm
  obtain ⟨hsession, hprocess⟩ := (siblings_isolated default before).1 0 _ later hsess spares
  obtain ⟨-, -, hstored, -⟩ := hprocess calm
  have hclosed : (scene.run later).sessionState 1 = .closed := by decide +kernel
  have hstate : scene.sessionState 0 = .active := by decide +kernel
  exact ⟨hclosed, hsession.2.2.1.trans hstate, hstored 0 (by decide +kernel)⟩

end ScriptSandbox.Scene
