import ScriptSandbox.Proofs.Browser.PoolDown
import ScriptSandbox.Proofs.Browser.SessionOrder

/-!
# How a close comes to its end

A close waits for all that stand ahead of it in the line of its session. The session is cancelled by
then, so an operation is broken off at the next place at which it waits (`leaves_of_waits`), and it
gets there by steps of its own. So a close needs nothing from outside (`SessionOrder.close_ends`).
-/

namespace ScriptSandbox

/-- How many steps an acquire makes at most before it waits or is done. -/
def Acquire.toWait : Acquire → Nat
  | .lookingAgain => 4
  | .looking | .readingAgain | .storing _ => 3
  | .reading | .checking | .announcing _ => 2
  | .arriving | .starting | .leaving _ => 1
  | .queued | .launching | .done _ => 0

theorem Acquire.exists_step {a : Acquire} (hw : a.waits = false) (hd : ∀ r, a ≠ .done r)
    (i : TaskId) (p : Pool) : ∃ m, a.step i p = some m ∧ m.place.toWait < a.toWait := by
  cases a with
  | queued | launching => simp [waits] at hw
  | done r => exact absurd rfl (hd r)
  | reading | readingAgain =>
    cases hs : p.stored with
    | none => exact ⟨_, by rw [step, hs], by simp [toWait]⟩
    | some q => exact ⟨_, by rw [step, hs], by simp [toWait]⟩
  | looking | lookingAgain =>
    cases hr : p.running with
    | false => exact ⟨_, by rw [step, hr], by simp [toWait]⟩
    | true => exact ⟨_, by rw [step, hr], by simp [toWait]⟩
  | checking =>
    cases hc : p.cancelled with
    | false => exact ⟨_, by rw [step, hc], by simp [toWait]⟩
    | true => exact ⟨_, by rw [step, hc], by simp [toWait]⟩
  | arriving | starting | storing | announcing | leaving => exact ⟨_, rfl, by simp [toWait]⟩

/-- A task moves on by itself, or time passes. Nobody outside has to do anything. -/
def Scene.Event.IsUnaided : Scene.Event → Prop
  | .step _ | .pass _ => True
  | _ => False

namespace Scene

variable {w w' : Scene} {i h : TaskId} {s : SessionId} {t : Task} {session : Session}
variable {p : Progress}

/-- The line of a session. -/
def lineOf (w : Scene) (s : SessionId) : Line := (w.sessions[s]?.map Session.line).getD []

theorem lineOf_eq (hsess : w.sessions[s]? = some session) : w.lineOf s = session.line := by
  simp [lineOf, hsess]

theorem lineOf_congr (hs : w'.sessions = w.sessions) : w'.lineOf s = w.lineOf s := by
  rw [lineOf, lineOf, hs]

theorem lineOf_of_set (hsess : w.sessions[s]? = some session) {session' : Session}
    (hs : w'.sessions = w.sessions.set s session') : w'.lineOf s = session'.line := by
  have hlt := (List.getElem?_eq_some_iff.1 hsess).1
  exact lineOf_eq (by rw [hs, List.getElem?_set_self hlt])

/-! ## Leaving the line -/

/-- By steps of its own a task leaves the line of a session, and meanwhile no other task moves. -/
def Leaves (w : Scene) (s : SessionId) (h : TaskId) : Prop :=
  ∃ n : Nat,
    (w.run (List.replicate n (.step h))).lineOf s = (w.lineOf s).leave h ∧
    ∀ j, j ≠ h → (w.run (List.replicate n (.step h))).tasks[j]? = w.tasks[j]?

theorem leaves_of_apply (hl : (w.apply (.step h)).lineOf s = (w.lineOf s).leave h)
    (ht : (w.apply (.step h)).tasks = w.tasks.set h t) : w.Leaves s h := by
  refine ⟨1, hl, fun j hj => ?_⟩
  show (w.apply (.step h)).tasks[j]? = w.tasks[j]?
  rw [ht, List.getElem?_set_ne (Ne.symm hj)]

/-- A step that leaves the line as it is may come first. -/
theorem Leaves.of_apply (happ : w.apply (.step h) = w') (hs : w'.sessions = w.sessions)
    (ht : w'.tasks = w.tasks.set h t) (hl : w'.Leaves s h) : w.Leaves s h := by
  subst happ
  obtain ⟨n, hline, hrest⟩ := hl
  rw [lineOf_congr hs] at hline
  refine ⟨n + 1, hline, fun j hj => (hrest j hj).trans ?_⟩
  rw [ht, List.getElem?_set_ne (Ne.symm hj)]

theorem leaves_of_finish {r : Except Failure Report}
    (happ : w.apply (.step h) = w.finish s h r) (hsess : w.sessions[s]? = some session) :
    w.Leaves s h := by
  refine leaves_of_apply (t := .operation s (.done r)) ?_ ?_ <;> rw [happ]
  · have hs : (w.finish s h r).sessions = w.sessions.set s (session.leave h) := by
      rw [finish_sessions, modify_of_getElem? _ hsess]
    rw [lineOf_eq hsess]
    exact lineOf_of_set hsess hs
  · exact finish_tasks r

theorem interrupted_of_cancelled (hw : p.waits = true) (hsess : w.sessions[s]? = some session)
    (hc : session.cancelled = true) :
    w.interrupted s h p = some (w.finish s h (.error .sessionClosed)) := by
  have hint : session.interruption w.pool w.now = some (session, .sessionClosed) := by
    simp [Session.interruption, Session.isCancelled, hc]
  simp only [interrupted, hw, Bool.not_true, Bool.false_eq_true, if_false, hsess, hint]
  rw [putSession_self hsess]

theorem interrupted_of_not_waits (hw : p.waits = false) : w.interrupted s h p = none := by
  simp [interrupted, hw]

/-- An operation that waits is broken off. -/
theorem leaves_of_waits (hi : w.tasks[h]? = some (.operation s p)) (hw : p.waits = true)
    (hsess : w.sessions[s]? = some session) (hc : session.cancelled = true) : w.Leaves s h := by
  refine leaves_of_finish (r := .error .sessionClosed) ?_ hsess
  simp [apply, step, hi, stepOperation, interrupted_of_cancelled hw hsess hc]

theorem apply_step_acting {page : Option PageId} {rest : Rest}
    (hi : w.tasks[h]? = some (.operation s (.acting page rest))) :
    w.apply (.step h) = w.act s h page rest := by
  have hint : w.interrupted s h (.acting page rest) = none := interrupted_of_not_waits rfl
  simp [apply, step, hi, stepOperation, hint]

theorem getElem?_put (hi : w.tasks[h]? = some t) (t' : Task) :
    (w.put h t').tasks[h]? = some t' := by
  rw [put_tasks, List.getElem?_set_self (lt_length_of_getElem? hi)]

/-- The work of an operation ends or comes to a place at which it waits, whatever it is. -/
theorem leaves_of_acting {page : Option PageId} {rest : Rest}
    (hi : w.tasks[h]? = some (.operation s (.acting page rest)))
    (hsess : w.sessions[s]? = some session) (hc : session.cancelled = true) : w.Leaves s h := by
  induction rest generalizing w with
  | done r => exact leaves_of_finish (apply_step_acting hi) hsess
  | pause ms rest ih =>
    have happ := apply_step_acting hi
    rw [act] at happ
    by_cases hms : ms = 0
    · rw [if_pos hms] at happ
      exact .of_apply happ rfl (put_tasks ..) (ih (getElem?_put hi _) hsess)
    · rw [if_neg hms] at happ
      exact .of_apply happ rfl (put_tasks ..) (leaves_of_waits (getElem?_put hi _) rfl hsess hc)
  | clock next ih =>
    exact .of_apply (apply_step_acting hi) rfl (put_tasks ..) (ih _ (getElem?_put hi _) hsess)
  | save path content next ih =>
    exact .of_apply (apply_step_acting hi) rfl (put_tasks ..)
      (leaves_of_waits (getElem?_put hi _) rfl hsess hc)
  | call c next ih =>
    cases page with
    | none =>
      exact .of_apply (apply_step_acting hi) rfl (put_tasks ..) (ih _ (getElem?_put hi _) hsess)
    | some page =>
      exact .of_apply (apply_step_acting hi) rfl (put_tasks ..)
        (leaves_of_waits (getElem?_put hi _) rfl hsess hc)
  | callWithin ms c next ih =>
    cases page with
    | none =>
      exact .of_apply (apply_step_acting hi) rfl (put_tasks ..) (ih _ (getElem?_put hi _) hsess)
    | some page =>
      exact .of_apply (apply_step_acting hi) rfl (put_tasks ..)
        (leaves_of_waits (getElem?_put hi _) rfl hsess hc)

/-- So do its dealings with the pool. -/
theorem leaves_of_acquiring {op : Operation} {a : Acquire}
    (hi : w.tasks[h]? = some (.operation s (.acquiring op a)))
    (hsess : w.sessions[s]? = some session) (hc : session.cancelled = true) : w.Leaves s h := by
  induction hn : a.toWait using Nat.strongRecOn generalizing w a with
  | ind n ih =>
  by_cases hw : a.waits = true
  · exact leaves_of_waits hi hw hsess hc
  · have hint : w.interrupted s h (.acquiring op a) = none :=
      interrupted_of_not_waits (by simpa [Progress.waits] using hw)
    by_cases hd : ∃ r, a = .done r
    · obtain ⟨f | process, rfl⟩ := hd
      · refine leaves_of_finish (r := .error f) ?_ hsess
        simp [apply, step, hi, stepOperation, hint]
      · have happ : w.apply (.step h) =
            (w.ask (.openPage process)).put h (.operation s (.opening op process)) := by
          simp [apply, step, hi, stepOperation, hint]
        exact .of_apply happ rfl (put_tasks ..)
          (leaves_of_waits (getElem?_put hi _) rfl hsess hc)
    · obtain ⟨m, hm, hlt⟩ := Acquire.exists_step (by simpa using hw)
        (fun r hr => hd ⟨r, hr⟩) h w.pool
      have hi' : (w.takePoolMove m).tasks[h]? = some (.operation s (.acquiring op a)) := by
        rw [takePoolMove_tasks, hi]
      exact .of_apply (apply_step_acquiring hi hint hm) (by simp)
        ((put_tasks ..).trans (by rw [takePoolMove_tasks]))
        (ih m.place.toWait (hn ▸ hlt) (getElem?_put hi' _) (by simpa using hsess) rfl)

/-- A close that has its turn takes it. -/
theorem apply_step_closing (hi : w.tasks[h]? = some (.close s .queued))
    (hsess : w.sessions[s]? = some session) (hs : session.line.serves h = true) :
    (w.apply (.step h)).sessions = w.sessions.set s { session.leave h with page := none } ∧
      ∃ c, c ≠ .queued ∧ (w.apply (.step h)).tasks = w.tasks.set h (.close s c) := by
  cases hp : session.page with
  | none =>
    have happ : w.apply (.step h) =
        (w.putSession s { session.leave h with page := none }).put h (.close s .done) := by
      simp [apply, step, hi, stepClosing, hsess, hs, hp]
    exact ⟨by rw [happ]; rfl, .done, by simp, by rw [happ]; rfl⟩
  | some page =>
    have happ : w.apply (.step h) =
        ((w.putSession s { session.leave h with page := none }).ask (.page page .close)).put h
          (.close s (.closingPage (w.now + closeLimit) page)) := by
      simp [apply, step, hi, stepClosing, hsess, hs, hp]
    exact ⟨by rw [happ]; rfl, .closingPage (w.now + closeLimit) page, by simp, by rw [happ]; rfl⟩

/-- Who is first in the line of a closed session leaves it. -/
theorem SessionOrder.head_leaves (ho : SessionOrder w) (hsess : w.sessions[s]? = some session)
    (hclosed : session.closed = true) (hh : session.line.head? = some h) : w.Leaves s h := by
  have hin := ho.inOrder s session hsess
  have hc := hin.sound.cancelled_of_closed hclosed
  have hst : (w.turn h).standing s ≠ .out := (hin.kept.mem_iff h).1 (List.mem_of_mem_head? hh)
  rcases hi : w.tasks[h]? with _ | t
  · rw [turn, task, hi] at hst
    exact absurd rfl hst
  · rw [turn_eq_of_getElem? hi] at hst
    have hs : t.turn.session? = some s := by
      by_contra hne
      exact hst (Turn.standing_of_session_ne hne)
    cases t with
    | operation s' p =>
      cases p with
      | done r => simp [Task.turn, Progress.turn, Turn.session?] at hs
      | acquiring op a =>
        obtain rfl : s' = s := by simpa [Task.turn, Progress.turn, Turn.session?] using hs
        exact leaves_of_acquiring hi hsess hc
      | acting page rest =>
        obtain rfl : s' = s := by simpa [Task.turn, Progress.turn, Turn.session?] using hs
        exact leaves_of_acting hi hsess hc
      | _ =>
        obtain rfl : s' = s := by simpa [Task.turn, Progress.turn, Turn.session?] using hs
        exact leaves_of_waits hi rfl hsess hc
    | close s' c =>
      cases c with
      | queued =>
        obtain rfl : s' = s := by simpa [Task.turn, Turn.session?] using hs
        obtain ⟨hs', c, -, ht⟩ := apply_step_closing hi hsess (Line.serves_iff.2 hh)
        refine leaves_of_apply ?_ ht
        rw [lineOf_of_set hsess hs', lineOf_eq hsess]
        rfl
      | closingPage | done => exact absurd rfl hst
    | acquire | teardown | watch | gone => simp [Task.turn, Turn.session?] at hs

/-! ## The end of a close -/

/-- Steps of the tasks and the passing of time bring a close to its end. -/
def Ends (w : Scene) (s : SessionId) (i : TaskId) : Prop :=
  ∃ moves : List Event, (∀ e ∈ moves, e.IsUnaided) ∧
    (w.run moves).tasks[i]? = some (.close s .done)

theorem Ends.of_run (moves : List Event) (hm : ∀ e ∈ moves, e.IsUnaided)
    (h : (w.run moves).Ends s i) : w.Ends s i := by
  obtain ⟨moves', hm', hend⟩ := h
  refine ⟨moves ++ moves', fun e he => ?_, by rw [run_append]; exact hend⟩
  exact (List.mem_append.1 he).elim (hm e) (hm' e)

/-- A close that has had its turn waits for its page only as long as it may. -/
theorem ends_of_turned {c : Closing} (hi : w.tasks[i]? = some (.close s c)) (hc : c ≠ .queued) :
    w.Ends s i := by
  cases c with
  | queued => exact absurd rfl hc
  | done => exact ⟨[], by simp, hi⟩
  | closingPage deadline page =>
    refine ⟨[.pass deadline, .step i], by simp [Event.IsUnaided], ?_⟩
    have hi' :
        (w.apply (.pass deadline)).tasks[i]? = some (.close s (.closingPage deadline page)) := hi
    have hstep : (w.apply (.pass deadline)).step i =
        some ((w.apply (.pass deadline)).put i (.close s .done)) := by
      simp only [step, hi', stepClosing]
      exact if_pos (Nat.le_add_left ..)
    show (((w.apply (.pass deadline)).step i).getD _).tasks[i]? = _
    rw [hstep]
    exact getElem?_put hi' _

/-- Every close comes to its end, whatever stands ahead of it, and needs nobody outside for it. -/
theorem SessionOrder.close_ends (ho : SessionOrder w) {c : Closing}
    (hi : w.tasks[i]? = some (.close s c)) : w.Ends s i := by
  by_cases hc : c = .queued
  · subst hc
    induction hn : (w.lineOf s).length using Nat.strongRecOn generalizing w with
    | ind n ih =>
    obtain ⟨session, hsess⟩ := ho.orderly.session_of_turn (s := s) hi rfl
    have hin := ho.inOrder s session hsess
    have hturn : w.turn i = .closing s := turn_eq_of_getElem? hi
    have hclosed : session.closed = true := hin.fits_of_turn hturn rfl
    have hmem : i ∈ session.line := (hin.kept.mem_iff i).2 (by simp [hturn, Turn.standing])
    obtain ⟨h, hh⟩ : ∃ h, session.line.head? = some h := by
      cases hline : session.line with
      | nil => rw [hline] at hmem; simp at hmem
      | cons h l => exact ⟨h, rfl⟩
    by_cases hih : i = h
    · subst hih
      obtain ⟨-, c, hc, ht⟩ := apply_step_closing hi hsess (Line.serves_iff.2 hh)
      refine .of_run [.step i] (by simp [Event.IsUnaided]) (ends_of_turned (c := c) ?_ hc)
      show (w.apply (.step i)).tasks[i]? = _
      rw [ht, List.getElem?_set_self (lt_length_of_getElem? hi)]
    · -- the first in the line leaves it, and the line gets shorter
      obtain ⟨k, hline, hrest⟩ := ho.head_leaves hsess hclosed hh
      refine .of_run (List.replicate k (.step h)) (fun e he => ?_) ?_
      · rw [List.eq_of_mem_replicate he]
        trivial
      · refine ih _ ?_ (ho.run _) ((hrest i hih).trans hi) rfl
        rw [hline, ← hn, lineOf_eq hsess, Line.leave,
          List.length_erase_of_mem (List.mem_of_mem_head? hh)]
        have := List.length_pos_of_mem hmem
        omega
  · exact ends_of_turned hi hc

end Scene

end ScriptSandbox
