import ScriptSandbox.Proofs.Browser.Clock
import ScriptSandbox.Proofs.Browser.SessionOver

/-!
# The own result of an operation

An operation works its way from one part of its work to the next (`Progress.Of`), and what it ends
with while nothing breaks it off is what this work has come to, or the failure that has kept it from
its page (`Progress.Yields`). Its own moves neither cancel its session nor take time
(`Running.own_move`).
-/

namespace ScriptSandbox

/-- The second task is what is left of the first after some answers. -/
inductive PageTask.ComesTo {α : Type} (t : PageTask α) : PageTask α → Prop
  | refl : ComesTo t t
  | call {c : PageCall} {next : Except Failure c.Answer → PageTask α}
      (h : ComesTo t (.call c next)) (r : Except Failure c.Answer) : ComesTo t (next r)
  | callWithin {ms : Nat} {c : PageCall} {next : Option (Except Failure c.Answer) → PageTask α}
      (h : ComesTo t (.callWithin ms c next)) (r : Option (Except Failure c.Answer)) :
      ComesTo t (next r)
  | pause {ms : Nat} {next : PageTask α} (h : ComesTo t (.pause ms next)) : ComesTo t next
  | clock {next : Nat → PageTask α} (h : ComesTo t (.clock next)) (now : Nat) :
      ComesTo t (next now)
  | save {path : String} {content : List UInt8} {next : Except Failure Nat → PageTask α}
      (h : ComesTo t (.save path content next)) (r : Except Failure Nat) : ComesTo t (next r)

namespace Progress

/-- The place is one on the way of this operation. -/
def Of (op : Operation) (o : SessionOptions) : Progress → Prop
  | .queued op' | .acquiring op' _ | .opening op' _ => op' = op
  | .acting _ rest | .pausing _ _ rest => (op.work o).run.ComesTo rest
  | .asking _ _ next => ∀ r, (op.work o).run.ComesTo (next r)
  | .askingUntil _ _ _ next => ∀ r, (op.work o).run.ComesTo (next r)
  | .saving _ _ _ next => ∀ r, (op.work o).run.ComesTo (next r)
  | .done _ => True

/-- At this place the operation ends with its own result when this event happens: its work is done,
or there was no process to be had, or no page. -/
inductive Yields (op : Operation) (o : SessionOptions) (i : TaskId) :
    Progress → Scene.Event → Except Failure Report → Prop
  | worked (page : Option PageId) (r : Except Failure Report)
      (h : (op.work o).run.ComesTo (.done r)) :
      Yields op o i (.acting page (.done r)) (.step i) r
  | unacquired (f : Failure) :
      Yields op o i (.acquiring op (.done (.error f))) (.step i) (.error f)
  | unopened (process : ProcessId) (answers : Scene.Answers) (f : Failure)
      (h : answers (.openPage process) = .error f) :
      Yields op o i (.opening op process) (.answer i answers) (.error f)

end Progress

namespace Scene

variable {w w' : Scene} {e : Event} {i j : TaskId} {s : SessionId} {p : Progress}
variable {session : Session} {op : Operation} {o : SessionOptions}

/-- The operation moves by itself or on an answer. -/
def Event.IsOwn (i : TaskId) : Event → Prop
  | .step j | .answer j _ => j = i
  | _ => False

/-- The operation with this number has come to its end. -/
def Ended (w : Scene) (s : SessionId) (i : TaskId) (r : Except Failure Report) : Prop :=
  w.tasks[i]? = some (.operation s (.done r))

theorem Ended.run {r : Except Failure Report} (h : w.Ended s i r) (later : List Event) :
    (w.run later).Ended s i r :=
  run_induction (P := fun t => t.Ended s i r) h fun _ h e _ => done_apply h e

/-! ## Sessions that go on -/

/-- Nothing breaks off the operations of the session. -/
def Running (w : Scene) (s : SessionId) : Prop :=
  ∃ session, w.sessions[s]? = some session ∧ session.interruption w.pool w.now = none

theorem Running.of_session (hr : w.Running s) (hsess : w.sessions[s]? = some session) :
    session.interruption w.pool w.now = none := by
  obtain ⟨session', hsess', hint⟩ := hr
  obtain rfl : session = session' := Option.some.inj (hsess.symm.trans hsess')
  exact hint

theorem Running.of_fields (hr : w.Running s) (hs : w'.sessions = w.sessions)
    (hp : w'.pool.cancelled = w.pool.cancelled) (hn : w'.now = w.now) : w'.Running s := by
  obtain ⟨session, hsess, hint⟩ := hr
  refine ⟨session, by rw [hs, hsess], ?_⟩
  rw [Session.interruption_eq_none] at hint ⊢
  rw [hn]
  refine ⟨?_, hint.2⟩
  rw [Session.isCancelled, hp]
  exact hint.1

theorem Running.finish (hr : w.Running s) (r : Except Failure Report) :
    (w.finish s i r).Running s := by
  obtain ⟨session, hsess, hint⟩ := hr
  refine ⟨session.leave i, ?_, ?_⟩
  · rw [finish_sessions, modify_of_getElem? _ hsess,
      List.getElem?_set_self (List.getElem?_eq_some_iff.1 hsess).1]
  · rw [Session.interruption_eq_none] at hint ⊢
    rw [finish_now, finish_pool]
    exact hint

theorem Running.pageOpened (hr : w.Running s) : (w.pageOpened s).Running s := by
  obtain ⟨session, hsess, hint⟩ := hr
  rw [pageOpened_eq hsess]
  refine ⟨_, List.getElem?_set_self (List.getElem?_eq_some_iff.1 hsess).1, ?_⟩
  rw [Session.interruption_eq_none] at hint ⊢
  exact hint

theorem Running.interrupted (hr : w.Running s) : w.interrupted s i p = none := by
  cases h : w.interrupted s i p with
  | none => rfl
  | some w₁ =>
    obtain ⟨-, session, session', f, hsess, hf, -⟩ := interrupted_eq_some h
    rw [hr.of_session hsess] at hf
    simp at hf

/-- A session that goes on is open. -/
theorem SessionOrder.not_isOver (ho : SessionOrder w) (hr : w.Running s)
    (hsess : w.sessions[s]? = some session) : ¬ session.IsOver w.pool w.now := by
  obtain ⟨hc, hd⟩ := Session.interruption_eq_none.1 (hr.of_session hsess)
  rintro (hover | hover)
  · rw [Session.isClosed, hc, Bool.or_false] at hover
    have := (ho.inOrder s session hsess).sound.cancelled_of_closed hover
    simp [Session.isCancelled, this] at hc
  · omega

/-! ## Own moves -/

theorem Running.act (hr : w.Running s) (page : Option PageId) (rest : Rest) :
    (w.act s i page rest).Running s := by
  cases rest with
  | done r => exact hr.finish r
  | call c next | callWithin ms c next => cases page <;> exact hr.of_fields rfl rfl rfl
  | pause | clock | save => exact hr.of_fields rfl rfl rfl

/-- An operation that moves does not put an end to its session. -/
theorem OperationMove.running (h : w.OperationMove s i p w') (ho : SessionOrder w)
    (hr : w.Running s) : w'.Running s := by
  cases h with
  | broken p session session' f hw hsess hf =>
    rw [hr.of_session hsess] at hf
    simp at hf
  | refused op session hsess hserves hover => exact absurd hover (ho.not_isOver hr hsess)
  | turned op session =>
    unfold beginWork
    split <;> exact hr.of_fields rfl rfl rfl
  | acquiring op a m hm =>
    exact hr.of_fields (by simp) (by simpa using hm.cancelled) (by simp)
  | unacquired | unopened => exact hr.finish _
  | opened op process session => exact hr.pageOpened.of_fields rfl rfl rfl
  | lost op process => exact hr.pageOpened
  | acting page rest => exact hr.act page rest
  | acquired | rested | answered | givenUp | answeredInTime | saved =>
    exact hr.of_fields rfl rfl rfl

/-- The places to which an operation goes on, and the ends to which it comes. -/
def GoesOn (w : Scene) (s : SessionId) (i : TaskId) (op : Operation) (o : SessionOptions)
    (ended : Except Failure Report → Prop) : Prop :=
  ∃ p : Progress, w.tasks[i]? = some (.operation s p) ∧ p.Of op o ∧ ∀ r, p = .done r → ended r

variable {ended : Except Failure Report → Prop} {t : Task}

theorem goesOn_of_set (hi : w.tasks[i]? = some t)
    (ht : w'.tasks = w.tasks.set i (.operation s p)) (hp : p.Of op o)
    (he : ∀ r, p = .done r → ended r) : w'.GoesOn s i op o ended :=
  ⟨p, by rw [ht, List.getElem?_set_self (lt_length_of_getElem? hi)], hp, he⟩

theorem goesOn_act {page : Option PageId} {rest : Rest} (hi : w.tasks[i]? = some t)
    (h : (op.work o).run.ComesTo rest) (he : ∀ r, rest = .done r → ended r) :
    (w.act s i page rest).GoesOn s i op o ended := by
  have next {p : Progress} {w' : Scene} (ht : w'.tasks = w.tasks.set i (.operation s p))
      (hp : p.Of op o) (hd : ∀ r, p ≠ .done r) : w'.GoesOn s i op o ended :=
    goesOn_of_set hi ht hp fun r hr => absurd hr (hd r)
  cases rest with
  | done r =>
    refine goesOn_of_set hi (finish_tasks r) trivial fun r' hr => he r' ?_
    rw [Progress.done.inj hr]
  | pause ms rest =>
    by_cases hms : ms = 0 <;> rw [Scene.act] <;> simp only [hms, if_true, if_false]
    · exact next (put_tasks ..) h.pause (by simp)
    · exact next (put_tasks ..) h.pause (by simp)
  | clock k => exact next (put_tasks ..) (h.clock w.now) (by simp)
  | save path content k => exact next (put_tasks ..) h.save (by simp)
  | call c k =>
    cases page with
    | none => exact next (put_tasks ..) (h.call _) (by simp)
    | some page => exact next (put_tasks ..) h.call (by simp)
  | callWithin ms c k =>
    cases page with
    | none => exact next (put_tasks ..) (h.callWithin _) (by simp)
    | some page => exact next (put_tasks ..) h.callWithin (by simp)

/-- The ends that a move can bring, as far as the place before it tells. -/
def Progress.EndsWith (r : Except Failure Report) : Progress → Prop
  | .acting _ rest => rest = .done r
  | .acquiring _ a => ∃ f, a = .done (.error f) ∧ r = .error f
  | .opening _ _ => ∃ f, r = .error f
  | _ => False

theorem OperationMove.goesOn (h : w.OperationMove s i p w') (ho : SessionOrder w)
    (hr : w.Running s) (hi : w.tasks[i]? = some (.operation s p)) (hp : p.Of op o)
    (hsess : w.sessions[s]? = some session) (hopt : session.options = o) :
    w'.GoesOn s i op o fun r => Progress.EndsWith r p := by
  have next {q : Progress} (ht : w'.tasks = w.tasks.set i (.operation s q))
      (hq : q.Of op o) (hd : ∀ r, q ≠ .done r) :
      w'.GoesOn s i op o fun r => Progress.EndsWith r p :=
    goesOn_of_set hi ht hq fun r hr => absurd hr (hd r)
  cases h with
  | broken p session session' f hw hsess hf =>
    rw [hr.of_session hsess] at hf
    simp at hf
  | refused op session hsess hserves hover => exact absurd hover (ho.not_isOver hr hsess)
  | turned op' session' hsess' =>
    obtain rfl : op' = op := hp
    obtain rfl : session = session' := Option.some.inj (hsess.symm.trans hsess')
    unfold beginWork
    split
    · exact goesOn_of_set hi (put_tasks ..) rfl (by simp)
    · subst hopt
      exact goesOn_of_set hi (put_tasks ..) .refl (by simp)
  | acquiring op' a m => exact next (q := .acquiring op' m.place) (by simp) hp (by simp)
  | unacquired op' f =>
    refine goesOn_of_set hi (finish_tasks _) trivial fun r h => ⟨f, rfl, ?_⟩
    exact (Progress.done.inj h).symm
  | acquired op' process => exact next (put_tasks ..) hp (by simp)
  | unopened op' process f =>
    refine goesOn_of_set hi (finish_tasks _) trivial fun r h => ⟨f, ?_⟩
    exact (Progress.done.inj h).symm
  | opened op' process session' hsess' =>
    obtain rfl : op' = op := hp
    obtain rfl : session = session' := Option.some.inj (hsess.symm.trans hsess')
    subst hopt
    exact next (q := .acting (some w.pages) (op'.work session.options).run) (by simp)
      PageTask.ComesTo.refl (by simp)
  | lost op' process hnone =>
    rw [hsess] at hnone
    simp at hnone
  | acting page rest => exact goesOn_act hi hp fun r h => h
  | rested deadline page rest => exact next (put_tasks ..) hp (by simp)
  | answered page c k r => exact next (put_tasks ..) (hp r) (by simp)
  | givenUp deadline page c k => exact next (put_tasks ..) (hp none) (by simp)
  | answeredInTime deadline page c k r => exact next (put_tasks ..) (hp (some r)) (by simp)
  | saved page path content k r => exact next (put_tasks ..) (hp r) (by simp)

/-- A page that has been opened ends no operation. -/
theorem not_ended_of_opened {process : ProcessId} {answers : Answers}
    (hi : w.tasks[i]? = some (.operation s (.opening op process))) (hr : w.Running s)
    (ha : answers (.openPage process) = .ok ()) (r : Except Failure Report) :
    ¬ (w.answer i answers).Ended s i r := by
  intro hend
  have hint : w.interrupted s i (.opening op process) = none := hr.interrupted
  obtain ⟨session, hsess, -⟩ := hr.pageOpened
  unfold Ended at hend
  simp only [answer, hi, answerOperation, hint, ha, hsess] at hend
  rw [put_tasks, pageOpened_tasks, List.getElem?_set_self (lt_length_of_getElem? hi)] at hend
  simp at hend

theorem yields_of_step {r : Except Failure Report} (hr : w.Running s) (hp : p.Of op o)
    (h : w.stepOperation s i p = some w') (hend : Progress.EndsWith r p) :
    p.Yields op o i (.step i) r := by
  cases p with
  | acting page rest =>
    obtain rfl : rest = .done r := hend
    exact .worked page r hp
  | acquiring op' a =>
    obtain rfl : op' = op := hp
    obtain ⟨f, rfl, rfl⟩ := hend
    exact .unacquired f
  | opening op' process =>
    have hint : w.interrupted s i (.opening op' process) = none := hr.interrupted
    simp [stepOperation, hint] at h
  | _ => exact hend.elim

theorem yields_of_answer {r : Except Failure Report} {answers : Answers}
    (hi : w.tasks[i]? = some (.operation s p)) (hr : w.Running s) (hp : p.Of op o)
    (h : (w.answer i answers).Ended s i r) (hend : Progress.EndsWith r p) :
    p.Yields op o i (.answer i answers) r := by
  have hint : w.interrupted s i p = none := hr.interrupted
  cases p with
  | acting page rest =>
    have hsame : w.answer i answers = w := by simp only [answer, hi, answerOperation, hint]
    rw [hsame, Ended, hi] at h
    simp at h
  | acquiring op' a =>
    obtain ⟨f, rfl, -⟩ := hend
    have hsame : w.answer i answers = w := by simp only [answer, hi, answerOperation, hint]
    rw [hsame, Ended, hi] at h
    simp at h
  | opening op' process =>
    obtain rfl : op' = op := hp
    cases ha : answers (.openPage process) with
    | ok u => exact absurd h (not_ended_of_opened hi hr ha r)
    | error f =>
      have hfinish : w.answer i answers = w.finish s i (.error f) := by
        simp only [answer, hi, answerOperation, hint, ha]
      rw [hfinish, Ended, finish_tasks, List.getElem?_set_self (lt_length_of_getElem? hi)] at h
      obtain rfl : Except.error f = r := by simpa using h
      exact .unopened process answers f ha
  | _ => exact hend.elim

/-- While its session goes on, an operation that moves on its own goes on or ends with its own
result, and its session still goes on. -/
theorem Running.own_move (hr : w.Running s) (ho : SessionOrder w)
    (hi : w.tasks[i]? = some (.operation s p)) (hp : p.Of op o)
    (hsess : w.sessions[s]? = some session) (hopt : session.options = o) (he : e.IsOwn i) :
    (w.apply e).Running s ∧
      (w.apply e).GoesOn s i op o fun r => w.Ended s i r ∨ p.Yields op o i e r := by
  have stay : w.GoesOn s i op o fun r => w.Ended s i r ∨ p.Yields op o i e r := by
    refine ⟨p, hi, hp, fun r h => .inl ?_⟩
    rw [Ended, hi, h]
  cases e with
  | step j =>
    obtain rfl : j = i := he
    have hstep : w.step j = w.stepOperation s j p := by simp only [step, hi]
    show ((w.step j).getD w).Running s ∧ ((w.step j).getD w).GoesOn s j op o _
    rw [hstep]
    cases h : w.stepOperation s j p with
    | none => exact ⟨hr, stay⟩
    | some w' =>
      have hmove := operationMove_of_step h
      obtain ⟨q, hq, hqof, hqend⟩ := hmove.goesOn ho hr hi hp hsess hopt
      refine ⟨hmove.running ho hr, q, hq, hqof, fun r hqr => .inr ?_⟩
      exact yields_of_step hr hp h (hqend r hqr)
  | answer j answers =>
    obtain rfl : j = i := he
    have hanswer : w.answer j answers = w.answerOperation s j p answers := by
      simp only [answer, hi]
    show (w.answer j answers).Running s ∧ (w.answer j answers).GoesOn s j op o _
    rcases operationMove_of_answer (w := w) (s := s) (i := j) (p := p) answers with heq | hmove
    · rw [hanswer, heq]
      exact ⟨hr, stay⟩
    · rw [← hanswer] at hmove
      obtain ⟨q, hq, hqof, hqend⟩ := hmove.goesOn ho hr hi hp hsess hopt
      refine ⟨hmove.running ho hr, q, hq, hqof, fun r hqr => .inr ?_⟩
      exact yields_of_answer hi hr hp (by rw [Ended, hq, hqr]) (hqend r hqr)
  | _ => exact he.elim

end Scene

end ScriptSandbox
