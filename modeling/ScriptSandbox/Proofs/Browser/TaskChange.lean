import ScriptSandbox.Proofs.Browser.OperationMoves

/-!
# What an event does to the tasks

An event moves the one task that it is about, if it is about any, or adds a task
(`getElem?_apply_of_ne`). An operation that is done stays as it is (`done_apply`), and a close stays
a close until it is abandoned (`close_apply`).
-/

namespace ScriptSandbox.Scene

variable {w w' : Scene} {e : Event} {i j : TaskId} {s : SessionId} {t : Task} {p : Progress}

/-- The task that an event is about. -/
def Event.mover : Event → Option TaskId
  | .step i | .answer i _ | .abandon i => some i
  | _ => none

/-- No other task moves than this one. -/
def MovesOnly (w : Scene) (i : TaskId) (w' : Scene) : Prop := ∃ t, w'.tasks = w.tasks.set i t

theorem MovesOnly.of_eq (h : w'.tasks = w.tasks) : w.MovesOnly i w' := by
  refine ⟨w.task i, h.trans ?_⟩
  cases hi : w.tasks[i]? with
  | none => exact (set_of_getElem?_none hi).symm
  | some t =>
    obtain ⟨hlt, rfl⟩ := List.getElem?_eq_some_iff.1 hi
    rw [task_eq_of_getElem? hi, List.set_getElem_self]

theorem MovesOnly.refl : w.MovesOnly i w := .of_eq rfl

theorem movesOnly_put (t : Task) (h : w'.tasks = w.tasks) : w.MovesOnly i (w'.put i t) :=
  ⟨t, by rw [put_tasks, h]⟩

/-! ## Operations -/

theorem movesOnly_act (page : Option PageId) (rest : Rest) :
    w.MovesOnly i (w.act s i page rest) := by
  cases rest with
  | done r => exact ⟨_, finish_tasks r⟩
  | call c next | callWithin ms c next => cases page <;> exact movesOnly_put _ rfl
  | pause | clock | save => exact movesOnly_put _ rfl

theorem OperationMove.movesOnly (h : w.OperationMove s i p w') : w.MovesOnly i w' := by
  cases h with
  | broken | refused | unacquired | unopened => exact ⟨_, finish_tasks _⟩
  | turned op session =>
    unfold beginWork
    split <;> exact movesOnly_put _ rfl
  | acquiring op a m => exact movesOnly_put _ takePoolMove_tasks
  | opened op process session => exact movesOnly_put _ pageOpened_tasks
  | lost op process => exact .of_eq pageOpened_tasks
  | acting page rest => exact movesOnly_act page rest
  | acquired | rested | answered | givenUp | answeredInTime | saved => exact movesOnly_put _ rfl

/-! ## Closes and watches -/

theorem ClosingMove.tasks {c : Closing} (h : w.ClosingMove s i c w') :
    ∃ c', w'.tasks = w.tasks.set i (.close s c') := by
  cases h with
  | taken | takenNothing | lost | ended => exact ⟨_, rfl⟩

theorem movesOnly_stepWatch (h : w.stepWatch s i = some w') : w.MovesOnly i w' := by
  unfold stepWatch at h
  split at h
  · simp at h
  · obtain ⟨-, rfl⟩ : _ ∧ _ = w' := by simpa using h
    exact movesOnly_put _ markClosed_tasks

/-! ## Events -/

theorem movesOnly_step (h : w.step i = some w') : w.MovesOnly i w' := by
  unfold step at h
  split at h
  · simp at h
  · obtain ⟨m, -, rfl⟩ := Option.map_eq_some_iff.1 h
    exact movesOnly_put _ takePoolMove_tasks
  · obtain ⟨m, -, rfl⟩ := Option.map_eq_some_iff.1 h
    exact movesOnly_put _ takePoolMove_tasks
  · exact (operationMove_of_step h).movesOnly
  · obtain ⟨c, hc⟩ := (closingMove_of_step h).tasks
    exact ⟨_, hc⟩
  · exact movesOnly_stepWatch h
  · simp at h

theorem movesOnly_answer (answers : Answers) : w.MovesOnly i (w.answer i answers) := by
  unfold answer
  split
  · exact movesOnly_put _ takePoolMove_tasks
  · exact movesOnly_put _ takePoolMove_tasks
  · rcases operationMove_of_answer answers with heq | hmove
    · exact .of_eq (congrArg Scene.tasks heq)
    · exact hmove.movesOnly
  · exact movesOnly_put _ rfl
  · exact .refl

theorem movesOnly_abandon : w.MovesOnly i (w.abandon i) := by
  unfold abandon
  split
  · exact .refl
  · split
    · exact .refl
    · split
      · exact movesOnly_put _ withdraw_tasks
      · exact movesOnly_put _ rfl

theorem MovesOnly.getElem? (h : w.MovesOnly i w') (hj : j ≠ i) :
    w'.tasks[j]? = w.tasks[j]? := by
  obtain ⟨t, ht⟩ := h
  rw [ht, List.getElem?_set_ne (Ne.symm hj)]

theorem Begun.getElem? (h : Begun w s w') (hj : w.tasks[j]? = some t) : w'.tasks[j]? = some t := by
  have hlt := lt_length_of_getElem? hj
  have added {u : Scene} {x : Task} (hu : u.tasks = w.tasks) :
      (u.start x).1.tasks[j]? = some t := by
    rw [start_tasks, hu, List.getElem?_append_left hlt, hj]
  cases h with
  | refused f => exact added ensureOpen_tasks
  | queued session op hs => exact added (by rw [joinLine_eq hs]; rfl)
  | closing =>
    unfold beginClose
    split
    · exact added markClosed_tasks
    · exact added rfl

/-- A task stays as it is while others move. -/
theorem getElem?_apply_of_ne (hj : w.tasks[j]? = some t) (he : e.mover ≠ some j) :
    (w.apply e).tasks[j]? = some t := by
  cases e with
  | step i =>
    have hji : j ≠ i := fun h => he (congrArg some h.symm)
    show ((w.step i).getD w).tasks[j]? = _
    cases hs : w.step i with
    | none => exact hj
    | some w' => exact ((movesOnly_step hs).getElem? hji).trans hj
  | answer i answers =>
    have hji : j ≠ i := fun h => he (congrArg some h.symm)
    exact ((movesOnly_answer answers).getElem? hji).trans hj
  | abandon i =>
    have hji : j ≠ i := fun h => he (congrArg some h.symm)
    exact (movesOnly_abandon.getElem? hji).trans hj
  | pass | openSession | cancelPool => exact hj
  | call s c => exact (begun_beginCall c).getElem? hj
  | dispatch s m args => exact (begun_dispatch m args).getElem? hj
  | beginClose s => exact Begun.closing.getElem? hj
  | beginWatch | beginAcquire | beginTeardown =>
    exact (List.getElem?_append_left (lt_length_of_getElem? hj)).trans hj
  | ensureOpen s => exact (congrArg (·[j]?) ensureOpen_tasks).trans hj

/-- Whose task is another one afterwards, about him was the event. -/
theorem mover_of_task_ne (hj : w.tasks[j]? = some t) (hne : (w.apply e).task j ≠ w.task j) :
    e.mover = some j := by
  by_contra he
  refine hne ?_
  rw [task_eq_of_getElem? hj, task_eq_of_getElem? (getElem?_apply_of_ne hj he)]

/-! ## Operations that are done, and closes -/

theorem step_of_done {r : Except Failure Report}
    (hi : w.tasks[i]? = some (.operation s (.done r))) : w.apply (.step i) = w := by
  have hint : w.interrupted s i (.done r) = none := rfl
  simp only [apply, step, hi, stepOperation, hint, Option.getD_none]

theorem answer_of_done {r : Except Failure Report}
    (hi : w.tasks[i]? = some (.operation s (.done r))) (answers : Answers) :
    w.apply (.answer i answers) = w := by
  have hint : w.interrupted s i (.done r) = none := rfl
  simp only [apply, answer, hi, answerOperation, hint]

theorem abandon_of_done {r : Except Failure Report}
    (hi : w.tasks[i]? = some (.operation s (.done r))) : w.apply (.abandon i) = w := by
  simp [apply, abandon, hi, Task.waits, Progress.waits]

theorem done_apply {r : Except Failure Report}
    (hi : w.tasks[i]? = some (.operation s (.done r))) (e : Event) :
    (w.apply e).tasks[i]? = some (.operation s (.done r)) := by
  by_cases he : e.mover = some i
  · cases e with
    | step j =>
      obtain rfl : j = i := by simpa [Event.mover] using he
      rw [step_of_done hi, hi]
    | answer j answers =>
      obtain rfl : j = i := by simpa [Event.mover] using he
      rw [answer_of_done hi, hi]
    | abandon j =>
      obtain rfl : j = i := by simpa [Event.mover] using he
      rw [abandon_of_done hi, hi]
    | _ => simp [Event.mover] at he
  · exact getElem?_apply_of_ne hi he

theorem close_apply {c : Closing} (hi : w.tasks[i]? = some (.close s c)) (he : e ≠ .abandon i) :
    ∃ c', (w.apply e).tasks[i]? = some (.close s c') := by
  have hlt := lt_length_of_getElem? hi
  by_cases hm : e.mover = some i
  · cases e with
    | step j =>
      obtain rfl : j = i := by simpa [Event.mover] using hm
      have hstep : w.step j = w.stepClosing s j c := by simp only [step, hi]
      show ∃ c', ((w.step j).getD w).tasks[j]? = _
      rw [hstep]
      cases hc : w.stepClosing s j c with
      | none => exact ⟨c, hi⟩
      | some w' =>
        obtain ⟨c', ht⟩ := (closingMove_of_step hc).tasks
        exact ⟨c', by rw [Option.getD_some, ht, List.getElem?_set_self hlt]⟩
    | answer j answers =>
      obtain rfl : j = i := by simpa [Event.mover] using hm
      cases c with
      | queued => exact ⟨.queued, by simp only [apply, answer, hi]⟩
      | done => exact ⟨.done, by simp only [apply, answer, hi]⟩
      | closingPage deadline page =>
        refine ⟨.done, ?_⟩
        simp only [apply, answer, hi]
        rw [put_tasks, List.getElem?_set_self hlt]
    | abandon j => exact absurd (congrArg Event.abandon (by simpa [Event.mover] using hm)) he
    | _ => simp [Event.mover] at hm
  · exact ⟨c, getElem?_apply_of_ne hi hm⟩

end ScriptSandbox.Scene
