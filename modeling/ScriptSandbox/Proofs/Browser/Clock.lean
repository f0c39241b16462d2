import ScriptSandbox.Proofs.Browser.OperationMoves

/-!
# The clock of a scene

Time passes by the one event that says so. Whatever else happens takes no time (`now_apply`).
-/

namespace ScriptSandbox.Scene

variable {w w' : Scene} {e : Event} {i : TaskId} {s : SessionId} {p : Progress}

/-- The clock stands still at this event. -/
def Event.IsTimeless : Event → Prop
  | .pass _ => False
  | _ => True

@[simp] theorem pageOpened_now : (w.pageOpened s).now = w.now := by
  unfold pageOpened; dsimp only; split <;> rfl

@[simp] theorem markClosed_now : (w.markClosed s i).now = w.now := by
  unfold markClosed; split <;> rfl

/-! ## Moves -/

theorem act_now (page : Option PageId) (rest : Rest) : (w.act s i page rest).now = w.now := by
  cases rest with
  | done r => exact finish_now r
  | call c next | callWithin ms c next => cases page <;> rfl
  | pause | clock | save => rfl

theorem OperationMove.now (h : w.OperationMove s i p w') : w'.now = w.now := by
  cases h with
  | broken | refused | unacquired | unopened => exact finish_now _
  | turned op session =>
    unfold beginWork
    split <;> rfl
  | acquiring op a m => exact takePoolMove_now
  | opened op process session => exact pageOpened_now
  | lost op process => exact pageOpened_now
  | acting page rest => exact act_now page rest
  | acquired | rested | answered | givenUp | answeredInTime | saved => rfl

theorem ClosingMove.now {c : Closing} (h : w.ClosingMove s i c w') : w'.now = w.now := by
  cases h with
  | taken | takenNothing | lost | ended => rfl

theorem stepWatch_now (h : w.stepWatch s i = some w') : w'.now = w.now := by
  unfold stepWatch at h
  split at h
  · simp at h
  · obtain ⟨-, rfl⟩ : _ ∧ _ = w' := by simpa using h
    exact markClosed_now

theorem step_now (h : w.step i = some w') : w'.now = w.now := by
  unfold step at h
  split at h
  · simp at h
  · obtain ⟨m, -, rfl⟩ := Option.map_eq_some_iff.1 h
    exact takePoolMove_now
  · obtain ⟨m, -, rfl⟩ := Option.map_eq_some_iff.1 h
    exact takePoolMove_now
  · exact (operationMove_of_step h).now
  · exact (closingMove_of_step h).now
  · exact stepWatch_now h
  · simp at h

theorem answer_now (answers : Answers) : (w.answer i answers).now = w.now := by
  unfold answer
  split
  · exact takePoolMove_now
  · exact takePoolMove_now
  · rcases operationMove_of_answer answers with heq | hmove
    · exact congrArg Scene.now heq
    · exact hmove.now
  · rfl
  · rfl

theorem abandon_now : (w.abandon i).now = w.now := by
  unfold abandon
  split
  · rfl
  · split
    · rfl
    · split
      · exact withdraw_now
      · rfl

theorem Begun.now (h : Begun w s w') : w'.now = w.now := by
  cases h with
  | refused f => exact ensureOpen_now
  | queued session op hs => rw [joinLine_eq hs]; rfl
  | closing =>
    unfold beginClose
    split
    · exact markClosed_now
    · rfl

/-! ## Events -/

theorem now_apply (he : e.IsTimeless) : (w.apply e).now = w.now := by
  cases e with
  | step i =>
    show ((w.step i).getD w).now = w.now
    cases h : w.step i with
    | none => rfl
    | some w' => exact step_now h
  | answer i answers => exact answer_now answers
  | abandon i => exact abandon_now
  | pass ms => exact he.elim
  | openSession | cancelPool | beginWatch | beginAcquire | beginTeardown => rfl
  | call s c => exact (begun_beginCall c).now
  | dispatch s m args => exact (begun_dispatch m args).now
  | beginClose s => exact Begun.closing.now
  | ensureOpen s => exact ensureOpen_now

theorem now_run {events : List Event} (he : ∀ e ∈ events, e.IsTimeless) :
    (w.run events).now = w.now :=
  run_induction (P := fun t => t.now = w.now) rfl fun _ ht e hmem =>
    (now_apply (he e hmem)).trans ht

end ScriptSandbox.Scene
