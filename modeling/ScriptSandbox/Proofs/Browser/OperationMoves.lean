import ScriptSandbox.Proofs.Browser.Begin
import ScriptSandbox.Proofs.Browser.PoolMoves

/-!
# Moves of operations and closes

`OperationMove` and `ClosingMove` list what an operation or a close can do from each of its places,
by itself or on an answer from outside, together with what it found.
-/

namespace ScriptSandbox.Scene

variable {w w' : Scene} {s : SessionId} {i : TaskId}

/-! ## Operations -/

inductive OperationMove (w : Scene) (s : SessionId) (i : TaskId) : Progress → Scene → Prop
  | broken (p : Progress) (session session' : Session) (f : Failure) (hw : p.waits = true)
      (hsess : w.sessions[s]? = some session)
      (hf : session.interruption w.pool w.now = some (session', f)) :
      OperationMove w s i p ((w.putSession s session').finish s i (.error f))
  | refused (op : Operation) (session : Session) (hsess : w.sessions[s]? = some session)
      (hserves : session.line.serves i = true) (hover : session.IsOver w.pool w.now) :
      OperationMove w s i (.queued op)
        ((w.putSession s (session.ensureOpen w.pool w.now).1).finish s i (.error .sessionClosed))
  | turned (op : Operation) (session : Session) (hsess : w.sessions[s]? = some session)
      (hserves : session.line.serves i = true) (hopen : ¬ session.IsOver w.pool w.now) :
      OperationMove w s i (.queued op) (w.beginWork s i session op)
  | acquiring (op : Operation) (a : Acquire) (m : PoolMove Acquire) (hm : a.Moves i w.pool m) :
      OperationMove w s i (.acquiring op a)
        ((w.takePoolMove m).put i (.operation s (.acquiring op m.place)))
  | unacquired (op : Operation) (f : Failure) :
      OperationMove w s i (.acquiring op (.done (.error f))) (w.finish s i (.error f))
  | acquired (op : Operation) (process : ProcessId) :
      OperationMove w s i (.acquiring op (.done (.ok process)))
        ((w.ask (.openPage process)).put i (.operation s (.opening op process)))
  | unopened (op : Operation) (process : ProcessId) (f : Failure) :
      OperationMove w s i (.opening op process) (w.finish s i (.error f))
  | opened (op : Operation) (process : ProcessId) (session : Session)
      (hsess : w.sessions[s]? = some session) (hopen : session.isCancelled w.pool = false) :
      OperationMove w s i (.opening op process) ((w.pageOpened s).put i
        (.operation s (.acting (some w.pages) (op.work session.options).run)))
  /-- There is no such session. -/
  | lost (op : Operation) (process : ProcessId) (hsess : w.sessions[s]? = none) :
      OperationMove w s i (.opening op process) (w.pageOpened s)
  | acting (page : Option PageId) (rest : Rest) :
      OperationMove w s i (.acting page rest) (w.act s i page rest)
  | rested (deadline : Nat) (page : Option PageId) (rest : Rest) (hd : deadline ≤ w.now) :
      OperationMove w s i (.pausing deadline page rest)
        (w.put i (.operation s (.acting page rest)))
  | answered (page : PageId) (c : PageCall) (next : Except Failure c.Answer → Rest)
      (r : Except Failure c.Answer) :
      OperationMove w s i (.asking page c next)
        (w.put i (.operation s (.acting (some page) (next r))))
  | givenUp (deadline : Nat) (page : PageId) (c : PageCall)
      (next : Option (Except Failure c.Answer) → Rest) (hd : deadline ≤ w.now) :
      OperationMove w s i (.askingUntil deadline page c next)
        (w.put i (.operation s (.acting (some page) (next none))))
  | answeredInTime (deadline : Nat) (page : PageId) (c : PageCall)
      (next : Option (Except Failure c.Answer) → Rest) (r : Except Failure c.Answer) :
      OperationMove w s i (.askingUntil deadline page c next)
        (w.put i (.operation s (.acting (some page) (next (some r)))))
  | saved (page : Option PageId) (path : String) (content : List UInt8)
      (next : Except Failure Nat → Rest) (r : Except Failure Nat) :
      OperationMove w s i (.saving page path content next)
        (w.put i (.operation s (.acting page (next r))))

variable {p : Progress}

theorem operationMove_of_interrupted (h : w.interrupted s i p = some w') :
    w.OperationMove s i p w' := by
  obtain ⟨hw, session, session', f, hsess, hf, rfl⟩ := interrupted_eq_some h
  exact .broken p session session' f hw hsess hf

theorem operationMove_of_step (h : w.stepOperation s i p = some w') :
    w.OperationMove s i p w' := by
  unfold stepOperation at h
  cases hint : w.interrupted s i p with
  | some w₁ =>
    obtain rfl : w₁ = w' := by simpa [hint] using h
    exact operationMove_of_interrupted hint
  | none =>
    simp only [hint] at h
    cases p with
    | queued op =>
      cases hsess : w.sessions[s]? with
      | none => simp [hsess] at h
      | some session =>
        simp only [hsess] at h
        split at h
        · simp at h
        · rename_i hserves
          rw [Bool.not_eq_true', Bool.not_eq_false] at hserves
          by_cases hover : session.IsOver w.pool w.now
          · have hr := (Session.ensureOpen_of_isOver hover).1
            simp only [hr] at h
            obtain rfl : _ = w' := Option.some.inj h
            exact .refused op session hsess hserves hover
          · simp only [Session.ensureOpen_of_not_isOver hover] at h
            obtain rfl : _ = w' := Option.some.inj h
            exact .turned op session hsess hserves hover
    | acquiring op a =>
      by_cases hd : ∃ r, a = .done r
      · obtain ⟨f | process, rfl⟩ := hd
        · obtain rfl : _ = w' := Option.some.inj h
          exact .unacquired op f
        · obtain rfl : _ = w' := Option.some.inj h
          exact .acquired op process
      · cases a with
        | done r => exact absurd ⟨r, rfl⟩ hd
        | _ =>
          obtain ⟨m, hm, rfl⟩ := Option.map_eq_some_iff.1 h
          exact .acquiring op _ m (Acquire.moves_of_step hm)
    | acting page rest =>
      obtain rfl : _ = w' := Option.some.inj h
      exact .acting page rest
    | pausing deadline page rest =>
      obtain ⟨hd, rfl⟩ : _ ∧ _ = w' := by simpa using h
      exact .rested deadline page rest hd
    | askingUntil deadline page c next =>
      obtain ⟨hd, rfl⟩ : _ ∧ _ = w' := by simpa using h
      exact .givenUp deadline page c next hd
    | opening | asking | saving | done => simp at h

theorem pageOpened_eq {session : Session} (hsess : w.sessions[s]? = some session) :
    w.pageOpened s =
      { w.putSession s { session with page := some w.pages, active := true } with
        pages := w.pages + 1 } := by
  unfold pageOpened
  rw [hsess]
  rfl

/-- Where nothing breaks off an operation that waits, its session has not been cancelled. -/
theorem isCancelled_of_interrupted_eq_none {session : Session} (hw : p.waits = true)
    (hsess : w.sessions[s]? = some session) (h : w.interrupted s i p = none) :
    session.isCancelled w.pool = false := by
  simp only [interrupted, hw, Bool.not_true, Bool.false_eq_true, if_false, hsess] at h
  split at h
  · rename_i hnone
    exact (Session.interruption_eq_none.1 hnone).1
  · simp at h

/-- An answer moves the operation that waits for it. -/
theorem operationMove_of_answer (answers : Answers) :
    w.answerOperation s i p answers = w ∨
      w.OperationMove s i p (w.answerOperation s i p answers) := by
  unfold answerOperation
  cases hint : w.interrupted s i p with
  | some w₁ => exact .inr (operationMove_of_interrupted hint)
  | none =>
    cases p with
    | acquiring op a =>
      cases a with
      | launching => exact .inr (.acquiring op _ _ (Acquire.moves_launched _))
      | _ => exact .inl rfl
    | opening op process =>
      refine .inr ?_
      dsimp only
      rcases answers (.openPage process) with f | _
      · exact .unopened op process f
      · cases hsess : w.sessions[s]? with
        | none =>
          have hsess' : (w.pageOpened s).sessions[s]? = none := by
            unfold pageOpened
            simp [hsess]
          simp only [hsess']
          exact .lost op process hsess
        | some session =>
          have hlt := (List.getElem?_eq_some_iff.1 hsess).1
          have hsess' : (w.pageOpened s).sessions[s]? =
              some { session with page := some w.pages, active := true } := by
            rw [pageOpened_eq hsess]
            exact List.getElem?_set_self hlt
          simp only [hsess']
          exact .opened op process session hsess
            (isCancelled_of_interrupted_eq_none rfl hsess hint)
    | asking page c next => exact .inr (.answered page c next _)
    | askingUntil deadline page c next => exact .inr (.answeredInTime deadline page c next _)
    | saving page path content next => exact .inr (.saved page path content next _)
    | queued | acting | pausing | done => exact .inl rfl

/-! ## Closes -/

inductive ClosingMove (w : Scene) (s : SessionId) (i : TaskId) : Closing → Scene → Prop
  | taken (session : Session) (page : PageId) (hsess : w.sessions[s]? = some session)
      (hserves : session.line.serves i = true) (hpage : session.page = some page) :
      ClosingMove w s i .queued
        (((w.putSession s { session.leave i with page := none }).ask (.page page .close)).put i
          (.close s (.closingPage (w.now + closeLimit) page)))
  | takenNothing (session : Session) (hsess : w.sessions[s]? = some session)
      (hserves : session.line.serves i = true) (hpage : session.page = none) :
      ClosingMove w s i .queued
        ((w.putSession s { session.leave i with page := none }).put i (.close s .done))
  /-- There is no such session. -/
  | lost (hsess : w.sessions[s]? = none) : ClosingMove w s i .queued (w.put i (.close s .done))
  /-- The page has been closed, or has been given long enough. -/
  | ended (deadline : Nat) (page : PageId) :
      ClosingMove w s i (.closingPage deadline page) (w.put i (.close s .done))

theorem closingMove_of_step {c : Closing} (h : w.stepClosing s i c = some w') :
    w.ClosingMove s i c w' := by
  cases c with
  | queued =>
    unfold stepClosing at h
    cases hsess : w.sessions[s]? with
    | none =>
      obtain rfl : _ = w' := by simpa [hsess] using h
      exact .lost hsess
    | some session =>
      simp only [hsess] at h
      split at h
      · simp at h
      · rename_i hserves
        rw [Bool.not_eq_true', Bool.not_eq_false] at hserves
        cases hpage : session.page with
        | none =>
          obtain rfl : _ = w' := by simpa [hpage] using h
          exact .takenNothing session hsess hserves hpage
        | some page =>
          obtain rfl : _ = w' := by simpa [hpage] using h
          exact .taken session page hsess hserves hpage
  | closingPage deadline page =>
    obtain ⟨-, rfl⟩ : _ ∧ _ = w' := by simpa [stepClosing] using h
    exact .ended deadline page
  | done => simp [stepClosing] at h

end ScriptSandbox.Scene
