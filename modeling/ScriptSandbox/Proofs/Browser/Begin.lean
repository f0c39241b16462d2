import ScriptSandbox.Proofs.Browser.Fields

/-!
# How operations begin

`Begun` names the three ends that the beginning of an operation can have, whether a script asks for
it or a caller of the session: it is refused, it takes its place in the line, or it is a close.
A session that is over refuses every operation with the same failure, whatever the arguments are.
-/

namespace ScriptSandbox

/-! ## Open sessions -/

namespace Session

variable {session : Session} {p : Pool} {now : Nat}

/-- Whether a session is closed, or will be as soon as somebody looks at its time. -/
def IsOver (session : Session) (p : Pool) (now : Nat) : Prop :=
  session.isClosed p = true ∨ session.deadline ≤ now

instance : Decidable (session.IsOver p now) := by unfold IsOver; infer_instance

theorem ensureOpen_of_isOver (h : session.IsOver p now) :
    (session.ensureOpen p now).2 = .error .sessionClosed ∧
      (session.ensureOpen p now).1.isClosed p = true := by
  unfold ensureOpen
  by_cases hc : session.isClosed p = true
  · simp [hc]
  · rw [if_neg hc, if_pos (h.resolve_left hc)]
    exact ⟨rfl, by simp [expire, isClosed]⟩

theorem ensureOpen_of_not_isOver (h : ¬ session.IsOver p now) :
    session.ensureOpen p now = (session, .ok ()) := by
  obtain ⟨hc, hd⟩ := not_or.1 h
  rw [ensureOpen, if_neg hc, if_neg hd]

/-- Looking at the time of a session leaves it as it is or lets it expire. -/
theorem ensureOpen_fst (session : Session) (p : Pool) (now : Nat) :
    (session.ensureOpen p now).1 = session ∨
      session.deadline ≤ now ∧ (session.ensureOpen p now).1 = session.expire := by
  unfold ensureOpen
  by_cases hc : session.isClosed p = true
  · simp [hc]
  · by_cases hd : session.deadline ≤ now
    · rw [if_neg hc, if_pos hd]; exact .inr ⟨hd, rfl⟩
    · rw [if_neg hc, if_neg hd]; exact .inl rfl

/-- What breaks an operation off leaves the session as it is or lets it expire. -/
theorem interruption_eq_some {session' : Session} {f : Failure}
    (h : session.interruption p now = some (session', f)) :
    session' = session ∨ session' = session.expire := by
  unfold interruption at h
  split at h
  · exact .inl (by simpa using (congrArg (Option.map Prod.fst) h).symm)
  · split at h
    · exact .inr (by simpa using (congrArg (Option.map Prod.fst) h).symm)
    · simp at h

theorem interruption_eq_none :
    session.interruption p now = none ↔ session.isCancelled p = false ∧ now < session.deadline := by
  unfold interruption
  by_cases hc : session.isCancelled p = true
  · simp [hc]
  · by_cases hd : session.deadline ≤ now
    · simp [hc, hd]
    · simpa [hc, hd] using Nat.lt_of_not_le hd

end Session

namespace Scene

variable {w : Scene} {s : SessionId} {session : Session}

@[simp] theorem ensureOpen_pool : (w.ensureOpen s).1.pool = w.pool := by
  unfold ensureOpen; split <;> rfl
@[simp] theorem ensureOpen_tasks : (w.ensureOpen s).1.tasks = w.tasks := by
  unfold ensureOpen; split <;> rfl
@[simp] theorem ensureOpen_pages : (w.ensureOpen s).1.pages = w.pages := by
  unfold ensureOpen; split <;> rfl
@[simp] theorem ensureOpen_asked : (w.ensureOpen s).1.asked = w.asked := by
  unfold ensureOpen; split <;> rfl
@[simp] theorem ensureOpen_now : (w.ensureOpen s).1.now = w.now := by
  unfold ensureOpen; split <;> rfl

theorem ensureOpen_sessions (h : w.sessions[s]? = some session) :
    (w.ensureOpen s).1.sessions = w.sessions.set s (session.ensureOpen w.pool w.now).1 := by
  unfold ensureOpen; rw [h]; rfl

theorem ensureOpen_snd (h : w.sessions[s]? = some session) :
    (w.ensureOpen s).2 = (session.ensureOpen w.pool w.now).2 := by
  unfold ensureOpen; rw [h]

theorem ensureOpen_of_getElem?_none (h : w.sessions[s]? = none) :
    w.ensureOpen s = (w, .error .sessionClosed) := by
  unfold ensureOpen; rw [h]

theorem joinLine_eq (h : w.sessions[s]? = some session) :
    w.joinLine s =
      w.putSession s { session with line := session.line.join w.tasks.length } := by
  unfold joinLine; rw [h]

theorem putSession_self (h : w.sessions[s]? = some session) : w.putSession s session = w := by
  obtain ⟨hs, rfl⟩ := List.getElem?_eq_some_iff.1 h
  rw [putSession, List.set_getElem_self]

/-- A session that is found open is left as it is. -/
theorem ensureOpen_of_ok {w₁ : Scene} (h : w.ensureOpen s = (w₁, .ok ())) :
    w₁ = w ∧ ∃ session, w.sessions[s]? = some session ∧ ¬ session.IsOver w.pool w.now := by
  cases hs : w.sessions[s]? with
  | none => rw [ensureOpen_of_getElem?_none hs] at h; simp at h
  | some session =>
    by_cases ho : session.IsOver w.pool w.now
    · have := ensureOpen_snd hs
      rw [h, (Session.ensureOpen_of_isOver ho).1] at this
      simp at this
    · refine ⟨?_, session, rfl, ho⟩
      have : (w.ensureOpen s).1 = w.putSession s session := by
        unfold ensureOpen; rw [hs]; simp [Session.ensureOpen_of_not_isOver ho]
      rw [h] at this
      rw [← putSession_self hs]; exact this

end Scene

/-! ## Beginnings -/

/-- A call that does not look at its session first has arguments that are always in order. -/
theorem SessionCall.operation_of_looksFirst {c : SessionCall} (h : c.looksFirst = false) :
    ∃ op, c.operation = .ok op := by
  cases c <;> simp [SessionCall.looksFirst] at h <;> exact ⟨_, rfl⟩

namespace Scene

variable {w : Scene} {s : SessionId}

/-- The ends that the beginning of an operation can have. -/
inductive Begun (w : Scene) (s : SessionId) : Scene → Prop
  | refused (f : Failure) : Begun w s ((w.ensureOpen s).1.refuse s f).1
  | queued (session : Session) (op : Operation) (hs : w.sessions[s]? = some session)
      (ho : ¬ session.IsOver w.pool w.now) :
      Begun w s ((w.joinLine s).start (.operation s (.queued op))).1
  | closing : Begun w s (w.beginClose s).1

theorem begun_enter (op : Operation) : Begun w s (w.enter s op).1 := by
  unfold enter
  rcases h : w.ensureOpen s with ⟨w₁, f | _⟩
  · have := Begun.refused (w := w) (s := s) f
    rwa [h] at this
  · obtain ⟨rfl, session, hs, ho⟩ := ensureOpen_of_ok h
    exact .queued session op hs ho

theorem begun_beginOperation (op : Except Failure Operation) :
    Begun w s (w.beginOperation s op).1 := by
  unfold beginOperation
  rcases h : w.ensureOpen s with ⟨w₁, f | _⟩
  · have := Begun.refused (w := w) (s := s) f
    rwa [h] at this
  · obtain ⟨rfl, -⟩ := ensureOpen_of_ok h
    cases op with
    | error f =>
      have := Begun.refused (w := w₁) (s := s) f
      rwa [h] at this
    | ok op => exact begun_enter op

theorem begun_beginCall (c : SessionCall) : Begun w s (w.beginCall s c).1 := by
  unfold beginCall
  cases hc : c.looksFirst with
  | true => exact begun_beginOperation _
  | false =>
    obtain ⟨op, hop⟩ := SessionCall.operation_of_looksFirst hc
    simp only [hop]
    exact begun_enter op

theorem begun_dispatch (m : SessionMethod) (args : Arguments) :
    Begun w s (w.dispatch s m args).1 := by
  unfold dispatch
  by_cases hm : m = .close
  · subst hm
    exact .closing
  · simp only [if_neg hm]
    rcases h : w.ensureOpen s with ⟨w₁, f | _⟩
    · have := Begun.refused (w := w) (s := s) f
      rwa [h] at this
    · obtain ⟨rfl, -⟩ := ensureOpen_of_ok h
      rcases SessionCall.ofMethod m args with f | (_ | c)
      · have := Begun.refused (w := w₁) (s := s) f
        rwa [h] at this
      · exact .closing
      · exact begun_beginCall c

/-! ## Sessions that are over -/

variable {session : Session}

theorem beginOperation_of_error {w₁ : Scene} {f : Failure} (h : w.ensureOpen s = (w₁, .error f))
    (op : Except Failure Operation) : w.beginOperation s op = w₁.refuse s f := by
  unfold beginOperation; rw [h]

theorem enter_of_error {w₁ : Scene} {f : Failure} (h : w.ensureOpen s = (w₁, .error f))
    (op : Operation) : w.enter s op = w₁.refuse s f := by
  unfold enter; rw [h]

theorem ensureOpen_of_isOver (h : w.sessions[s]? = some session)
    (ho : session.IsOver w.pool w.now) :
    w.ensureOpen s = ((w.ensureOpen s).1, .error .sessionClosed) := by
  rw [← (Session.ensureOpen_of_isOver ho).1, ← ensureOpen_snd h]

/-- A call of a session that is over is refused, in order or not. -/
theorem beginCall_of_isOver (h : w.sessions[s]? = some session)
    (ho : session.IsOver w.pool w.now) (c : SessionCall) :
    w.beginCall s c = (w.ensureOpen s).1.refuse s .sessionClosed := by
  have he := ensureOpen_of_isOver h ho
  unfold beginCall
  cases hc : c.looksFirst with
  | true => exact beginOperation_of_error he _
  | false =>
    obtain ⟨op, hop⟩ := SessionCall.operation_of_looksFirst hc
    simp only [hop]
    exact enter_of_error he op

/-- So is all that a script asks for, except a close. -/
theorem dispatch_of_isOver (h : w.sessions[s]? = some session)
    (ho : session.IsOver w.pool w.now) {m : SessionMethod} (hm : m ≠ .close)
    (args : Arguments) :
    w.dispatch s m args = (w.ensureOpen s).1.refuse s .sessionClosed := by
  unfold dispatch
  rw [if_neg hm, ensureOpen_of_isOver h ho]

theorem dispatch_close (args : Arguments) : w.dispatch s .close args = w.beginClose s := rfl

/-! ## Interruptions -/

theorem interrupted_eq_some {w' : Scene} {i : TaskId} {p : Progress}
    (h : w.interrupted s i p = some w') :
    p.waits = true ∧ ∃ session session' f, w.sessions[s]? = some session ∧
      session.interruption w.pool w.now = some (session', f) ∧
      w' = (w.putSession s session').finish s i (.error f) := by
  unfold interrupted at h
  split at h
  · simp at h
  · rename_i hw
    split at h
    · simp at h
    · rename_i session hs
      split at h
      · simp at h
      · rename_i session' f hf
        exact ⟨by simpa using hw, session, session', f, hs, hf, by simpa using h.symm⟩

end Scene

end ScriptSandbox
