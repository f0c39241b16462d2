import ScriptSandbox.Browser.Pool

/-!
# Moves of a task at the pool

`Acquire.Moves` and `Teardown.Moves` list what a task can do from each of its places, by itself or
on an answer from outside, together with what it found.
-/

namespace ScriptSandbox

variable {i : TaskId} {p : Pool}

namespace Acquire

inductive Moves (i : TaskId) (p : Pool) : Acquire → PoolMove Acquire → Prop
  | found (h : p.running = true) : Moves i p .looking { pool := p, place := .reading }
  | foundNothing (h : p.running = false) : Moves i p .looking { pool := p, place := .arriving }
  | read (q : ProcessId) (h : p.stored = some q) :
      Moves i p .reading { pool := p, place := .done (.ok q) }
  | readNothing (h : p.stored = none) : Moves i p .reading { pool := p, place := .arriving }
  | join : Moves i p .arriving { pool := { p with line := p.line.join i }, place := .queued }
  | turn (h : p.line.serves i = true) : Moves i p .queued { pool := p, place := .lookingAgain }
  | foundAgain (h : p.running = true) :
      Moves i p .lookingAgain { pool := p, place := .readingAgain }
  | foundNothingAgain (h : p.running = false) :
      Moves i p .lookingAgain { pool := p, place := .checking }
  | readAgain (q : ProcessId) (h : p.stored = some q) :
      Moves i p .readingAgain { pool := p, place := .leaving (.ok q) }
  | readNothingAgain (h : p.stored = none) :
      Moves i p .readingAgain { pool := p, place := .checking }
  | refused (h : p.cancelled = true) :
      Moves i p .checking { pool := p, place := .leaving (.error Pool.shutDownFailure) }
  | allowed (h : p.cancelled = false) : Moves i p .checking { pool := p, place := .starting }
  | start : Moves i p .starting
      { pool := p, place := .launching, request := some (.launch p.options) }
  | launched : Moves i p .launching
      { pool := { p with started := p.started + 1 }, place := .storing p.started }
  | failed (f : Failure) : Moves i p .launching { pool := p, place := .leaving (.error f) }
  | store (q : ProcessId) :
      Moves i p (.storing q) { pool := { p with stored := some q }, place := .announcing q }
  | announce (q : ProcessId) :
      Moves i p (.announcing q) { pool := { p with running := true }, place := .leaving (.ok q) }
  | leave (r : Except Failure ProcessId) :
      Moves i p (.leaving r) { pool := p.leave i, place := .done r }

variable {a : Acquire} {m : PoolMove Acquire}

theorem moves_of_step (h : a.step i p = some m) : a.Moves i p m := by
  cases a with
  | looking =>
    cases hr : p.running <;> obtain rfl : _ = m := by simpa [step, hr] using h
    · exact .foundNothing hr
    · exact .found hr
  | reading =>
    cases hs : p.stored <;> obtain rfl : _ = m := by simpa [step, hs] using h
    · exact .readNothing hs
    · exact .read _ hs
  | queued =>
    obtain ⟨hs, rfl⟩ : _ ∧ _ = m := by simpa [step] using h
    exact .turn hs
  | lookingAgain =>
    cases hr : p.running <;> obtain rfl : _ = m := by simpa [step, hr] using h
    · exact .foundNothingAgain hr
    · exact .foundAgain hr
  | readingAgain =>
    cases hs : p.stored <;> obtain rfl : _ = m := by simpa [step, hs] using h
    · exact .readNothingAgain hs
    · exact .readAgain _ hs
  | checking =>
    cases hc : p.cancelled <;> obtain rfl : _ = m := by simpa [step, hc] using h
    · exact .allowed hc
    · exact .refused hc
  | launching | done => simp [step] at h
  | _ =>
    obtain rfl : _ = m := by simpa [step] using h
    constructor

theorem moves_launched (r : Except Failure Unit) :
    launching.Moves i p (Acquire.launched p r) := by
  cases r with
  | error f => exact .failed f
  | ok u => exact .launched

/-- A launch is all that an acquire ever asks for. -/
theorem Moves.request (h : a.Moves i p m) :
    m.request = none ∨ a = .starting ∧ m.request = some (.launch p.options) := by
  cases h with
  | start => exact .inr ⟨rfl, rfl⟩
  | _ => exact .inl rfl

/-- Who acquires a process does not cancel the pool. -/
theorem Moves.cancelled (h : a.Moves i p m) : m.pool.cancelled = p.cancelled := by
  cases h <;> rfl

end Acquire

namespace Teardown

inductive Moves (i : TaskId) (p : Pool) : Teardown → PoolMove Teardown → Prop
  | join : Moves i p .arriving { pool := { p with line := p.line.join i }, place := .queued }
  | turn (h : p.line.serves i = true) : Moves i p .queued { pool := p, place := .clearing }
  | clear : Moves i p .clearing { pool := { p with running := false }, place := .taking }
  | take (q : ProcessId) (h : p.stored = some q) :
      Moves i p .taking { pool := { p with stored := none }, place := .cancelling q }
  | takeNothing (h : p.stored = none) : Moves i p .taking { pool := p, place := .leaving }
  | cancel (q : ProcessId) : Moves i p (.cancelling q)
      { pool := { p with stopped := q :: p.stopped }, place := .calling q }
  | call (q : ProcessId) : Moves i p (.calling q)
      { pool := p, place := .stopping q, request := some (.shutDown q) }
  | ended (q : ProcessId) : Moves i p (.stopping q) { pool := p, place := .leaving }
  | leave : Moves i p .leaving { pool := p.leave i, place := .done }

variable {t : Teardown} {m : PoolMove Teardown}

theorem moves_of_step (h : t.step i p = some m) : t.Moves i p m := by
  cases t with
  | queued =>
    obtain ⟨hs, rfl⟩ : _ ∧ _ = m := by simpa [step] using h
    exact .turn hs
  | taking =>
    cases hs : p.stored <;> obtain rfl : _ = m := by simpa [step, hs] using h
    · exact .takeNothing hs
    · exact .take _ hs
  | stopping | done => simp [step] at h
  | _ =>
    obtain rfl : _ = m := by simpa [step] using h
    constructor

theorem moves_ended (q : ProcessId) : (stopping q).Moves i p (Teardown.ended p) := .ended q

end Teardown

end ScriptSandbox
