import ScriptSandbox.Proofs.Argument
import ScriptSandbox.Proofs.Browser.Lifetime
import ScriptSandbox.Proofs.Text.Blank

/-!
# Faulty calls of a session

What a call asks for can be wrong by itself: an address that is none, a selector or code of blanks
only, no path, pattern or text at all. Such a call of an open session ends at once with an error of
usage, whoever holds the session, and nothing else has changed (`faulty_call`).
-/

namespace ScriptSandbox

namespace SessionCall

/-- The arguments of the call are not in order. -/
def Faulty : SessionCall → Prop
  | .navigate url =>
    Text.isBlankText url = true ∨ ∃ fault, Url.parse (Text.trim url) = .error fault
  | .click selector | .fill selector _ | .clear selector | .submit (some selector) =>
    Text.isBlankText selector = true
  | .evaluate code => Text.isBlankText code = true
  | .screenshot text | .waitForUrl text _ | .waitForText text _ => text.isEmpty = true
  | .wait _ | .submit none | .getHtml | .getUrl => False

open Arguments (Reads)

theorem reads_of_fault {α : Type} (faulty : Prop) [Decidable faulty] (message : String) (a : α) :
    Reads (fun _ => ¬ faulty) (if faulty then .error (.invalidInput message) else .ok a) := by
  split
  · rename_i h
    exact ⟨fun _ hn => hn h, message, rfl⟩
  · rename_i h
    exact h

theorem reads_selectorOf {α : Type} (selector : String) (g : String → α) :
    Reads (fun _ => ¬ Text.isBlankText selector = true)
      ((Operation.selectorOf selector).map g) := by
  unfold Operation.selectorOf
  split
  · rename_i h
    exact ⟨fun _ hn => hn h, _, rfl⟩
  · rename_i h
    exact h

theorem reads_navigateTo (url : String) :
    Reads (fun _ => ¬ (SessionCall.navigate url).Faulty) (Operation.navigateTo url) := by
  unfold Operation.navigateTo Operation.urlOf
  dsimp only
  rw [Text.isEmpty_trim]
  by_cases hblank : Text.isBlankText url = true
  · rw [if_pos hblank]
    exact ⟨fun _ hn => hn (.inl hblank), _, rfl⟩
  · rw [if_neg hblank]
    cases hparse : Url.parse (Text.trim url) with
    | error fault => exact ⟨fun _ hn => hn (.inr ⟨fault, hparse⟩), _, rfl⟩
    | ok u =>
      rintro (h | ⟨fault, h⟩)
      · exact hblank h
      · rw [hparse] at h
        exact nomatch h

/-- A call has an operation that it stands for, or its arguments are faulty and it stands for an
error of usage. -/
theorem reads_operation (c : SessionCall) : Reads (fun _ => ¬ c.Faulty) c.operation := by
  cases c with
  | navigate url => exact reads_navigateTo url
  | click selector | fill selector | clear selector => exact reads_selectorOf selector _
  | submit selector =>
    cases selector with
    | none => exact not_false
    | some selector => exact reads_selectorOf selector _
  | evaluate code => exact reads_of_fault (Text.isBlankText code = true) _ _
  | screenshot text | waitForUrl text | waitForText text =>
    exact reads_of_fault (text.isEmpty = true) _ _
  | wait | getHtml | getUrl => exact not_false

end SessionCall

namespace Scene

variable {w : Scene} {s : SessionId} {session : Session}

/-- A call of an open session that stands for an error has ended as soon as it has begun. -/
theorem apply_call_of_error {c : SessionCall} {f : Failure} (hsess : w.sessions[s]? = some session)
    (hopen : ¬ session.IsOver w.pool w.now) (hf : c.operation = .error f) :
    w.apply (.call s c) = { w with tasks := w.tasks ++ [.operation s (.done (.error f))] } := by
  show (w.beginCall s c).1 = _
  rw [beginCall_of_not_isOver hsess hopen, hf]
  rfl

theorem apply_call_of_ok {c : SessionCall} {op : Operation} (hsess : w.sessions[s]? = some session)
    (hopen : ¬ session.IsOver w.pool w.now) (hop : c.operation = .ok op) :
    w.apply (.call s c) = ((w.joinLine s).start (.operation s (.queued op))).1 := by
  show (w.beginCall s c).1 = _
  rw [beginCall_of_not_isOver hsess hopen, hop]
  dsimp only
  rw [enter_of_not_isOver hsess hopen]

/-- A call of an open session, whoever holds the session and whatever the call's other arguments
are.

* If it is faulty, it has ended with an error of usage as soon as it has begun, and it never does
  anything any more. The pool, the sessions with their pages and lines, what has been asked of the
  outside, the clock and the other tasks are what they were, and so is the state of every session.
* If it is not, it takes its place in the line of the session. -/
theorem faulty_call (options : LaunchOptions) (before : List Event) (s : SessionId)
    (session : Session) (c : SessionCall) :
    let w := (fresh options).run before
    let i := w.tasks.length
    w.sessions[s]? = some session → ¬ session.IsOver w.pool w.now →
    (c.Faulty → ∃ f, c.operation = .error f ∧ f.code = .invalidInput ∧
      w.apply (.call s c) = { w with tasks := w.tasks ++ [.operation s (.done (.error f))] } ∧
      (∀ s', (w.apply (.call s c)).sessionState s' = w.sessionState s') ∧
      ∀ later, let u := (w.apply (.call s c)).run later
        u.Ended s i (.error f) ∧ ∀ e : Event, e.mover = some i → u.apply e = u) ∧
    (¬ c.Faulty → ∃ op, c.operation = .ok op ∧
      w.apply (.call s c) = ((w.joinLine s).start (.operation s (.queued op))).1) := by
  intro w i hsess hopen
  rcases (SessionCall.reads_operation c).cases with ⟨op, hop, hfine⟩ | ⟨f, hf, hcode, hfaulty⟩
  · exact ⟨fun h => absurd h hfine, fun _ => ⟨op, hop, apply_call_of_ok hsess hopen hop⟩⟩
  · refine ⟨fun _ => ⟨f, hf, hcode, ?_⟩, fun h => absurd h (hfaulty .getUrl)⟩
    have happly := apply_call_of_error hsess hopen hf
    have hended : (w.apply (.call s c)).Ended s i (.error f) := by
      rw [happly]
      simp [Ended, i]
    refine ⟨happly, fun s' => ?_, fun later => ⟨hended.run later, fun e he => ?_⟩⟩
    · rw [happly]
      rfl
    · exact still_of_done (hended.run later) he

/-- While another operation holds the session and waits for the browser, a click on blanks is told
at once that there is nothing to click on. -/
theorem faulty_call_sessionHeld :
    let w := (fresh default).run
      (.openSession "a" { lifetime := 10 } :: .call 0 .getUrl :: List.replicate 7 (.step 0))
    let u := w.apply (.call 0 (.click " "))
    w.sessions.map Session.line = [[0]] ∧ w.asked = [.launch default] ∧
      u.sessions = w.sessions ∧ u.asked = w.asked ∧
      ∃ f, f.code = .invalidInput ∧ u.Ended 0 1 (.error f) := by
  intro w u
  have hsess :
      w.sessions[0]? = some { Session.opened "a" { lifetime := 10 } 0 with line := [0] } := rfl
  obtain ⟨f, -, hcode, happly, -, hended⟩ :=
    (faulty_call default _ 0 _ (.click " ") hsess (by decide)).1
      (show Text.isBlankText " " = true by decide)
  have hsessions := congrArg Scene.sessions happly
  have hasked := congrArg Scene.asked happly
  exact ⟨rfl, rfl, hsessions, hasked, f, hcode, (hended []).1⟩

end Scene

end ScriptSandbox
