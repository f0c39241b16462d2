import ScriptSandbox.Proofs.Browser.Lifetime

/-!
# What is left of a watched session

A watch turns into a close as soon as its session is over, and a close stands in the line of the
session until it has taken the page. In a scene in which nobody can move, nobody stands in the line
of a closed session (`Quiescent.line_eq_nil`): so the close has been there, and the page that was
stored has been asked to close (`watched_of_quiescent`).
-/

namespace ScriptSandbox.Scene

variable {w w' : Scene} {e : Event} {i h : TaskId} {s : SessionId} {q : PageId}
variable {session : Session}

/-! ## Nobody can move -/

/-- No task can take a step. A timer that is due would let its task take one. -/
def Quiescent (w : Scene) : Prop := ∀ i, w.step i = none

theorem quiescent_of_lt (h : ∀ i, i < w.tasks.length → w.step i = none) : w.Quiescent := by
  intro i
  by_cases hi : i < w.tasks.length
  · exact h i hi
  · simp only [step, List.getElem?_eq_none (Nat.le_of_not_lt hi)]

theorem Quiescent.run_replicate (hq : w.Quiescent) (h : TaskId) (n : Nat) :
    w.run (List.replicate n (.step h)) = w := by
  induction n with
  | zero => rfl
  | succ n ih =>
    have happ : w.apply (.step h) = w := by simp only [apply, hq h, Option.getD_none]
    show (w.apply (.step h)).run (List.replicate n (.step h)) = w
    rw [happ, ih]

theorem deadline_of_mem_timers {d : Nat} (hd : d ∈ (w.sessions[s]?.map Session.deadline).toList) :
    ∃ session, w.sessions[s]? = some session ∧ session.deadline = d := by
  cases hsess : w.sessions[s]? with
  | none => simp [hsess] at hd
  | some session => exact ⟨session, rfl, by simpa [hsess, eq_comm] using hd⟩

theorem interrupted_of_deadline {p : Progress} (hw : p.waits = true)
    (hsess : w.sessions[s]? = some session) (hd : session.deadline ≤ w.now) :
    ∃ w', w.interrupted s i p = some w' := by
  have hsome : (session.interruption w.pool w.now).isSome := by
    unfold Session.interruption
    rw [if_pos hd]
    split <;> rfl
  obtain ⟨⟨session', f⟩, hint⟩ := Option.isSome_iff_exists.1 hsome
  exact ⟨(w.putSession s session').finish s i (.error f), by simp [interrupted, hw, hsess, hint]⟩

/-- All timers of a scene in which nobody can move are still to come. -/
theorem Quiescent.lt_of_mem_timers (hq : w.Quiescent) {d : Nat}
    (hd : d ∈ (w.task i).timers w.sessions) : w.now < d := by
  rcases hi : w.tasks[i]? with _ | t
  · simp [task, hi, Task.timers] at hd
  rw [task_eq_of_getElem? hi] at hd
  have hstep := hq i
  by_contra hle
  have hle : d ≤ w.now := Nat.le_of_not_lt hle
  cases t with
  | acquire | teardown | gone => simp [Task.timers] at hd
  | watch s =>
    obtain ⟨session, hsess, rfl⟩ := deadline_of_mem_timers hd
    simp [step, hi, stepWatch, hsess, hle] at hstep
  | close s c =>
    cases c with
    | queued | done => simp [Task.timers] at hd
    | closingPage deadline page =>
      obtain rfl : d = deadline := by simpa [Task.timers] using hd
      simp [step, hi, stepClosing, hle] at hstep
  | operation s p =>
    simp only [step, hi] at hstep
    have hint : w.interrupted s i p = none := by
      unfold stepOperation at hstep
      split at hstep
      · simp at hstep
      · assumption
    rcases waits_of_step_eq_none hi (hq i) with hw | ⟨r, rfl⟩
    · have hown : d ∉ (w.sessions[s]?.map Session.deadline).toList := by
        intro hd
        obtain ⟨session, hsess, rfl⟩ := deadline_of_mem_timers hd
        obtain ⟨w', hint'⟩ := interrupted_of_deadline (i := i) hw hsess hle
        rw [hint] at hint'
        simp at hint'
      cases p with
      | pausing deadline page rest =>
        obtain rfl : d = deadline := (List.mem_cons.1 hd).resolve_right hown
        simp [stepOperation, hint, hle] at hstep
      | askingUntil deadline page c next =>
        obtain rfl : d = deadline := (List.mem_cons.1 hd).resolve_right hown
        simp [stepOperation, hint, hle] at hstep
      | done => simp [Task.timers] at hd
      | _ => exact hown hd
    · simp [Task.timers] at hd

/-- Whoever were the first in the line of a closed session could leave it. -/
theorem Quiescent.line_eq_nil (hq : w.Quiescent) (ho : SessionOrder w)
    (hsess : w.sessions[s]? = some session) (hclosed : session.closed = true) :
    session.line = [] := by
  cases hline : session.line with
  | nil => rfl
  | cons h l =>
    obtain ⟨n, hleft, -⟩ := ho.head_leaves hsess hclosed (by rw [hline]; rfl)
    rw [hq.run_replicate, lineOf_eq hsess, hline] at hleft
    simp [Line.leave] at hleft

/-! ## Watches -/

/-- The task watches the session, or has watched it and now closes it. -/
def Guards (w : Scene) (s : SessionId) (i : TaskId) : Prop :=
  w.tasks[i]? = some (.watch s) ∨ ∃ c, w.tasks[i]? = some (.close s c)

theorem watch_apply (hi : w.tasks[i]? = some (.watch s)) (e : Event) : (w.apply e).Guards s i := by
  by_cases hm : e.mover = some i
  · cases e with
    | step j =>
      obtain rfl : j = i := Option.some.inj hm
      show ((w.step j).getD w).Guards s j
      cases hstep : w.step j with
      | none => exact .inl hi
      | some w' =>
        have hwatch : w.stepWatch s j = some w' := by simpa only [step, hi] using hstep
        unfold stepWatch at hwatch
        split at hwatch
        · simp at hwatch
        · obtain ⟨-, rfl⟩ : _ ∧ _ = w' := by simpa using hwatch
          exact .inr ⟨.queued, getElem?_put (by rw [markClosed_tasks]; exact hi) _⟩
    | answer j answers =>
      obtain rfl : j = i := Option.some.inj hm
      exact .inl (by simp only [apply, answer, hi])
    | abandon j =>
      obtain rfl : j = i := Option.some.inj hm
      exact .inl (by simp [apply, abandon, hi, Task.waits])
    | _ => simp [Event.mover] at hm
  · exact .inl (getElem?_apply_of_ne hi hm)

theorem Guards.apply (h : w.Guards s i) (he : e ≠ .abandon i) : (w.apply e).Guards s i := by
  rcases h with hi | ⟨c, hi⟩
  · exact watch_apply hi e
  · exact .inr (close_apply hi he)

theorem Guards.run (h : w.Guards s i) {later : List Event} (hl : Event.abandon i ∉ later) :
    (w.run later).Guards s i :=
  run_induction (P := (Guards · s i)) h fun _ h _ he => h.apply fun h => hl (h ▸ he)

/-- Where nobody can move, what guards a session that is over has been through with it. -/
theorem Guards.emptied (h : w.Guards s i) (ho : SessionOrder w) (hq : w.Quiescent)
    (hover : w.Over s) : Emptied w s := by
  obtain ⟨session, hsess, hover⟩ := hover
  rcases h with hi | ⟨c, hi⟩
  · have hdue : session.closed = true ∨
        (session.isCancelled w.pool || decide (session.deadline ≤ w.now)) = true := by
      simpa [Session.IsOver, Session.isClosed, or_assoc] using hover
    have hstep := hq i
    simp only [step, hi, stepWatch, hsess] at hstep
    rcases hdue with hclosed | hdue
    · have hc := (ho.inOrder s session hsess).sound.cancelled_of_closed hclosed
      simp [Session.isCancelled, hc] at hstep
    · rw [if_pos hdue] at hstep
      simp at hstep
  · by_cases hc : c = .queued
    · subst hc
      have hin := ho.inOrder s session hsess
      have hturn : w.turn i = .closing s := turn_eq_of_getElem? hi
      have hmem : i ∈ session.line := (hin.kept.mem_iff i).2 (by simp [hturn, Turn.standing])
      rw [hq.line_eq_nil ho hsess (hin.fits_of_turn hturn rfl)] at hmem
      simp at hmem
    · refine emptied_of_closed ho (turn_eq_of_getElem? hi |>.trans ?_)
      cases c with
      | queued => exact absurd rfl hc
      | closingPage | done => rfl

/-! ## Pages -/

/-- The session stores the page, or the page has been asked to close. -/
def Settles (w : Scene) (s : SessionId) (q : PageId) : Prop := w.Stores s q ∨ w.closes q = 1

/-- A session goes on storing its page until a close asks the page to close. -/
theorem SessionOrder.stores_or_calls (ho : SessionOrder w) (hc : SessionChange w w')
    (hst : w.Stores s q) : w'.Stores s q ∨ Calls w w' (some (q, .close)) := by
  obtain ⟨session, hsess, hpage⟩ := hst
  have stay (hs : w'.sessions = w.sessions) : w'.Stores s q := ⟨session, hs ▸ hsess, hpage⟩
  have put {s₀ : SessionId} {session₀ session₁ : Session}
      (hsess₀ : w.sessions[s₀]? = some session₀) (hs : w'.sessions = w.sessions.set s₀ session₁)
      (h : s = s₀ → session₀.page = some q → session₁.page = some q) : w'.Stores s q := by
    by_cases hne : s = s₀
    · subst hne
      obtain rfl : session₀ = session := Option.some.inj (hsess₀.symm.trans hsess)
      have hlt := (List.getElem?_eq_some_iff.1 hsess).1
      exact ⟨session₁, by rw [hs, List.getElem?_set_self hlt], h rfl hpage⟩
    · exact ⟨session, by rw [hs, List.getElem?_set_ne (Ne.symm hne), hsess], hpage⟩
  cases hc with
  | rest hs | called _ _ _ _ _ _ hs | turned _ _ _ _ _ _ _ _ _ hs => exact .inl (stay hs)
  | opened label options hs =>
    have hlt := (List.getElem?_eq_some_iff.1 hsess).1
    exact .inl ⟨session, by rw [hs, List.getElem?_append_left hlt, hsess], hpage⟩
  | expired s₀ session₀ hsess₀ hs => exact .inl (put hsess₀ hs fun _ hp => hp)
  | joined s₀ i session₀ hi hsess₀ hopen hs => exact .inl (put hsess₀ hs fun _ hp => hp)
  | closing s₀ i session₀ hi hsess₀ hs => exact .inl (put hsess₀ hs fun _ hp => hp)
  | left s₀ i session₀ session₁ hi hsess₀ hs' hs =>
    rcases hs' with rfl | rfl <;> exact .inl (put hsess₀ hs fun _ hp => hp)
  | paged s₀ i session₀ hi hsess₀ hopen hs =>
    refine .inl (put hsess₀ hs fun _ hp => ?_)
    have hnone := ((ho.inOrder s₀ session₀ hsess₀).fits_of_turn hi rfl).1
    rw [hp] at hnone
    simp at hnone
  | taken s₀ i session₀ hi hsess₀ hserves hs ht hp ha =>
    by_cases hne : s = s₀
    · subst hne
      obtain rfl : session₀ = session := Option.some.inj (hsess₀.symm.trans hsess)
      rw [hpage] at ha
      exact .inr ha
    · exact .inl (put hsess₀ hs fun hs => absurd hs hne)

theorem Settles.apply (h : w.Settles s q) (ho : SessionOrder w) (hp : PageOrder w) (e : Event) :
    (w.apply e).Settles s q := by
  have hchange := (apply_sessionStep ho.orderly e).change
  rcases h with hst | hclosed
  · refine (ho.stores_or_calls hchange hst).imp_right fun ha => ?_
    rw [ha.closes, hp.open' s q hst, if_pos rfl]
  · refine .inr (Nat.le_antisymm ((hp.of_change hchange).once q) ?_)
    rw [← hclosed]
    exact hchange.calls_le q .close

theorem Settles.run (h : w.Settles s q) (ho : SessionOrder w) (hp : PageOrder w)
    (later : List Event) : (w.run later).Settles s q :=
  run_induction_of_invariant (I := fun t => SessionOrder t ∧ PageOrder t) (P := (Settles · s q))
    (fun _ ⟨ho, hp⟩ e => ⟨ho.apply e, hp.of_change (apply_sessionStep ho.orderly e).change⟩)
    ⟨ho, hp⟩ h fun _ ⟨ho, hp⟩ h e _ => h.apply ho hp e

/-! ## All together -/

/-- A close of the session has begun at some moment of these events. -/
def CloseBegan (w : Scene) (s : SessionId) (events : List Event) : Prop :=
  ∃ before e after, events = before ++ e :: after ∧ e.StartsClose s ∧
    s < (w.run before).sessions.length

theorem CloseBegan.over {events : List Event} (h : w.CloseBegan s events) (ho : SessionOrder w) :
    (w.run events).Over s := by
  obtain ⟨before, e, after, rfl, he, hlt⟩ := h
  have hsess := List.getElem?_eq_getElem hlt
  have ht := ho.run before
  rw [run_append]
  refine Over.run (w := (w.run before).apply e) ?_ (ht.apply e).orderly after
  rw [he.apply, beginClose_eq hsess]
  exact ⟨_, List.getElem?_set_self hlt, .inl (by simp [Session.isClosed, Session.expire])⟩

/-- A session has been watched from some moment on, and nobody can move any more. If it is past its
deadline by then, cancelled or closed, or its pool has been cancelled, or if somebody has ever begun
to close it, then it is closed and has no page, and each page that it has ever stored has been asked
to close once. -/
theorem watched_of_quiescent (options : LaunchOptions) (before after : List Event) (s : SessionId)
    (hwatch : Event.abandon ((fresh options).run before).tasks.length ∉ after)
    (hq : ((fresh options).run (before ++ .beginWatch s :: after)).Quiescent) :
    let events := before ++ .beginWatch s :: after
    let w := (fresh options).run events
    w.Over s ∨ (fresh options).CloseBegan s events →
    (∃ session, w.sessions[s]? = some session ∧ session.state w.pool = .closed ∧
      session.page = none) ∧
    ∀ earlier later q, events = earlier ++ later → ((fresh options).run earlier).Stores s q →
      w.closes q = 1 := by
  intro events w hend
  have ho : SessionOrder w := sessionOrder_run options events
  have hover : w.Over s := hend.elim id fun h => h.over (sessionOrder_fresh options)
  have hguards : w.Guards s ((fresh options).run before).tasks.length := by
    show Guards ((fresh options).run (before ++ .beginWatch s :: after)) s _
    rw [run_append]
    refine Guards.run (w := ((fresh options).run before).apply (.beginWatch s)) (.inl ?_) hwatch
    simp [apply, beginWatch]
  obtain ⟨session, hsess, hclosed, hpage⟩ := (hguards.emptied ho hq hover).session
  refine ⟨⟨session, hsess, ?_, hpage⟩, fun earlier later q hsplit hst => ?_⟩
  · exact Session.state_eq_closed_iff.2 (by simp [Session.isClosed, hclosed])
  · have hrun : w.Settles s q := by
      show Settles ((fresh options).run events) s q
      rw [hsplit, run_append]
      exact Settles.run (.inl hst) (sessionOrder_run options earlier)
        (pageOrder_run options earlier) later
    refine hrun.resolve_left ?_
    rintro ⟨session', hsess', hpage'⟩
    obtain rfl : session = session' := Option.some.inj (hsess.symm.trans hsess')
    rw [hpage] at hpage'
    simp at hpage'

/-- A browser that comes up and opens its pages. -/
def Answers.obliging : Answers
  | .launch _ | .openPage _ => .ok ()
  | .shutDown _ => ()
  | .page _ _ | .save _ _ => .error .sessionClosed

/-- An operation asks its page for something and never hears of it again. When the lifetime is over,
the operation is broken off, and the watch gets at the page. -/
theorem watched_of_quiescent_hungPage :
    let opening := List.replicate 7 (.step 1) ++ .answer 1 .obliging :: List.replicate 4 (.step 1)
    let asking := .call 0 .getUrl :: opening ++ [.answer 1 .obliging, .step 1]
    let closing := [.pass 10, .step 1, .step 0, .step 0]
    let w := (fresh default).run
      ([.openSession "a" { lifetime := 10 }] ++ .beginWatch 0 :: (asking ++ closing))
    (∃ session, w.sessions[0]? = some session ∧ session.state w.pool = .closed ∧
      session.page = none) ∧ w.closes 0 = 1 := by
  intro opening asking closing w
  have hq : w.Quiescent := by
    refine quiescent_of_lt fun i hi => Option.isNone_iff_eq_none.1 ?_
    have hlen : w.tasks.length = 2 := by decide +kernel
    have hall : ∀ i, i < 2 → (w.step i).isNone := by decide +kernel
    exact hall i (hlen ▸ hi)
  have hover : w.Over 0 := by
    have hdue : w.sessions[0]?.any (·.deadline ≤ w.now) = true := by decide +kernel
    obtain ⟨hsess, hd⟩ := (Option.any_eq_true_iff_get _ _).1 hdue
    exact ⟨_, (Option.some_get hsess).symm, .inr (of_decide_eq_true hd)⟩
  obtain ⟨hclosed, hcloses⟩ :=
    watched_of_quiescent default [.openSession "a" { lifetime := 10 }] (asking ++ closing) 0
      (by simp [asking, closing, opening]) hq (.inl hover)
  refine ⟨hclosed, hcloses ([.openSession "a" { lifetime := 10 }] ++ .beginWatch 0 :: asking)
    closing 0 (by simp) ?_⟩
  exact Option.bind_eq_some_iff.1 (by decide +kernel)

end ScriptSandbox.Scene
