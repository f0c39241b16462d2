import ScriptSandbox.Proofs.Browser.Navigation
import ScriptSandbox.Proofs.Browser.Pace

/-!
# Operations that run out of time

An operation that waits for something looks for it again and again. While its session goes on and
the browser does not itself answer with a timeout, there is one way for it to end with one: it has
looked as often as it may, and has seen nothing each time (`steady_waits`). The other failures of an
operation are those of its page (`Untimed`) and those of a browser that does not come up
(`Progress.Early`).
-/

namespace ScriptSandbox

/-- The call has been answered with a timeout. -/
def Exchange.TimesOut (x : Exchange) : Prop :=
  ∃ f, x.answer = some (.error f) ∧ f.code = .timeout

namespace Operation

/-! ## Waits -/

/-- What an operation waits for before it goes on: how it looks, which answers show what it waits
for, for how long it looks, and what it fails with if it has seen nothing. -/
structure Wait where
  call : PageCall
  shows : Except Failure call.Answer → Bool
  limit : Nat
  failure : Failure

variable {o : SessionOptions} {op : Operation} {w : Wait} {selector : String}

/-- The wait for a visible element. -/
def elementWait (o : SessionOptions) (selector : String) : Wait where
  call := .evaluate (PageScript.visibility.fill selector)
  shows r := match r with
    | .ok (.bool true) => true
    | _ => false
  limit := o.elementLimit
  failure := timeout s!"element '{selector}' not visible after {o.elementLimit}ms"

/-- The wait for an address. -/
def urlWait (pattern : String) (limit : Nat) : Wait where
  call := .currentUrl
  shows r := match r with
    | .ok url => urlMatches pattern url
    | .error _ => false
  limit
  failure := timeout s!"timed out after {limit}ms waiting for URL matching '{pattern}'"

/-- The wait for a text. -/
def textWait (text : String) (limit : Nat) : Wait where
  call := .evaluate PageScript.bodyText
  shows r := match r with
    | .ok (.str body) => Text.contains body text
    | _ => false
  limit
  failure := timeout s!"timed out after {limit}ms waiting for text '{text}'"

/-- What an operation waits for that can run out of time. To submit what has the focus is none: a
document that is late is not waited for any longer. -/
def wait? (o : SessionOptions) : Operation → Option Wait
  | .waitFor selector | .click selector | .fill selector _ | .clear selector
  | .submit (some selector) => some (elementWait o selector)
  | .waitForUrl pattern limit => some (urlWait pattern (limit.getD o.elementLimit))
  | .waitForText text limit => some (textWait text (limit.getD o.elementLimit))
  | _ => none

/-- The operations that wait for something. -/
def Waits : Operation → Prop
  | .waitFor _ | .click _ | .fill _ _ | .clear _ | .submit _ => True
  | .waitForUrl _ _ | .waitForText _ _ => True
  | _ => False

theorem Waits.needsPage (h : op.Waits) : op.needsPage = true := by
  cases op <;> first | rfl | cases h

/-! ## Failures that are no timeouts -/

section Failures

variable {α β : Type} {t : PageAction α} {g : α → PageAction β} {f : Failure}

/-- This does not fail with a timeout, where its page does not answer with one. -/
def Untimed (t : PageAction α) : Prop :=
  ∀ ⦃s xs m f⦄, t.Course True s xs m (.error f) → (∀ x ∈ xs, ¬ x.TimesOut) → f.code ≠ .timeout

theorem untimed_pure (a : α) : Untimed (pure a : PageAction α) := by
  intro s xs m f h
  obtain ⟨-, hr⟩ := h.of_pure
  cases hr

theorem untimed_fail (h : f.code ≠ .timeout) : Untimed (PageAction.fail f : PageAction α) := by
  intro s xs m f' h'
  obtain ⟨-, hr⟩ := h'.of_fail
  cases hr
  exact fun _ => h

theorem Untimed.bind (ht : Untimed t) (hg : ∀ a, Untimed (g a)) : Untimed (t >>= g) := by
  intro s xs m f h hx
  obtain ⟨ys, m', q, zs, rfl, hy, hz⟩ := PageAction.Course.of_bind h
  obtain ⟨hys, hzs⟩ := List.forall_mem_append.1 hx
  rcases hz with ⟨e, rfl, -, heq⟩ | ⟨a, rfl, hz⟩
  · cases heq
    exact ht hy hys
  · exact hg a hz hzs

theorem untimed_ask (c : PageCall) : Untimed (PageAction.ask c) := by
  intro s xs m f h hx
  obtain ⟨begun, ended, rfl, -⟩ := PageTask.Course.of_attempt h
  exact fun hcode => hx _ (List.mem_singleton_self _) ⟨f, rfl, hcode⟩

theorem untimed_quietly (u : PageTask α) : Untimed (PageAction.quietly u) := by
  intro s xs m f h
  obtain ⟨ys, m', a, zs, -, hdone, -⟩ := PageTask.Course.of_bind h
  obtain ⟨-, heq, -⟩ := hdone.of_done
  cases heq

theorem untimed_onElement (script : PageScript.Template) (selector : String) :
    Untimed (onElement script selector) := by
  refine (untimed_ask _).bind fun answer => ?_
  split
  · exact untimed_fail Code.noConfusion
  · exact untimed_pure ()

/-! ## Looks that have all been in vain -/

/-- The wait has been gone through, and nothing has been seen. -/
def Wait.Missed (w : Wait) (interval s : Nat) (xs : List Exchange) : Prop :=
  ∃ (β : Type) (judge : Except Failure w.call.Answer → Option β) (m : Nat),
    (∀ r, judge r = none → w.shows r = false) ∧
      (PageTask.poll interval w.limit (PageTask.look w.call judge)).Course True s xs m none

/-- If this fails with a timeout, it is because a wait has been in vain. -/
def TimesOutWith (w : Wait) (interval : Nat) (t : PageAction α) : Prop :=
  ∀ ⦃s xs m f⦄, t.Course True s xs m (.error f) → (∀ x ∈ xs, ¬ x.TimesOut) → f.code = .timeout →
    f = w.failure ∧ w.Missed interval s xs

theorem TimesOutWith.bind {interval : Nat} (ht : TimesOutWith w interval t) (hg : ∀ a, Untimed (g a)) :
    TimesOutWith w interval (t >>= g) := by
  intro s xs m f h hx hcode
  obtain ⟨ys, m', q, zs, rfl, hy, hz⟩ := PageAction.Course.of_bind h
  obtain ⟨hys, hzs⟩ := List.forall_mem_append.1 hx
  rcases hz with ⟨e, rfl, rfl, heq⟩ | ⟨a, rfl, hz⟩
  · cases heq
    rw [List.append_nil]
    exact ht hy hys hcode
  · exact absurd hcode (hg a hz hzs)

/-- A wait, and how it goes on with what has been found. -/
theorem timesOutWith_poll {interval : Nat} {judge : Except Failure w.call.Answer → Option α}
    (hjudge : ∀ r, judge r = none → w.shows r = false)
    {g : Option α → PageAction β} (hnone : g none = PageAction.fail w.failure)
    (hsome : ∀ a, Untimed (g (some a))) :
    TimesOutWith w interval
      (PageAction.quietly (PageTask.poll interval w.limit (PageTask.look w.call judge)) >>= g) := by
  intro s xs m f h hx hcode
  obtain ⟨ys, m', a, zs, hpoll, hz, rfl⟩ := h.of_quietly
  obtain ⟨-, hzs⟩ := List.forall_mem_append.1 hx
  cases a with
  | some a => exact absurd hcode (hsome a hz hzs)
  | none =>
    rw [hnone] at hz
    obtain ⟨rfl, heq⟩ := hz.of_fail
    cases heq
    rw [List.append_nil]
    exact ⟨rfl, α, judge, m', hjudge, hpoll⟩

end Failures

/-! ## What the operations wait for -/

theorem visibleProbe_eq (o : SessionOptions) (selector : String) :
    visibleProbe selector = PageTask.look (elementWait o selector).call fun r =>
      if (elementWait o selector).shows r then some () else none := by
  refine congrArg (PageTask.call _) (funext fun r => ?_)
  rcases r with f | j
  · rfl
  · cases j with
    | bool b => cases b <;> rfl
    | _ => rfl

theorem urlProbe_eq (pattern : String) (limit : Nat) :
    urlProbe pattern = PageTask.look (urlWait pattern limit).call fun r =>
      if (urlWait pattern limit).shows r then r.toOption else none := by
  refine congrArg (PageTask.call _) (funext fun r => ?_)
  cases r <;> rfl

theorem textProbe_eq (text : String) (limit : Nat) :
    textProbe text = PageTask.look (textWait text limit).call fun r =>
      if (textWait text limit).shows r then some () else none := by
  refine congrArg (PageTask.call _) (funext fun r => ?_)
  rcases r with f | j
  · rfl
  · cases j <;> rfl

theorem timesOutWith_awaitVisible (o : SessionOptions) (selector : String) :
    TimesOutWith (elementWait o selector) o.pollInterval (awaitVisible o selector) := by
  unfold awaitVisible
  rw [visibleProbe_eq o]
  exact timesOutWith_poll (fun r hr => by simpa using hr) rfl fun a => untimed_pure a

theorem timesOutWith_work (hw : op.wait? o = some w) :
    TimesOutWith w o.pollInterval (op.work o) := by
  have helement (selector : String) := timesOutWith_awaitVisible o selector
  cases op with
  | waitFor selector =>
    cases hw
    exact (helement selector).bind fun _ => untimed_pure _
  | click selector =>
    cases hw
    exact (helement selector).bind fun _ => (untimed_ask _).bind fun _ => untimed_pure _
  | fill selector text =>
    cases hw
    exact (helement selector).bind fun _ => (untimed_ask _).bind fun _ =>
      (untimed_ask _).bind fun _ => untimed_pure _
  | clear selector =>
    cases hw
    exact (helement selector).bind fun _ =>
      (untimed_onElement _ selector).bind fun _ => untimed_pure _
  | submit selector =>
    cases selector with
    | none => cases hw
    | some selector =>
      cases hw
      exact (helement selector).bind fun _ =>
        (untimed_onElement _ selector).bind fun _ => untimed_pure _
  | waitForUrl pattern limit =>
    cases hw
    show TimesOutWith _ _ (PageAction.quietly (PageTask.poll _ _ (urlProbe pattern)) >>= _)
    rw [urlProbe_eq pattern (limit.getD o.elementLimit)]
    refine timesOutWith_poll (fun r hr => ?_) rfl fun a => untimed_pure _
    cases r with
    | error f => rfl
    | ok url =>
      rw [Bool.eq_false_iff]
      intro hshows
      rw [if_pos hshows] at hr
      cases hr
  | waitForText text limit =>
    cases hw
    show TimesOutWith _ _ (PageAction.quietly (PageTask.poll _ _ (textProbe text)) >>= _)
    rw [textProbe_eq text (limit.getD o.elementLimit)]
    exact timesOutWith_poll (fun r hr => by simpa using hr) rfl fun a => untimed_pure _
  | _ => cases hw

theorem untimed_submit : Untimed ((Operation.submit none).work o) :=
  (untimed_quietly _).bind fun _ => (untimed_ask _).bind fun _ => untimed_pure _

/-- An operation that waits ends with a timeout only when it has waited in vain. -/
theorem Waits.missed (hw : op.Waits) {s m : Nat} {xs : List Exchange} {f : Failure}
    (h : (op.work o).Course True s xs m (.error f)) (hx : ∀ x ∈ xs, ¬ x.TimesOut)
    (hcode : f.code = .timeout) :
    ∃ w, op.wait? o = some w ∧ f = w.failure ∧ w.Missed o.pollInterval s xs := by
  cases hwait : op.wait? o with
  | some w => exact ⟨w, rfl, timesOutWith_work hwait h hx hcode⟩
  | none =>
    cases op with
    | submit selector =>
      cases selector with
      | none => exact absurd hcode (untimed_submit h hx)
      | some selector => cases hwait
    | waitFor | click | fill | clear | waitForUrl | waitForText => cases hwait
    | _ => cases hw

/-! ## The looks of a wait that is in vain -/

/-- These are all the looks that a wait may take, at even distances from this moment on and each
answered at once, and none shows what is waited for. -/
structure Wait.AllInVain (w : Wait) (interval start : Nat) (xs : List Exchange) : Prop where
  length : xs.length = w.limit ⌈/⌉ interval + 1
  look : ∀ j (hj : j < xs.length), ∃ answer,
    xs[j] = ⟨w.call, start + j * interval, start + j * interval, some answer⟩ ∧
      w.shows answer = false

theorem Wait.Missed.allInVain {interval s : Nat} {xs : List Exchange} (hi : 0 < interval)
    (h : w.Missed interval s xs) (hx : ∀ x ∈ xs, x.AtOnce) : w.AllInVain interval s xs := by
  obtain ⟨β, judge, m, hjudge, hcourse⟩ := h
  have hbrief : PageTask.Brief Exchange.AtOnce (PageTask.look w.call judge) := by
    intro t xs f r hlook hx
    obtain ⟨answer, rfl, -⟩ := hlook.of_look_prompt
    exact hx _ (List.mem_singleton_self _)
  obtain ⟨n, looks, hsteady, -, rfl⟩ := hcourse.steady hi hbrief hx
  obtain rfl := (hsteady.count hi).2 rfl
  have hone (j : Nat) (hj : j ≤ w.limit ⌈/⌉ interval) : ∃ answer,
      looks j = [⟨w.call, s + j * interval, s + j * interval, some answer⟩] ∧
        w.shows answer = false := by
    have hlook : PageTask.Course True (PageTask.look w.call judge) (s + j * interval) (looks j)
        (s + j * interval) none := by
      rcases Nat.lt_or_eq_of_le hj with hj | rfl
      · exact (hsteady.vain j hj).1
      · exact hsteady.last
    obtain ⟨answer, heq, hr⟩ := hlook.of_look_prompt
    exact ⟨answer, heq, hjudge answer hr.symm⟩
  have hpick (j : Nat) : ∃ x, j ≤ w.limit ⌈/⌉ interval → looks j = [x] := by
    by_cases hj : j ≤ w.limit ⌈/⌉ interval
    · obtain ⟨answer, heq, -⟩ := hone j hj
      exact ⟨_, fun _ => heq⟩
    · exact ⟨⟨.close, 0, 0, none⟩, fun h => absurd h hj⟩
  choose look hlook using hpick
  have hmap : (List.range (w.limit ⌈/⌉ interval + 1)).flatMap looks =
      (List.range (w.limit ⌈/⌉ interval + 1)).map look := by
    rw [← List.flatMap_pure_eq_map]
    exact List.flatMap_congr fun j hj => hlook j (Nat.le_of_lt_succ (List.mem_range.1 hj))
  rw [hmap]
  refine ⟨by simp, fun j hj => ?_⟩
  have hj : j ≤ w.limit ⌈/⌉ interval := by
    rw [List.length_map, List.length_range] at hj
    omega
  obtain ⟨answer, heq, hshows⟩ := hone j hj
  rw [hlook j hj] at heq
  exact ⟨answer, by simpa using heq, hshows⟩

end Operation

/-! ## Browsers that do not come up -/

/-- If a process cannot be had, it is not because of a timeout. -/
def Acquire.Untimed : Acquire → Prop
  | .leaving (.error f) | .done (.error f) => f.code ≠ .timeout
  | _ => True

/-- An operation that has not yet begun its work, or that has failed without, and with no timeout. -/
def Progress.Early (op : Operation) : Progress → Prop
  | .queued op' | .opening op' _ => op' = op
  | .acquiring op' a => op' = op ∧ a.Untimed
  | .done (.error f) => f.code ≠ .timeout
  | _ => False

/-- Only the answer to a launch can bring in a failure of the outside. -/
theorem Acquire.Untimed.moves {a : Acquire} {i : TaskId} {pool : Pool} {m : PoolMove Acquire}
    (h : a.Untimed) (hm : a.Moves i pool m) (hl : a ≠ .launching) : m.place.Untimed := by
  cases hm with
  | refused => exact Code.noConfusion
  | leave r => cases r <;> exact h
  | failed f => exact absurd rfl hl
  | _ => trivial

namespace Scene

/-- Why the outside has not done what it was asked for. -/
def Request.failure? : (r : Request) → r.Answer → Option Failure
  | .launch _, .error f | .openPage _, .error f | .page _ _, .error f | .save _ _, .error f => some f
  | _, _ => none

/-- Where something fails outside, it does so with a failure of its own and not with a timeout. -/
def NoTimeouts (answers : Answers) : Prop :=
  ∀ (r : Request) (f : Failure), r.failure? (answers r) = some f → f.code ≠ .timeout

/-- What comes from outside with an event is no timeout. -/
def Event.Untimed (e : Event) : Prop := ∀ i answers, e = .answer i answers → NoTimeouts answers

variable {w w' : Scene} {e : Event} {i : TaskId} {s : SessionId} {p : Progress} {op : Operation}
  {session₀ session : Session} {answers : Answers}

/-- An operation is still early, or begins its work. -/
def StaysEarly (op : Operation) (o : SessionOptions) (s : SessionId) (i : TaskId) (w : Scene) : Prop :=
  ∃ p, w.tasks[i]? = some (.operation s p) ∧
    (p.Early op ∨ ∃ page, p = .acting (some page) (op.work o).run)

theorem staysEarly_step (hneeds : op.needsPage = true) (ho : SessionOrder w) (hr : w.Running s)
    (hk : w.Keeps s session₀) (hi : w.tasks[i]? = some (.operation s p)) (hp : p.Early op)
    (h : w.stepOperation s i p = some w') : StaysEarly op session₀.options s i w' := by
  have hint : w.interrupted s i p = none := hr.interrupted
  have hmove := operationMove_of_step h
  have hset {p' : Progress} : (w.tasks.set i (.operation s p'))[i]? = some (.operation s p') :=
    List.getElem?_set_self (lt_length_of_getElem? hi)
  cases p with
  | queued op' =>
    obtain rfl : op' = op := hp
    cases hmove with
    | broken _ session session' f hw hsess hf => exact (hr.not_broken hsess hf).elim
    | refused _ session hsess hserves hover => exact absurd hover (ho.not_isOver hr hsess)
    | turned _ session hsess hserves hopen =>
      unfold beginWork
      rw [hneeds]
      cases hpage : session.page with
      | none => exact ⟨_, hset, .inl ⟨rfl, trivial⟩⟩
      | some page =>
        rw [(hk.of_session hsess).1]
        exact ⟨_, hset, .inr ⟨page, rfl⟩⟩
  | acquiring op' a =>
    obtain ⟨rfl, ha⟩ := hp
    cases hmove with
    | broken _ session session' f hw hsess hf => exact (hr.not_broken hsess hf).elim
    | acquiring _ _ m hm =>
      refine ⟨.acquiring op' m.place, ?_, .inl ⟨rfl, ha.moves hm ?_⟩⟩
      · rw [put_tasks, takePoolMove_tasks, hset]
      · rintro rfl
        simp [stepOperation, hint, Acquire.step] at h
    | unacquired _ f => exact ⟨.done (.error f), by rw [finish_tasks, hset], .inl ha⟩
    | acquired _ process => exact ⟨_, hset, .inl rfl⟩
  | opening | asking | saving | done => simp [stepOperation, hint] at h
  | acting | askingUntil | pausing => exact hp.elim

theorem staysEarly_answer (hr : w.Running s) (hk : w.Keeps s session₀)
    (hi : w.tasks[i]? = some (.operation s p)) (hp : p.Early op) (ha : NoTimeouts answers) :
    StaysEarly op session₀.options s i (w.answerOperation s i p answers) := by
  have hint : w.interrupted s i p = none := hr.interrupted
  have hlt := lt_length_of_getElem? hi
  have hset {p' : Progress} : (w.tasks.set i (.operation s p'))[i]? = some (.operation s p') :=
    List.getElem?_set_self hlt
  cases p with
  | acquiring op' a =>
    by_cases hl : a = .launching
    · subst hl
      simp only [answerOperation, hint]
      refine ⟨.acquiring op' _, by rw [put_tasks, takePoolMove_tasks, hset], .inl ⟨hp.1, ?_⟩⟩
      cases hlaunch : answers (.launch w.pool.options) with
      | ok _ => trivial
      | error f => exact ha (.launch w.pool.options) f (by rw [hlaunch]; rfl)
    · have hstay : w.answerOperation s i (.acquiring op' a) answers = w := by
        cases a with
        | launching => exact (hl rfl).elim
        | _ => simp only [answerOperation, hint]
      rw [hstay]
      exact ⟨_, hi, .inl hp⟩
  | opening op' process =>
    obtain rfl : op' = op := hp
    obtain ⟨session, hsess, -⟩ := hr
    simp only [answerOperation, hint]
    cases hopen : answers (.openPage process) with
    | error f =>
      refine ⟨.done (.error f), by rw [finish_tasks, hset], .inl ?_⟩
      exact ha (.openPage process) f (by rw [hopen]; rfl)
    | ok _ =>
      have hsess' : (w.pageOpened s).sessions[s]? =
          some { session with page := some w.pages, active := true } := by
        rw [pageOpened_eq hsess]
        exact List.getElem?_set_self (List.getElem?_eq_some_iff.1 hsess).1
      simp only [hsess']
      refine ⟨_, by rw [put_tasks, pageOpened_tasks, hset], .inr ⟨w.pages, ?_⟩⟩
      rw [(hk.of_session hsess).1]
  | queued | done =>
    simp only [answerOperation, hint]
    exact ⟨_, hi, .inl hp⟩
  | asking | askingUntil | saving | acting | pausing => exact hp.elim

/-- Whatever happens, an operation that is early stays so or begins its work, or its caller no longer
wants it. -/
theorem staysEarly_apply (hneeds : op.needsPage = true) (ho : SessionOrder w) (hr : w.Running s)
    (hk : w.Keeps s session₀) (hi : w.tasks[i]? = some (.operation s p)) (hp : p.Early op)
    (he : e.Untimed) :
    StaysEarly op session₀.options s i (w.apply e) ∨ (w.apply e).tasks[i]? = some .gone := by
  by_cases hm : e.mover = some i
  · cases e with
    | step j =>
      obtain rfl : j = i := by simpa [Event.mover] using hm
      have hstep : w.step j = w.stepOperation s j p := by simp only [step, hi]
      rw [apply, hstep]
      cases h : w.stepOperation s j p with
      | none => exact .inl ⟨p, hi, .inl hp⟩
      | some w' => exact .inl (staysEarly_step hneeds ho hr hk hi hp h)
    | answer j answers =>
      obtain rfl : j = i := by simpa [Event.mover] using hm
      have hanswer : w.apply (.answer j answers) = w.answerOperation s j p answers := by
        simp only [apply, answer, hi]
      rw [hanswer]
      exact .inl (staysEarly_answer hr hk hi hp (he j answers rfl))
    | abandon j =>
      obtain rfl : j = i := by simpa [Event.mover] using hm
      refine (apply_abandon hi).imp (fun hstay => ?_) id
      rw [hstay]
      exact ⟨p, hi, .inl hp⟩
    | _ => simp [Event.mover] at hm
  · exact .inl ⟨p, getElem?_apply_of_ne hi hm, .inl hp⟩

/-! ## Runs -/

theorem exists_of_mem_hears {t : Task} {now m : Nat} {c : PageCall} {r : Except Failure c.Answer}
    (h : Mark.heard m c r ∈ t.hears now answers) : ∃ page, r = answers (.page page c) := by
  unfold Task.hears at h
  split at h
  · cases List.mem_singleton.1 h
    exact ⟨_, rfl⟩
  · cases List.mem_singleton.1 h
    exact ⟨_, rfl⟩
  · cases h

/-- What an operation hears has come from outside with an event. -/
theorem no_timeout_heard {later : List Event} {m : Nat} {c : PageCall} {f : Failure}
    (hl : ∀ e ∈ later, e.Untimed) (h : Mark.heard m c (.error f) ∈ w.talk i later) :
    f.code ≠ .timeout := by
  induction later generalizing w with
  | nil => cases h
  | cons e later ih =>
    obtain ⟨he, hlater⟩ := List.forall_mem_cons.1 hl
    rcases List.mem_append.1 h with h | h
    · cases e with
      | answer j answers =>
        simp only [marks] at h
        split at h
        · obtain ⟨page, hanswer⟩ := exists_of_mem_hears h
          exact he j answers rfl (.page page c) f (by rw [← hanswer]; rfl)
        · cases h
      | step j =>
        simp only [marks] at h
        split at h
        · simp at h
        · cases h
      | _ => cases h
    · exact ih hlater h

theorem not_timesOut_of_talk {later : List Event} {xs : List Exchange} (hl : ∀ e ∈ later, e.Untimed)
    (h : w.talk i later = xs.flatMap Exchange.marks) : ∀ x ∈ xs, ¬ x.TimesOut := by
  rintro x hx ⟨f, hanswer, hcode⟩
  refine no_timeout_heard (w := w) (i := i) (m := x.ended) (c := x.call) hl ?_ hcode
  rw [h, List.mem_flatMap]
  exact ⟨x, hx, by simp [Exchange.marks, hanswer]⟩

/-- An operation that waits has looked at its page before it ends with a timeout: a browser that
does not come up gives no timeout. -/
theorem talk_ne_nil {later : List Event} {f : Failure} (hw : op.Waits) (ho : SessionOrder w)
    (hk : w.Keeps s session₀) (hi₀ : 0 < session₀.options.pollInterval)
    (hi : w.tasks[i]? = some (.operation s p)) (hp : p.Early op)
    (hr : Along (fun u _ => u.Running s) w later) (hprompt : Along (PassesPromptly i) w later)
    (hl : ∀ e ∈ later, e.Untimed) (hend : (w.run later).Ended s i (.error f))
    (hcode : f.code = .timeout) : w.talk i later ≠ [] := by
  induction later generalizing w p with
  | nil =>
    obtain rfl : p = .done (.error f) := by simpa [Ended, run, hi] using hend
    exact absurd hcode hp
  | cons e later ih =>
    obtain ⟨he, hlater⟩ := List.forall_mem_cons.1 hl
    have hnext : (w.apply e).talk i later ≠ [] := by
      rcases staysEarly_apply hw.needsPage ho hr.1 hk hi hp he with ⟨p', hi', hp' | ⟨page, rfl⟩⟩ | hgone
      · exact ih (ho.apply e) (hk.apply ho e) hi' hp' hr.2 hprompt.2 hlater hend
      · obtain ⟨xs, m, hcourse, htalk⟩ := tells_of_ended (ho.apply e) (hk.apply ho e)
          hr.2 (fun _ : True => hprompt.2) hi' hend
        rw [htalk]
        cases xs with
        | cons x xs => simp [Exchange.marks]
        | nil =>
          -- its work begins with a look
          obtain ⟨wait, -, -, hmissed⟩ := hw.missed hcourse (by simp) hcode
          have := (hmissed.allInVain hi₀ (by simp)).length
          simp at this
      · have : ((w.apply e).run later).tasks[i]? = some .gone :=
          run_induction (P := fun u => u.tasks[i]? = some .gone) hgone fun u hu e _ => gone_apply hu e
        rw [show (w.run (e :: later)) = (w.apply e).run later from rfl, Ended, this] at hend
        simp at hend
    exact fun hnil => hnext (List.append_eq_nil_iff.1 hnil).2

/-- Where every look is answered at once, a wait looks at its beginning and after each interval. It
ends with the first look that sees what it waits for, if there is one before the deadline or right
behind it, and with the first look behind the deadline otherwise. So what is to be seen from some
moment on is not missed. An operation that waits ends with a timeout only if all its looks have been
in vain. -/
theorem steady_waits :
    (∀ (α : Type) (page : PageContent) (probe : PageTask (Option α)) (seen : Nat → Option α)
      (interval limit start : Nat), 0 < interval → PageTask.Sees page probe seen →
      (∃ xs f r, (PageTask.poll interval limit probe).Course True start xs f r ∧
        ∀ x ∈ xs, page.Answers x) ∧
      ∀ xs f r, (PageTask.poll interval limit probe).Course True start xs f r →
        (∀ x ∈ xs, page.Answers x) → ∃ n, PageTask.Paced probe seen interval limit start n xs f r) ∧
    ∀ (options : LaunchOptions) (before : List Event) (s : SessionId) (session : Session)
      (e : Event) (op : Operation) (later : List Event) (f : Failure),
      let w := (fresh options).run before
      let i := w.tasks.length
      let o := session.options
      w.sessions[s]? = some session → 0 < o.pollInterval → e.StartsOperation s →
      e.operation = .ok (some op) → op.Waits →
      Along (fun u _ => u.Running s) w (e :: later) →
      Along (PassesPromptly i) (w.apply e) later → (∀ e' ∈ later, e'.Untimed) →
      (w.run (e :: later)).Ended s i (.error f) → f.code = .timeout →
      ∃ wait xs, op.wait? o = some wait ∧ f = wait.failure ∧
        (w.apply e).talk i later = xs.flatMap Exchange.marks ∧
        ((∀ x ∈ xs, x.AtOnce) → ∃ start, wait.AllInVain o.pollInterval start xs) := by
  refine ⟨fun α page probe seen interval limit start hi hsees => ⟨?_, fun xs f r h hx => ?_⟩, ?_⟩
  · exact PageTask.exists_course_answers page _ start
  · exact PageTask.Course.paced hi hsees h hx
  · intro options before s session e op later f w i o hsess hinterval he hop hw hr hprompt hl hend hcode
    have ho : SessionOrder w := sessionOrder_run options before
    have hkeeps : w.Keeps s session := ⟨session, hsess, rfl, id⟩
    rcases talk_of_ended True ho hsess he hop hw.needsPage hr (fun _ => hprompt) hend with
      ⟨-, hnil, -⟩ | ⟨t, xs, m, hcourse, htalk⟩
    · rcases he.begins hsess (ho.not_isOver hr.1 hsess) with ⟨op', hop', hi⟩ | ⟨f', hf', -⟩
      · obtain rfl : op = op' := by
          rw [hop] at hop'
          simpa using hop'
        exact absurd hnil (talk_ne_nil hw (ho.apply e) (hkeeps.apply ho e) hinterval hi rfl hr.2
          hprompt hl hend hcode)
      · rw [hop] at hf'
        cases hf'
    · obtain ⟨wait, hwait, rfl, hmissed⟩ := hw.missed hcourse (not_timesOut_of_talk hl htalk) hcode
      exact ⟨wait, xs, hwait, rfl, htalk, fun hx => ⟨t, hmissed.allInVain hinterval hx⟩⟩

theorem noTimeouts_obliging : NoTimeouts .obliging := by
  intro r f h
  cases r with
  | page _ c => cases c <;> (cases h; exact Code.noConfusion)
  | save =>
    cases h
    exact Code.noConfusion
  | _ => cases h

theorem noTimeouts_showing (url : String) : NoTimeouts (.showing url (.ok ())) := by
  intro r f h
  cases r with
  | page _ c =>
    cases c with
    | goto | currentUrl | evaluate => cases h
    | _ =>
      cases h
      exact Code.noConfusion
  | _ => cases h

namespace Visit

/-- A session whose operations wait for as long as two looks and a bit take. -/
def impatient : SessionOptions := { lifetime := 30000, pollInterval := 50, elementLimit := 120 }

/-- A text that does not come is waited for. -/
def waiting : Event := .call 0 (.waitForText "done" none)

/-- A look that is answered at once. -/
def looking : List Event :=
  [.step 0, .answer 0 (.showing "https://a.b/" (.ok ())), .step 0, .step 0]

/-- Four looks, with rests between. -/
def vain : List Event :=
  opening ++ .step 0 :: looking ++ .pass 50 :: .step 0 :: looking ++ .pass 50 :: .step 0 :: looking ++
    .pass 50 :: .step 0 :: looking

/-- An address that changes after some time. -/
def address (t : Nat) : String := if t < 120 then "https://a.b/" else "https://a.b/done"

def changing : PageContent
  | t, .currentUrl => .ok (address t)
  | _, _ => .error .sessionClosed

theorem untimed_vain : ∀ e ∈ vain, e.Untimed := by
  have hstep : Event.Untimed (.step 0) := nofun
  have hpass : Event.Untimed (.pass 50) := nofun
  have hopens : Event.Untimed (.answer 0 .obliging) := by
    rintro _ _ ⟨⟩
    exact noTimeouts_obliging
  have hlooks : Event.Untimed (.answer 0 (.showing "https://a.b/" (.ok ()))) := by
    rintro _ _ ⟨⟩
    exact noTimeouts_showing _
  simp [vain, opening, looking, List.replicate, hstep, hpass, hopens, hlooks]

end Visit

open Visit in
/-- An address is seen at the fourth look, and a text at none. -/
theorem steady_waits_vain :
    (∀ xs f r, (PageTask.poll 50 200 (Operation.urlProbe "done")).Course True 0 xs f r →
      (∀ x ∈ xs, changing.Answers x) → f = 150 ∧ r = some "https://a.b/done") ∧
    ∃ wait xs, (Operation.waitForText "done" none).wait? impatient = some wait ∧
      Operation.timeout "timed out after 120ms waiting for text 'done'" = wait.failure ∧
      (((fresh default).run [.openSession "a" impatient]).apply waiting).talk 0 vain =
        xs.flatMap Exchange.marks ∧
      ((∀ x ∈ xs, x.AtOnce) → ∃ start, wait.AllInVain 50 start xs) := by
  refine ⟨fun xs f r h hx => ?_, ?_⟩
  · have hsees : PageTask.Sees changing (Operation.urlProbe "done") fun t =>
        if Operation.urlMatches "done" (address t) then some (address t) else none := by
      rw [Operation.urlProbe_eq "done" 200]
      exact PageTask.sees_look changing _ _
    obtain ⟨n, hpaced⟩ := (steady_waits.1 String changing _ _ 50 200 0 (by decide) hsees).2 xs f r h hx
    exact (hpaced.found 3 (by decide) (by decide +kernel) _ (by decide +kernel)).2
  · have hop : waiting.operation = .ok (some (.waitForText "done" none)) := by decide +kernel
    have hend : (((fresh default).run [.openSession "a" impatient]).run (waiting :: vain)).Ended 0 0
        (.error (Operation.timeout "timed out after 120ms waiting for text 'done'")) :=
      ended_of_navigated? (r := .error _) (by decide +kernel)
    exact steady_waits.2 default [.openSession "a" impatient] 0 (.opened "a" impatient 0) waiting _ vain
      _ rfl (by decide) rfl hop trivial (by decide +kernel) (by decide +kernel) untimed_vain hend rfl

end Scene

end ScriptSandbox
