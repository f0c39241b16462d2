import ScriptSandbox.Proofs.Browser.Course
import ScriptSandbox.Proofs.Browser.Lifetime

/-!
# What an operation says to its page

While its session goes on, all that an operation asks of its page and hears from it is a course of
its work, call by call and moment by moment (`talk_of_ended`). An operation that never gets its page
says nothing.
-/

namespace ScriptSandbox

/-- Something is asked of a page, or the page answers. -/
inductive Mark
  | asked (moment : Nat) (c : PageCall)
  | heard (moment : Nat) (c : PageCall) (r : Except Failure c.Answer)

/-- What is to be seen of a call from outside. Nothing is heard of one that is given up. -/
def Exchange.marks (x : Exchange) : List Mark :=
  .asked x.begun x.call :: (x.answer.map (.heard x.ended x.call)).toList

def Scene.Request.call? : Scene.Request → Option PageCall
  | .page _ c => some c
  | _ => none

/-- What a task hears when it is answered. -/
def Task.hears (now : Nat) (answers : Scene.Answers) : Task → List Mark
  | .operation _ (.asking page c _) | .operation _ (.askingUntil _ page c _) =>
    [.heard now c (answers (.page page c))]
  | _ => []

namespace Scene

variable {w w' : Scene} {e : Event} {i : TaskId} {s : SessionId} {p : Progress}
  {session : Session}

/-- What has been asked of pages from one scene to the other. -/
def newCalls (w w' : Scene) : List PageCall :=
  ((w'.asked.take (w'.asked.length - w.asked.length)).filterMap Request.call?).reverse

/-- What an operation asks of its page with an event, and what it hears. -/
def marks (w : Scene) (i : TaskId) : Event → List Mark
  | .step j => if j = i then (newCalls w (w.apply (.step j))).map (.asked w.now) else []
  | .answer j answers => if j = i then (w.task j).hears w.now answers else []
  | _ => []

/-- All that an operation asks of its page and hears from it. -/
def talk (w : Scene) (i : TaskId) : List Event → List Mark
  | [] => []
  | e :: later => w.marks i e ++ (w.apply e).talk i later

/-- The scenes of a run in which the events come are all of one kind. -/
def Along (P : Scene → Event → Prop) : Scene → List Event → Prop
  | _, [] => True
  | w, e :: later => P w e ∧ Along P (w.apply e) later

/-- Time passes only while the task cannot move, and not beyond the moment at which it can. -/
def PassesPromptly (i : TaskId) (w : Scene) (e : Event) : Prop :=
  ∀ ms, e = .pass ms → w.step i = none ∧ ∀ t ∈ (w.task i).timers w.sessions, w.now + ms ≤ t

instance (w : Scene) (s : SessionId) : Decidable (w.Running s) :=
  decidable_of_iff ((w.sessions[s]?.any fun session =>
    (session.interruption w.pool w.now).isNone) = true) <| by
      simp [Running, Option.any_eq_true]

instance decidableAlong {P : Scene → Event → Prop} [∀ w e, Decidable (P w e)] :
    (w : Scene) → (events : List Event) → Decidable (Along P w events)
  | _, [] => isTrue trivial
  | w, e :: later =>
    have := decidableAlong (P := P) (w.apply e) later
    inferInstanceAs (Decidable (P w e ∧ Along P (w.apply e) later))

instance (i : TaskId) (w : Scene) : (e : Event) → Decidable (PassesPromptly i w e)
  | .pass ms =>
    decidable_of_iff (w.step i = none ∧ ∀ t ∈ (w.task i).timers w.sessions, w.now + ms ≤ t) <| by
      simp [PassesPromptly]
  | .step _ | .answer _ _ | .abandon _ | .openSession _ _ | .call _ _ | .dispatch _ _ _
  | .beginClose _ | .beginWatch _ | .beginAcquire | .beginTeardown | .ensureOpen _
  | .cancelPool => isTrue nofun

/-! ## What is asked -/

theorem newCalls_of_calls {call : Option (PageId × PageCall)} (h : Calls w w' call) :
    newCalls w w' = (call.map Prod.snd).toList := by
  obtain ⟨others, ho, ha⟩ := h
  have hnone : others.filterMap Request.call? = [] := by
    refine List.filterMap_eq_nil_iff.2 fun r hr => ?_
    have := ho r hr
    cases r with
    | page => simp [Request.isPage] at this
    | _ => rfl
  rw [newCalls, ha, ← List.append_assoc, List.length_append, Nat.add_sub_cancel,
    List.take_left, List.filterMap_append, hnone, List.nil_append]
  cases call <;> rfl

theorem newCalls_of_same (h : w'.asked = w.asked) : newCalls w w' = [] :=
  newCalls_of_calls (calls_none h)

end Scene

/-! ## What is left to say -/

section Tells

variable (prompt : Prop) (r : Except Failure Report)

/-- What a task says that is due at this moment and ends with this result. -/
def PageTask.Tells (t : Rest) (s : Nat) (ms : List Mark) : Prop :=
  ∃ xs f, t.Course prompt s xs f r ∧ ms = xs.flatMap Exchange.marks

/-- What an operation says from this place on, if it ends with this result. It says nothing and
fails, if there is no page to be had for a session that has none. -/
def Progress.Tells (session₀ : Session) (now : Nat) (ms : List Mark) : Progress → Prop
  | .queued op => op.needsPage = true →
    (session₀.active = false ∧ ms = [] ∧ ∃ f, r = .error f) ∨
      ∃ s, now ≤ s ∧ PageTask.Tells prompt r (op.work session₀.options).run s ms
  | .acquiring op _ | .opening op _ => op.needsPage = true →
    (ms = [] ∧ ∃ f, r = .error f) ∨
      ∃ s, now ≤ s ∧ PageTask.Tells prompt r (op.work session₀.options).run s ms
  | .acting (some _) rest => PageTask.Tells prompt r rest now ms
  | .pausing deadline (some _) rest => ∃ s, now ≤ s ∧ deadline ≤ s ∧
    (prompt → now ≤ deadline → s = deadline) ∧ PageTask.Tells prompt r rest s ms
  | .asking _ c next => ∃ s answer ms', now ≤ s ∧ ms = .heard s c answer :: ms' ∧
    PageTask.Tells prompt r (next answer) s ms'
  | .askingUntil deadline _ c next => ∃ s answer ms', now ≤ s ∧
    (prompt → now ≤ deadline → s ≤ deadline) ∧ ms = (answer.map (.heard s c)).toList ++ ms' ∧
    PageTask.Tells prompt r (next answer) s ms'
  | .saving (some _) _ _ next => ∃ s answer, now ≤ s ∧ PageTask.Tells prompt r (next answer) s ms
  | .acting none _ | .pausing _ none _ | .saving none _ _ _ => True
  | .done r' => ms = [] ∧ r = r'

end Tells

namespace Scene

variable {w w' : Scene} {e : Event} {i : TaskId} {s : SessionId} {p : Progress}
  {session₀ session : Session} {prompt : Prop} {r : Except Failure Report}

/-- The session goes by the same options as this one did, and has had a page if this one had. -/
def Keeps (w : Scene) (s : SessionId) (session₀ : Session) : Prop :=
  ∃ session, w.sessions[s]? = some session ∧ session.options = session₀.options ∧
    (session₀.active = true → session.active = true)

theorem Keeps.apply (h : w.Keeps s session₀) (ho : SessionOrder w) (e : Event) :
    (w.apply e).Keeps s session₀ := by
  obtain ⟨session, hsess, hopt, hactive⟩ := h
  obtain ⟨session', hsess', hnext⟩ := apply_next ho.orderly e hsess
  refine ⟨session', hsess', hnext.options_eq.trans hopt, fun h => ?_⟩
  have hactive' := hactive h
  cases hnext with
  | kept _ ha => rw [ha, hactive']
  | paged _ _ _ h => rw [h]
  | taken _ _ h => rw [h]; exact hactive'

theorem Keeps.of_session (h : w.Keeps s session₀) (hsess : w.sessions[s]? = some session) :
    session.options = session₀.options ∧ (session₀.active = true → session.active = true) := by
  obtain ⟨session', hsess', hkeeps⟩ := h
  obtain rfl : session = session' := Option.some.inj (hsess.symm.trans hsess')
  exact hkeeps

/-- The operation is at a place from which it can say all that it says from the next one, and this
before it. -/
def LeadsOn (prompt : Prop) (r : Except Failure Report) (session₀ : Session) (s : SessionId)
    (i : TaskId) (now : Nat) (p : Progress) (said : List Mark) (w' : Scene) : Prop :=
  ∃ p', w'.tasks[i]? = some (.operation s p') ∧
    ∀ ms, p'.Tells prompt r session₀ w'.now ms → p.Tells prompt r session₀ now (said ++ ms)

/-- A step of the operation, and what it asks of its page. -/
theorem leadsOn_of_calls {t : Task} (p' : Progress) {call : Option (PageId × PageCall)}
    (hi : w.tasks[i]? = some t) (ht : w'.tasks = w.tasks.set i (.operation s p'))
    (ha : Calls w w' call)
    (h : ∀ ms, p'.Tells prompt r session₀ w'.now ms →
      p.Tells prompt r session₀ w.now ((call.map Prod.snd).toList.map (.asked w.now) ++ ms)) :
    LeadsOn prompt r session₀ s i w.now p ((newCalls w w').map (.asked w.now)) w' :=
  ⟨p', by rw [ht, List.getElem?_set_self (lt_length_of_getElem? hi)], newCalls_of_calls ha ▸ h⟩

theorem exists_act_tasks (page : Option PageId) (rest : Rest) :
    ∃ p', (w.act s i page rest).tasks = w.tasks.set i (.operation s p') := by
  cases rest with
  | done r => exact ⟨_, finish_tasks r⟩
  | call c next | callWithin ms c next => cases page <;> exact ⟨_, rfl⟩
  | pause | clock | save => exact ⟨_, rfl⟩

theorem leadsOn_act {page : Option PageId} {rest : Rest} {t : Task} (hi : w.tasks[i]? = some t) :
    LeadsOn prompt r session₀ s i w.now (.acting page rest)
      ((newCalls w (w.act s i page rest)).map (.asked w.now)) (w.act s i page rest) := by
  rcases page with _ | page
  · -- without a page there is nothing to be said
    obtain ⟨p', ht⟩ := exists_act_tasks (w := w) (s := s) (i := i) none rest
    exact ⟨p', by rw [ht, List.getElem?_set_self (lt_length_of_getElem? hi)], fun _ _ => trivial⟩
  cases rest with
  | done r' =>
    refine leadsOn_of_calls _ hi (finish_tasks r') (calls_none (finish_asked r')) ?_
    rintro ms ⟨rfl, rfl⟩
    exact ⟨[], w.now, .done r (.refl _ _), rfl⟩
  | pause d rest =>
    by_cases hd : d = 0
    · refine leadsOn_of_calls (.acting (some page) rest) hi (by rw [act, if_pos hd]; rfl)
        (calls_none rfl) ?_
      rintro ms ⟨xs, f, h, rfl⟩
      exact ⟨xs, f, .pause (hd ▸ .refl _ _) h, rfl⟩
    · refine leadsOn_of_calls (.pausing (w.now + d) (some page) rest) hi
        (by rw [act, if_neg hd]; rfl) (calls_none rfl) ?_
      rintro ms ⟨u, -, hdue, hprompt, xs, f, h, rfl⟩
      exact ⟨xs, f, .pause ⟨hdue, fun hp => hprompt hp (Nat.le_add_right ..)⟩ h, rfl⟩
  | clock next =>
    refine leadsOn_of_calls _ hi (put_tasks ..) (calls_none rfl) ?_
    rintro ms ⟨xs, f, h, rfl⟩
    exact ⟨xs, f, .clock (.refl _ _) h, rfl⟩
  | save path content next =>
    refine leadsOn_of_calls _ hi (put_tasks ..) (calls_other (r := .save path content) rfl rfl) ?_
    rintro ms ⟨u, answer, hu, xs, f, h, rfl⟩
    exact ⟨xs, f, .save answer hu h, rfl⟩
  | call c next =>
    refine leadsOn_of_calls _ hi (put_tasks ..) (calls_page rfl : Calls w _ (some (page, c))) ?_
    rintro ms ⟨u, answer, ms', hu, rfl, xs, f, h, rfl⟩
    exact ⟨_, f, .call answer (.refl _ _) hu h, rfl⟩
  | callWithin d c next =>
    refine leadsOn_of_calls _ hi (put_tasks ..) (calls_page rfl : Calls w _ (some (page, c))) ?_
    rintro ms ⟨u, answer, ms', hu, hprompt, rfl, xs, f, h, rfl⟩
    exact ⟨_, f, .callWithin answer (.refl _ _) hu
      (fun hp => hprompt hp (Nat.le_add_right ..)) h, by simp [Exchange.marks]⟩

/-! ## Its own moves -/

theorem Running.not_broken {session' : Session} {f : Failure} (hr : w.Running s)
    (hsess : w.sessions[s]? = some session) :
    session.interruption w.pool w.now ≠ some (session', f) := by
  rw [hr.of_session hsess]
  simp

/-- The session goes on of an operation that waits and is not broken off. -/
theorem running_of_interrupted_eq_none (hint : w.interrupted s i p = none) (hw : p.waits = true)
    (hsess : w.sessions[s]? = some session) : w.Running s := by
  refine ⟨session, hsess, ?_⟩
  cases h : session.interruption w.pool w.now with
  | none => rfl
  | some broken => simp [interrupted, hw, hsess, h] at hint

/-- A session that has had a page still has it when the turn of an operation comes. -/
theorem leadsOn_turned {op : Operation} (ho : SessionOrder w) (hk : w.Keeps s session₀)
    (hi : w.tasks[i]? = some (.operation s (.queued op))) (hsess : w.sessions[s]? = some session)
    (hopen : ¬ session.IsOver w.pool w.now) :
    LeadsOn prompt r session₀ s i w.now (.queued op)
      ((newCalls w (w.beginWork s i session op)).map (.asked w.now))
      (w.beginWork s i session op) := by
  obtain ⟨hopt, hactive⟩ := hk.of_session hsess
  unfold beginWork
  split
  · rename_i hneeds hpage
    -- it has no page: if it had had one, it would be closed by now
    refine leadsOn_of_calls (.acquiring op .looking) hi (put_tasks ..) (calls_none rfl)
      fun ms h hneeds => (h hneeds).imp_left fun hfails => ⟨?_, hfails⟩
    rw [← Bool.not_eq_true]
    intro h
    have hclosed := (ho.inOrder s session hsess).sound.closed_of_active (hactive h) hpage
    exact hopen (.inl (by rw [Session.isClosed, hclosed, Bool.true_or]))
  · rename_i needs page hnone
    refine leadsOn_of_calls _ hi (put_tasks ..) (calls_none rfl) fun ms h hneeds => ?_
    rw [hopt] at h
    cases hpage : session.page with
    | none => exact (hnone hneeds hpage).elim
    | some q =>
      rw [hpage] at h
      exact .inr ⟨w.now, Nat.le_refl _, h⟩

/-- A move that the operation makes by itself. -/
theorem leadsOn_step_move (ho : SessionOrder w) (hint : w.interrupted s i p = none)
    (hk : w.Keeps s session₀) (hi : w.tasks[i]? = some (.operation s p))
    (h : w.stepOperation s i p = some w') :
    LeadsOn prompt r session₀ s i w.now p ((newCalls w w').map (.asked w.now)) w' := by
  have running {session : Session} (hw : p.waits = true) (hsess : w.sessions[s]? = some session) :
      w.Running s := running_of_interrupted_eq_none hint hw hsess
  have hmove := operationMove_of_step h
  cases p with
  | queued op =>
    cases hmove with
    | broken _ session session' f hw hsess hf => exact ((running hw hsess).not_broken hsess hf).elim
    | refused _ session hsess hserves hover =>
      exact absurd hover (ho.not_isOver (running rfl hsess) hsess)
    | turned _ session hsess hserves hopen => exact leadsOn_turned ho hk hi hsess hopen
  | acquiring op a =>
    cases hmove with
    | broken _ session session' f hw hsess hf => exact ((running hw hsess).not_broken hsess hf).elim
    | acquiring _ _ m hm =>
      refine leadsOn_of_calls (.acquiring op m.place) hi (by simp)
        (calls_move (m := m) (by simp)) fun ms h => ?_
      rwa [put_now, takePoolMove_now] at h
    | unacquired _ f =>
      refine leadsOn_of_calls _ hi (finish_tasks _) (calls_none (finish_asked _)) ?_
      rintro ms ⟨rfl, rfl⟩ -
      exact .inl ⟨rfl, f, rfl⟩
    | acquired _ process =>
      exact leadsOn_of_calls (.opening op process) hi (put_tasks ..)
        (calls_other (r := .openPage process) rfl rfl) fun ms h => h
  | acting page rest =>
    cases hmove with
    | broken _ session session' f hw hsess hf => exact ((running hw hsess).not_broken hsess hf).elim
    | acting => exact leadsOn_act hi
  | pausing deadline page rest =>
    cases hmove with
    | broken _ session session' f hw hsess hf => exact ((running hw hsess).not_broken hsess hf).elim
    | rested _ _ _ hd =>
      refine leadsOn_of_calls _ hi (put_tasks ..) (calls_none rfl) fun ms h => ?_
      cases page with
      | none => trivial
      | some page => exact ⟨w.now, Nat.le_refl _, hd, fun _ hle => Nat.le_antisymm hle hd, h⟩
  | askingUntil deadline page c next =>
    obtain ⟨hd, rfl⟩ : _ ∧ _ = w' := by simpa [stepOperation, hint] using h
    exact leadsOn_of_calls _ hi (put_tasks ..) (calls_none rfl) fun ms h =>
      ⟨w.now, none, ms, Nat.le_refl _, fun _ hle => hle, rfl, h⟩
  | opening | asking | saving | done => simp [stepOperation, hint] at h

theorem leadsOn_step (ho : SessionOrder w) (hint : w.interrupted s i p = none)
    (hk : w.Keeps s session₀) (hi : w.tasks[i]? = some (.operation s p)) :
    LeadsOn prompt r session₀ s i w.now p (w.marks i (.step i)) (w.apply (.step i)) := by
  have hstep : w.step i = w.stepOperation s i p := by simp only [step, hi]
  rw [marks, if_pos rfl, apply, hstep]
  cases h : w.stepOperation s i p with
  | none =>
    rw [Option.getD_none, newCalls_of_same rfl]
    exact ⟨p, hi, fun ms h => h⟩
  | some w' => exact leadsOn_step_move ho hint hk hi h

theorem leadsOn_opening {op : Operation} {process : ProcessId}
    (hint : w.interrupted s i (.opening op process) = none) (hk : w.Keeps s session₀)
    (hi : w.tasks[i]? = some (.operation s (.opening op process)))
    (h : w.OperationMove s i (.opening op process) w') :
    LeadsOn prompt r session₀ s i w.now (.opening op process) [] w' := by
  have hlt := lt_length_of_getElem? hi
  cases h with
  | broken _ session session' f hw hsess hf =>
    exact ((running_of_interrupted_eq_none hint hw hsess).not_broken hsess hf).elim
  | unopened _ _ f =>
    refine ⟨.done (.error f), by rw [finish_tasks, List.getElem?_set_self hlt], ?_⟩
    rintro ms ⟨rfl, rfl⟩ -
    exact .inl ⟨rfl, f, rfl⟩
  | opened _ _ session hsess =>
    refine ⟨.acting (some w.pages) (op.work session.options).run, ?_, fun ms h _ => ?_⟩
    · rw [put_tasks, pageOpened_tasks, List.getElem?_set_self hlt]
    · rw [(hk.of_session hsess).1, put_now, pageOpened_now] at h
      exact .inr ⟨w.now, Nat.le_refl _, h⟩
  | lost _ _ hnone =>
    obtain ⟨session, hsess, -⟩ := hk
    rw [hsess] at hnone
    simp at hnone

theorem leadsOn_answer (answers : Answers) (hint : w.interrupted s i p = none)
    (hk : w.Keeps s session₀) (hi : w.tasks[i]? = some (.operation s p)) :
    LeadsOn prompt r session₀ s i w.now p (w.marks i (.answer i answers))
      (w.apply (.answer i answers)) := by
  have hanswer : w.apply (.answer i answers) = w.answerOperation s i p answers := by
    simp only [apply, answer, hi]
  have hset {p' : Progress} : (w.tasks.set i (.operation s p'))[i]? = some (.operation s p') :=
    List.getElem?_set_self (lt_length_of_getElem? hi)
  rw [marks, if_pos rfl, task_eq_of_getElem? hi, hanswer]
  cases p with
  | acquiring op a =>
    by_cases hl : a = .launching
    · subst hl
      simp only [answerOperation, hint]
      refine ⟨_, by rw [put_tasks, takePoolMove_tasks, hset], fun ms h => ?_⟩
      rwa [put_now, takePoolMove_now] at h
    · have hstay : w.answerOperation s i (.acquiring op a) answers = w := by
        cases a with
        | launching => exact (hl rfl).elim
        | _ => simp only [answerOperation, hint]
      rw [hstay]
      exact ⟨_, hi, fun ms h => h⟩
  | opening op process =>
    rcases operationMove_of_answer answers with heq | hmove
    · rw [heq]
      exact ⟨_, hi, fun ms h => h⟩
    · exact leadsOn_opening hint hk hi hmove
  | asking page c next =>
    simp only [answerOperation, hint]
    exact ⟨_, hset, fun ms h => ⟨w.now, _, ms, Nat.le_refl _, rfl, h⟩⟩
  | askingUntil deadline page c next =>
    simp only [answerOperation, hint]
    exact ⟨_, hset, fun ms h => ⟨w.now, _, ms, Nat.le_refl _, fun _ hle => hle, rfl, h⟩⟩
  | saving page path content next =>
    simp only [answerOperation, hint]
    refine ⟨_, hset, fun ms h => ?_⟩
    cases page with
    | none => trivial
    | some page => exact ⟨w.now, _, Nat.le_refl _, h⟩
  | queued | acting | pausing | done =>
    simp only [answerOperation, hint]
    exact ⟨_, hi, fun ms h => h⟩

/-! ## What others do -/

/-- The time that passes counts for the next part of the talk. -/
theorem tells_of_pass {d : Nat} {ms : List Mark} (hi : w.tasks[i]? = some (.operation s p))
    (hp : prompt → PassesPromptly i w (.pass d)) (h : p.Tells prompt r session₀ (w.now + d) ms) :
    p.Tells prompt r session₀ w.now ms := by
  have hle : w.now ≤ w.now + d := Nat.le_add_right ..
  have htimer {t : Nat} (hprompt : prompt) (ht : t ∈ (Task.operation s p).timers w.sessions) :
      w.now + d ≤ t :=
    (hp hprompt d rfl).2 t (by rwa [task_eq_of_getElem? hi])
  cases p with
  | queued op | acquiring op a | opening op process =>
    intro hneeds
    refine (h hneeds).imp id ?_
    rintro ⟨u, hu, htells⟩
    exact ⟨u, Nat.le_trans hle hu, htells⟩
  | acting page rest =>
    cases page with
    | none => trivial
    | some page =>
      obtain ⟨xs, f, hcourse, rfl⟩ := h
      refine ⟨xs, f, hcourse.earlier ⟨hle, fun hprompt => ?_⟩, rfl⟩
      -- it could have moved, so no time has passed
      have hstep := (hp hprompt d rfl).1
      have hint : w.interrupted s i (.acting (some page) rest) = none :=
        interrupted_of_not_waits rfl
      simp [step, hi, stepOperation, hint] at hstep
  | pausing deadline page rest =>
    cases page with
    | none => trivial
    | some page =>
      obtain ⟨u, hu, hdue, hprompt, htells⟩ := h
      refine ⟨u, Nat.le_trans hle hu, hdue, fun hpr _ => hprompt hpr (htimer hpr ?_), htells⟩
      exact List.mem_append_left _ (List.mem_singleton_self _)
  | asking page c next =>
    obtain ⟨u, answer, ms', hu, rfl, htells⟩ := h
    exact ⟨u, answer, ms', Nat.le_trans hle hu, rfl, htells⟩
  | askingUntil deadline page c next =>
    obtain ⟨u, answer, ms', hu, hprompt, rfl, htells⟩ := h
    refine ⟨u, answer, ms', Nat.le_trans hle hu, fun hpr _ => hprompt hpr (htimer hpr ?_), rfl,
      htells⟩
    exact List.mem_append_left _ (List.mem_singleton_self _)
  | saving page path content next =>
    cases page with
    | none => trivial
    | some page =>
      obtain ⟨u, answer, hu, htells⟩ := h
      exact ⟨u, answer, Nat.le_trans hle hu, htells⟩
  | done r' => exact h

/-- An operation that does not wait for anything cannot be abandoned. -/
theorem apply_abandon (hi : w.tasks[i]? = some (.operation s p)) :
    w.apply (.abandon i) = w ∨ (w.apply (.abandon i)).tasks[i]? = some .gone := by
  by_cases hw : p.waits = true
  · have hgone : w.apply (.abandon i) = (w.withdraw s i).put i .gone := by
      simp only [apply, abandon, hi, Task.waits, hw, Task.session?, Bool.not_true,
        Bool.false_eq_true, if_false]
    right
    rw [hgone, put_tasks, withdraw_tasks, List.getElem?_set_self (lt_length_of_getElem? hi)]
  · exact .inl (by simp [apply, abandon, hi, Task.waits, hw])

/-- Whatever happens, an operation that is not broken off goes on, or its caller no longer wants
it. -/
theorem leadsOn_apply (ho : SessionOrder w) (hint : e.IsOwn i → w.interrupted s i p = none)
    (hk : w.Keeps s session₀) (hi : w.tasks[i]? = some (.operation s p))
    (hp : prompt → PassesPromptly i w e) :
    LeadsOn prompt r session₀ s i w.now p (w.marks i e) (w.apply e) ∨
      e = .abandon i ∧ (w.apply e).tasks[i]? = some .gone := by
  by_cases hm : e.mover = some i
  · cases e with
    | step j =>
      obtain rfl : j = i := by simpa [Event.mover] using hm
      exact .inl (leadsOn_step ho (hint rfl) hk hi)
    | answer j answers =>
      obtain rfl : j = i := by simpa [Event.mover] using hm
      exact .inl (leadsOn_answer answers (hint rfl) hk hi)
    | abandon j =>
      obtain rfl : j = i := by simpa [Event.mover] using hm
      refine (apply_abandon hi).imp (fun hstay => ?_) fun hgone => ⟨rfl, hgone⟩
      rw [hstay]
      exact ⟨p, hi, fun ms h => h⟩
    | _ => simp [Event.mover] at hm
  · have hi' := getElem?_apply_of_ne hi hm
    have hmarks : w.marks i e = [] := by
      cases e with
      | step j | answer j answers =>
        exact if_neg fun h => hm (congrArg some h)
      | _ => rfl
    refine .inl ⟨p, hi', fun ms h => ?_⟩
    rw [hmarks, List.nil_append]
    by_cases hn : e.IsTimeless
    · rwa [now_apply hn] at h
    · cases e with
      | pass d => exact tells_of_pass hi hp h
      | _ => exact (hn trivial).elim

theorem gone_apply (hi : w.tasks[i]? = some .gone) (e : Event) :
    (w.apply e).tasks[i]? = some .gone := by
  by_cases hm : e.mover = some i
  · cases e with
    | step j | answer j answers | abandon j =>
      obtain rfl : j = i := by simpa [Event.mover] using hm
      simp [apply, step, answer, abandon, hi, Task.waits]
    | _ => simp [Event.mover] at hm
  · exact getElem?_apply_of_ne hi hm

/-! ## Runs -/

theorem gone_run (hi : w.tasks[i]? = some .gone) (later : List Event) :
    (w.run later).tasks[i]? = some .gone :=
  run_induction (P := fun u => u.tasks[i]? = some .gone) hi fun _ hi e _ => gone_apply hi e

theorem tells_of_ended {later : List Event} (ho : SessionOrder w) (hk : w.Keeps s session₀)
    (hr : Along (fun u _ => u.Running s) w later) (hp : prompt → Along (PassesPromptly i) w later)
    (hi : w.tasks[i]? = some (.operation s p)) (hend : (w.run later).Ended s i r) :
    p.Tells prompt r session₀ w.now (w.talk i later) := by
  induction later generalizing w p with
  | nil =>
    obtain rfl : p = .done r := by simpa [Ended, run, hi] using hend
    exact ⟨rfl, rfl⟩
  | cons e later ih =>
    rcases leadsOn_apply ho (fun _ => hr.1.interrupted) hk hi fun h => (hp h).1 with
      ⟨p', hi', hlead⟩ | ⟨-, hgone⟩
    · exact hlead _ (ih (ho.apply e) (hk.apply ho e) hr.2 (fun h => (hp h).2) hi' hend)
    · rw [show (w.run (e :: later)) = (w.apply e).run later from rfl, Ended,
        gone_run hgone later] at hend
      simp at hend

/-- An operation that begins now, and what it says to its page before it ends: nothing, if it never
gets its page, and otherwise what a course of its work does. -/
theorem talk_of_ended (prompt : Prop) {op : Operation} {later : List Event} (ho : SessionOrder w)
    (hsess : w.sessions[s]? = some session) (he : e.StartsOperation s)
    (hop : e.operation = .ok (some op)) (hneeds : op.needsPage = true)
    (hr : Along (fun u _ => u.Running s) w (e :: later))
    (hp : prompt → Along (PassesPromptly w.tasks.length) (w.apply e) later)
    (hend : (w.run (e :: later)).Ended s w.tasks.length r) :
    (session.active = false ∧ (w.apply e).talk w.tasks.length later = [] ∧ ∃ f, r = .error f) ∨
      ∃ t, PageTask.Tells prompt r (op.work session.options).run t
        ((w.apply e).talk w.tasks.length later) := by
  have hkeeps : w.Keeps s session := ⟨session, hsess, rfl, id⟩
  rcases he.begins hsess (ho.not_isOver hr.1 hsess) with ⟨op', hop', hi⟩ | ⟨f, hf, -⟩
  · obtain rfl : op = op' := by
      rw [hop] at hop'
      simpa using hop'
    refine (tells_of_ended (ho.apply e) (hkeeps.apply ho e) hr.2 hp hi hend hneeds).imp_right ?_
    rintro ⟨t, -, htells⟩
    exact ⟨t, htells⟩
  · rw [hop] at hf
    simp at hf

end Scene

end ScriptSandbox
