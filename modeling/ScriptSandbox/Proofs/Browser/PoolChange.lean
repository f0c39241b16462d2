import ScriptSandbox.Proofs.Browser.OperationMoves

/-!
# What an event does to the pool

Of a task the pool knows only the place that it has in its dealings with the pool
(`Task.poolPlace`): an operation that gets hold of a process has one like any other task that does.
`apply_poolChange` names all that an event can do to the pool, to the places and to what has been
asked of the launcher.
-/

namespace ScriptSandbox

open Function

/-- What a task is at in its dealings with the pool. -/
inductive PoolPlace
  | away
  | acquiring (a : Acquire)
  | tearing (t : Teardown)

def Task.poolPlace : Task → PoolPlace
  | .acquire a => .acquiring a
  | .operation _ (.acquiring _ a) => .acquiring a
  | .teardown t => .tearing t
  | _ => .away

namespace PoolPlace

/-- Whether a task at this place can be broken off or ends here. -/
def isFree : PoolPlace → Bool
  | .away => true
  | .acquiring (.done _) => true
  | .acquiring a => a.waits
  | .tearing t => t.waits

end PoolPlace

def Scene.Request.isLaunch : Scene.Request → Bool
  | .launch _ => true
  | _ => false

def Scene.Request.concernsPool : Scene.Request → Bool
  | .launch _ | .shutDown _ => true
  | _ => false

namespace Scene

def place (w : Scene) (i : TaskId) : PoolPlace := (w.task i).poolPlace

/-- How many launches have been begun. -/
def launches (w : Scene) : Nat := w.asked.countP Request.isLaunch

/-- How often a process has been told to shut down. -/
def shutDowns (w : Scene) (p : ProcessId) : Nat := w.asked.count (.shutDown p)

variable {w w' : Scene} {e : Event} {i j : TaskId} {s : SessionId} {t t₀ : Task}

/-! ## Places -/

theorem place_congr (h : w'.tasks = w.tasks) : w'.place = w.place := by
  funext j; rw [place, place, task_congr h]

theorem place_of_set (h : w'.tasks = w.tasks.set i t) (hi : w.tasks[i]? = some t₀) :
    w'.place = update w.place i t.poolPlace := by
  funext j
  rw [place, task_of_set h (lt_length_of_getElem? hi)]
  by_cases hj : j = i
  · subst hj; simp
  · simp [hj, place]

theorem place_of_append (h : w'.tasks = w.tasks ++ [t]) :
    w'.place = update w.place w.tasks.length t.poolPlace := by
  funext j
  rw [place, task_of_append h]
  by_cases hj : j = w.tasks.length
  · subst hj; simp
  · simp [hj, place]

theorem place_eq_of_getElem? (h : w.tasks[i]? = some t) : w.place i = t.poolPlace := by
  rw [place, task_eq_of_getElem? h]

@[simp] theorem place_length : w.place w.tasks.length = .away := by simp [place, Task.poolPlace]

/-! ## Requests -/

/-- The second scene has asked what the first has, perhaps something of the pool, and perhaps more
that is not its concern. -/
def Asks (w w' : Scene) (r : Option PoolRequest) : Prop :=
  ∃ others : List Request, (∀ o ∈ others, o.concernsPool = false) ∧
    w'.asked = others ++ ((r.map PoolRequest.toRequest).toList ++ w.asked)

theorem asks_none (h : w'.asked = w.asked) : Asks w w' none := ⟨[], by simp, by simpa using h⟩

theorem asks_other {r : Request} (h : w'.asked = r :: w.asked) (hr : r.concernsPool = false) :
    Asks w w' none := ⟨[r], by simpa using hr, by simpa using h⟩

theorem asks_move {α : Type} {m : PoolMove α}
    (h : w'.asked = (m.request.map PoolRequest.toRequest).toList ++ w.asked) :
    Asks w w' m.request := ⟨[], by simp, by simpa using h⟩

theorem Asks.launches {r : Option PoolRequest} (h : Asks w w' r) :
    w'.launches = w.launches + if r.any (·.toRequest.isLaunch) then 1 else 0 := by
  obtain ⟨others, ho, ha⟩ := h
  have h0 : others.countP Request.isLaunch = 0 := by
    rw [List.countP_eq_zero]
    intro o hm hl
    have := ho o hm
    cases o <;> simp_all [Request.isLaunch, Request.concernsPool]
  rw [Scene.launches, ha, List.countP_append, List.countP_append, h0, ← Scene.launches]
  cases r with
  | none => simp
  | some r =>
    by_cases hl : r.toRequest.isLaunch = true <;> simp [hl, Nat.add_comm]

theorem Asks.shutDowns {r : Option PoolRequest} (h : Asks w w' r) (p : ProcessId) :
    w'.shutDowns p = w.shutDowns p + if r = some (.shutDown p) then 1 else 0 := by
  obtain ⟨others, ho, ha⟩ := h
  have h0 : others.count (.shutDown p) = 0 := by
    rw [List.count_eq_zero]
    intro hm
    have := ho _ hm
    simp [Request.concernsPool] at this
  rw [Scene.shutDowns, ha, List.count_append, List.count_append, h0, ← Scene.shutDowns]
  rcases r with _ | ⟨o⟩ | ⟨q⟩
  · simp
  · simp [PoolRequest.toRequest]
  · by_cases hq : q = p <;> simp [PoolRequest.toRequest, hq, Nat.add_comm]

/-! ## Changes -/

/-- All that an event can do to the pool and to the places of the tasks. -/
inductive PoolChange (w : Scene) (e : Event) (w' : Scene) : Prop
  | rest (hp : w'.pool = w.pool) (hs : w'.place = w.place) (ha : Asks w w' none)
  | cancelled (hp : w'.pool = { w.pool with cancelled := true }) (hs : w'.place = w.place)
      (ha : Asks w w' none) (he : e = .cancelPool)
  | entered (i : TaskId) (x : PoolPlace) (hi : w.place i = .away)
      (hx : x = .acquiring .looking ∨ x = .tearing .arriving ∧ e = .beginTeardown)
      (hp : w'.pool = w.pool) (hs : w'.place = update w.place i x) (ha : Asks w w' none)
  | acquire (i : TaskId) (a : Acquire) (m : PoolMove Acquire) (hi : w.place i = .acquiring a)
      (hm : a.Moves i w.pool m) (hp : w'.pool = m.pool)
      (hs : w'.place = update w.place i (.acquiring m.place)) (ha : Asks w w' m.request)
  | teardown (i : TaskId) (t : Teardown) (m : PoolMove Teardown) (hi : w.place i = .tearing t)
      (hm : t.Moves i w.pool m) (hp : w'.pool = m.pool)
      (hs : w'.place = update w.place i (.tearing m.place)) (ha : Asks w w' m.request)
  | left (i : TaskId) (hi : (w.place i).isFree = true) (hp : w'.pool = w.pool.leave i)
      (hs : w'.place = update w.place i .away) (ha : Asks w w' none)
  | received (i : TaskId) (p : ProcessId) (hi : w.place i = .acquiring (.done (.ok p)))
      (hp : w'.pool = w.pool) (hs : w'.place = update w.place i .away) (ha : Asks w w' none)

theorem PoolChange.refl : PoolChange w e w := .rest rfl rfl (asks_none rfl)

/-- A task that stays away from the pool changes nothing there. -/
theorem PoolChange.of_set (hi : w.tasks[i]? = some t₀) (hp : w'.pool = w.pool)
    (ht : w'.tasks = w.tasks.set i t) (hs : t.poolPlace = t₀.poolPlace) (ha : Asks w w' none) :
    PoolChange w e w' := by
  refine .rest hp ?_ ha
  rw [place_of_set ht hi, hs, ← place_eq_of_getElem? hi, update_eq_self]

theorem PoolChange.of_append (hp : w'.pool = w.pool) (ht : w'.tasks = w.tasks ++ [t])
    (hs : t.poolPlace = .away) (ha : w'.asked = w.asked) : PoolChange w e w' := by
  refine .rest hp ?_ (asks_none ha)
  rw [place_of_append ht, hs, ← place_length, update_eq_self]

theorem PoolChange.of_finish (hi : w.tasks[i]? = some t₀) (hf : t₀.poolPlace.isFree = true)
    (hp : w'.pool = w.pool.leave i) (ht : w'.tasks = w.tasks.set i t)
    (hs : t.poolPlace = .away) (ha : w'.asked = w.asked) : PoolChange w e w' := by
  refine .left i ?_ hp ?_ (asks_none ha)
  · rw [place_eq_of_getElem? hi]; exact hf
  · rw [place_of_set ht hi, hs]

theorem PoolChange.of_acquire {a : Acquire} {m : PoolMove Acquire} (hi : w.tasks[i]? = some t₀)
    (ht₀ : t₀.poolPlace = .acquiring a)
    (hm : a.Moves i w.pool m) (ht : t.poolPlace = .acquiring m.place) :
    PoolChange w e ((w.takePoolMove m).put i t) := by
  refine .acquire i a m ((place_eq_of_getElem? hi).trans ht₀) hm (by simp) ?_
    (asks_move (by simp))
  rw [place_of_set (t := t) (by simp) hi, ht]

theorem PoolChange.of_teardown {a : Teardown} {m : PoolMove Teardown}
    (hi : w.tasks[i]? = some (.teardown a))
    (hm : a.Moves i w.pool m) :
    PoolChange w e ((w.takePoolMove m).put i (.teardown m.place)) := by
  refine .teardown i a m (place_eq_of_getElem? hi) hm (by simp) ?_ (asks_move (by simp))
  rw [place_of_set (t := .teardown m.place) (by simp) hi]; rfl

/-! ## Operations -/

theorem isFree_of_waits {p : Progress} (h : p.waits = true) :
    (Task.operation s p).poolPlace.isFree = true := by
  cases p with
  | acquiring op a => cases a <;> first | rfl | simp [Progress.waits, Acquire.waits] at h
  | _ => rfl

/-- The next part of the work of an operation has nothing to do with the pool. -/
theorem PoolChange.of_act {page : Option PageId} {rest : Rest}
    (hi : w.tasks[i]? = some (.operation s (.acting page rest))) :
    PoolChange w e (w.act s i page rest) := by
  cases rest with
  | done r =>
    show PoolChange w e (w.finish s i r)
    exact .of_finish hi rfl (finish_pool r) (finish_tasks r) rfl (finish_asked r)
  | pause ms rest =>
    by_cases hms : ms = 0 <;> rw [act] <;> simp only [hms, if_true, if_false] <;>
      exact .of_set hi rfl (put_tasks ..) rfl (asks_none rfl)
  | clock next => exact .of_set hi rfl (put_tasks ..) rfl (asks_none rfl)
  | save path content next =>
    exact .of_set hi rfl (put_tasks ..) rfl (asks_other (r := .save path content) rfl rfl)
  | call c next =>
    cases page with
    | none => exact .of_set hi rfl (put_tasks ..) rfl (asks_none rfl)
    | some p => exact .of_set hi rfl (put_tasks ..) rfl (asks_other (r := .page p c) rfl rfl)
  | callWithin ms c next =>
    cases page with
    | none => exact .of_set hi rfl (put_tasks ..) rfl (asks_none rfl)
    | some p => exact .of_set hi rfl (put_tasks ..) rfl (asks_other (r := .page p c) rfl rfl)

theorem PoolChange.of_beginWork {session : Session} {op op' : Operation}
    (hi : w.tasks[i]? = some (.operation s (.queued op'))) :
    PoolChange w e (w.beginWork s i session op) := by
  unfold beginWork
  split
  · refine .entered i (.acquiring .looking) (place_eq_of_getElem? hi) (.inl rfl) rfl ?_
      (asks_none rfl)
    exact place_of_set (put_tasks ..) hi
  · exact .of_set hi rfl (put_tasks ..) rfl (asks_none rfl)

theorem PoolChange.of_operationMove {p : Progress} (hi : w.tasks[i]? = some (.operation s p))
    (h : w.OperationMove s i p w') : PoolChange w e w' := by
  cases h with
  | broken _ session session' f hw =>
    exact .of_finish hi (isFree_of_waits hw) (finish_pool _) (finish_tasks _) rfl (finish_asked _)
  | refused | unacquired | unopened =>
    exact .of_finish hi rfl (finish_pool _) (finish_tasks _) rfl (finish_asked _)
  | turned op session => exact .of_beginWork hi
  | acquiring op a m hm => exact .of_acquire hi rfl hm rfl
  | acquired op process =>
    refine .received i process (place_eq_of_getElem? hi) rfl ?_
      (asks_other (r := .openPage process) rfl rfl)
    exact place_of_set (put_tasks ..) hi
  | opened op process session hsess =>
    rw [pageOpened_eq hsess]
    exact .of_set hi rfl (put_tasks ..) rfl (asks_none rfl)
  | lost op process hsess =>
    unfold pageOpened
    simp only [hsess]
    exact .rest rfl (place_congr rfl) (asks_none rfl)
  | acting page rest => exact .of_act hi
  | rested | answered | givenUp | answeredInTime | saved =>
    exact .of_set hi rfl (put_tasks ..) rfl (asks_none rfl)

/-! ## Closes and watches -/

theorem PoolChange.of_closingMove {c : Closing} (hi : w.tasks[i]? = some (.close s c))
    (h : w.ClosingMove s i c w') : PoolChange w e w' := by
  cases h with
  | taken session page =>
    exact .of_set hi rfl (put_tasks ..) rfl (asks_other (r := .page page .close) rfl rfl)
  | takenNothing | lost | ended => exact .of_set hi rfl (put_tasks ..) rfl (asks_none rfl)

theorem PoolChange.of_stepWatch (hi : w.tasks[i]? = some (.watch s))
    (h : w.stepWatch s i = some w') : PoolChange w e w' := by
  unfold stepWatch at h
  split at h
  · simp at h
  · obtain ⟨-, rfl⟩ : _ ∧ _ = w' := by simpa using h
    exact .of_set hi (by simp) (t := .close s .queued) (by simp) rfl (asks_none (by simp))

/-! ## Events -/

theorem PoolChange.of_begun (h : Begun w s w') : PoolChange w e w' := by
  cases h with
  | refused f =>
    exact .of_append (t := .operation s (.done (.error f))) (by simp [refuse]) (by simp [refuse])
      rfl (by simp [refuse])
  | queued session op hs ho =>
    rw [joinLine_eq hs]
    exact .of_append rfl rfl rfl rfl
  | closing =>
    unfold beginClose
    split
    · exact .of_append (t := .close s .queued) (by simp) (by simp) rfl (by simp)
    · exact .of_append (t := .gone) rfl rfl rfl rfl

theorem PoolChange.of_step (h : w.step i = some w') : PoolChange w e w' := by
  unfold step at h
  cases hi : w.tasks[i]? with
  | none => simp [hi] at h
  | some t =>
    simp only [hi] at h
    cases t with
    | acquire a =>
      obtain ⟨m, hm, rfl⟩ := Option.map_eq_some_iff.1 h
      exact .of_acquire hi rfl (Acquire.moves_of_step hm) rfl
    | teardown t =>
      obtain ⟨m, hm, rfl⟩ := Option.map_eq_some_iff.1 h
      exact .of_teardown hi (Teardown.moves_of_step hm)
    | operation s p => exact .of_operationMove hi (operationMove_of_step h)
    | close s c => exact .of_closingMove hi (closingMove_of_step h)
    | watch s => exact .of_stepWatch hi h
    | gone => simp at h

theorem PoolChange.of_answer (answers : Answers) : PoolChange w e (w.answer i answers) := by
  unfold answer
  cases hi : w.tasks[i]? with
  | none => exact .refl
  | some t =>
    cases t with
    | acquire a =>
      cases a with
      | launching => exact .of_acquire hi rfl (Acquire.moves_launched _) rfl
      | _ => exact .refl
    | teardown t =>
      cases t with
      | stopping p => exact .of_teardown hi (Teardown.moves_ended p)
      | _ => exact .refl
    | operation s p =>
      rcases operationMove_of_answer (w := w) (s := s) (i := i) (p := p) answers with heq | hmove
      · simp only [heq]
        exact .refl
      · exact .of_operationMove hi hmove
    | close s c =>
      cases c with
      | closingPage deadline page => exact .of_closingMove hi (.ended deadline page)
      | _ => exact .refl
    | watch | gone => exact .refl

theorem PoolChange.of_abandon : PoolChange w e (w.abandon i) := by
  unfold abandon
  cases hi : w.tasks[i]? with
  | none => exact .refl
  | some t =>
    cases hw : t.waits with
    | false => simp only [hw, Bool.not_false, if_true]; exact .refl
    | true =>
      simp only [hw, Bool.not_true, Bool.false_eq_true, if_false]
      have hf : t.poolPlace.isFree = true := by
        cases t with
        | acquire a => cases a <;> first | rfl | simp [Task.waits, Acquire.waits] at hw
        | teardown t => exact hw
        | operation s p => exact isFree_of_waits hw
        | close | watch | gone => rfl
      cases t.session? with
      | none => exact .of_finish (t := .gone) hi hf rfl rfl rfl rfl
      | some s => exact .of_finish (t := .gone) hi hf (by simp) (by simp) rfl (by simp)

/-- What an event can do to the pool. -/
theorem apply_poolChange (w : Scene) (e : Event) : PoolChange w e (w.apply e) := by
  cases e with
  | step i =>
    cases h : w.step i with
    | none => simp only [apply, h, Option.getD_none]; exact .refl
    | some w' => simp only [apply, h, Option.getD_some]; exact .of_step h
  | answer i answers => exact .of_answer answers
  | abandon i => exact .of_abandon
  | pass ms => exact .rest rfl (place_congr rfl) (asks_none rfl)
  | openSession label options => exact .rest rfl (place_congr rfl) (asks_none rfl)
  | call s c => exact .of_begun (begun_beginCall c)
  | dispatch s m args => exact .of_begun (begun_dispatch m args)
  | beginClose s => exact .of_begun .closing
  | beginWatch s => exact .of_append (t := .watch s) rfl rfl rfl rfl
  | beginAcquire =>
    exact .entered w.tasks.length (.acquiring .looking) place_length (.inl rfl) rfl
      (place_of_append (t := .acquire .looking) rfl) (asks_none rfl)
  | beginTeardown =>
    exact .entered w.tasks.length (.tearing .arriving) place_length (.inr ⟨rfl, rfl⟩) rfl
      (place_of_append (t := .teardown .arriving) rfl) (asks_none rfl)
  | ensureOpen s =>
    exact .rest ensureOpen_pool (place_congr ensureOpen_tasks) (asks_none ensureOpen_asked)
  | cancelPool => exact .cancelled rfl (place_congr rfl) (asks_none rfl) rfl

end Scene

end ScriptSandbox
