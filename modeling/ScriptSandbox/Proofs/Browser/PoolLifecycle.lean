import ScriptSandbox.Proofs.Browser.PoolOrder

/-!
# The life of a process

A process is started by the one task that may start one, stored, taken out by one teardown, and told
by that teardown to shut down. `pool_lifecycle` says so of every run. As long as no teardown is
under way (`Calm`), one process at most is started, and everybody gets that one.
-/

namespace ScriptSandbox

open Function

namespace Scene

variable {w w' : Scene} {e : Event} {i j : TaskId} {p q : ProcessId}

/-! ## A task on its own -/

/-- What an event can do to the place of one task. -/
inductive PlaceChange (w : Scene) (e : Event) (w' : Scene) (i : TaskId) : Prop
  | same (hs : w'.place i = w.place i)
  | entered (hi : w.place i = .away)
      (hs : w'.place i = .acquiring .looking ∨ w'.place i = .tearing .arriving ∧ e = .beginTeardown)
  | acquire (a : Acquire) (m : PoolMove Acquire) (hi : w.place i = .acquiring a)
      (hm : a.Moves i w.pool m) (hp : w'.pool = m.pool) (hs : w'.place i = .acquiring m.place)
      (ha : Asks w w' m.request)
  | teardown (t : Teardown) (m : PoolMove Teardown) (hi : w.place i = .tearing t)
      (hm : t.Moves i w.pool m) (hp : w'.pool = m.pool) (hs : w'.place i = .tearing m.place)
      (ha : Asks w w' m.request)
  | freed (hi : (w.place i).isFree = true) (hs : w'.place i = .away)

theorem PoolChange.placeChange (h : PoolChange w e w') (i : TaskId) : PlaceChange w e w' i := by
  -- a task that the event is not about stays where it is
  have other {k : TaskId} {x : PoolPlace} (hs : w'.place = update w.place k x) (hik : i ≠ k) :
      PlaceChange w e w' i := .same (by rw [hs, update_of_ne hik])
  cases h with
  | rest hp hs ha => exact .same (by rw [hs])
  | cancelled hp hs ha => exact .same (by rw [hs])
  | entered k x hi hx hp hs ha =>
    by_cases hik : i = k
    · subst hik
      exact .entered hi (by rwa [hs, update_self])
    · exact other hs hik
  | acquire k a m hi hm hp hs ha =>
    by_cases hik : i = k
    · subst hik
      exact .acquire a m hi hm hp (by rw [hs, update_self]) ha
    · exact other hs hik
  | teardown k t m hi hm hp hs ha =>
    by_cases hik : i = k
    · subst hik
      exact .teardown t m hi hm hp (by rw [hs, update_self]) ha
    · exact other hs hik
  | left k hi hp hs ha =>
    by_cases hik : i = k
    · subst hik
      exact .freed hi (by rw [hs, update_self])
    · exact other hs hik
  | received k p hi hp hs ha =>
    by_cases hik : i = k
    · subst hik
      exact .freed (by rw [hi]; rfl) (by rw [hs, update_self])
    · exact other hs hik

theorem apply_placeChange (w : Scene) (e : Event) (i : TaskId) : PlaceChange w e (w.apply e) i :=
  (apply_poolChange w e).placeChange i

/-! ## Requests and contents -/

theorem shutDowns_apply (w : Scene) (e : Event) (p : ProcessId) :
    (w.apply e).shutDowns p = w.shutDowns p ∨
      ∃ i, w.place i = .tearing (.calling p) ∧ (w.apply e).place i = .tearing (.stopping p) ∧
        (w.apply e).shutDowns p = w.shutDowns p + 1 := by
  have same (ha : Asks w (w.apply e) none) : (w.apply e).shutDowns p = w.shutDowns p := by
    rw [shutDowns_of_asks_none ha]
  cases apply_poolChange w e with
  | acquire i a m hi hm hp hs ha => exact .inl (by rw [shutDowns_of_asks_acquire hm ha])
  | teardown i t m hi hm hp hs ha =>
    cases hm with
    | call q =>
      have hn := ha.shutDowns p
      by_cases hq : q = p
      · subst hq
        exact .inr ⟨i, hi, by rw [hs, update_self], by simpa using hn⟩
      · exact .inl (by simpa [hq] using hn)
    | _ => exact .inl (same ha)
  | rest _ _ ha | cancelled _ _ ha | entered _ _ _ _ _ _ ha | left _ _ _ _ ha
  | received _ _ _ _ _ ha => exact .inl (same ha)

theorem shutDowns_mono (w : Scene) (e : Event) (p : ProcessId) :
    w.shutDowns p ≤ (w.apply e).shutDowns p := by
  rcases shutDowns_apply w e p with h | ⟨-, -, -, h⟩ <;> omega

theorem launches_apply (w : Scene) (e : Event) :
    (w.apply e).launches = w.launches ∨
      ∃ i, w.place i = .acquiring .starting ∧ (w.apply e).place i = .acquiring .launching ∧
        (w.apply e).launches = w.launches + 1 := by
  have same (ha : Asks w (w.apply e) none) : (w.apply e).launches = w.launches := by
    simpa using ha.launches
  cases apply_poolChange w e with
  | acquire i a m hi hm hp hs ha =>
    cases hm with
    | start => exact .inr ⟨i, hi, by rw [hs, update_self], ha.launches⟩
    | _ => exact .inl (same ha)
  | teardown i t m hi hm hp hs ha =>
    refine .inl ?_
    cases hm with
    | call q => simpa [PoolRequest.toRequest, Request.isLaunch] using ha.launches
    | _ => exact same ha
  | rest _ _ ha | cancelled _ _ ha | entered _ _ _ _ _ _ ha | left _ _ _ _ ha
  | received _ _ _ _ _ ha => exact .inl (same ha)

/-- What is stored changes only when a task stores what it has started, and when a teardown takes
it out. -/
theorem stored_apply (w : Scene) (e : Event) :
    (w.apply e).pool.stored = w.pool.stored ∨
      (∃ i q, w.place i = .acquiring (.storing q) ∧
        (w.apply e).place i = .acquiring (.announcing q) ∧
        (w.apply e).pool.stored = some q) ∨
      ∃ i q, w.pool.stored = some q ∧ w.place i = .tearing .taking ∧
        (w.apply e).place i = .tearing (.cancelling q) := by
  cases apply_poolChange w e with
  | acquire i a m hi hm hp hs ha =>
    cases hm with
    | store q => exact .inr (.inl ⟨i, q, hi, by rw [hs, update_self], by rw [hp]⟩)
    | _ => exact .inl (congrArg Pool.stored hp :)
  | teardown i t m hi hm hp hs ha =>
    cases hm with
    | take q hq => exact .inr (.inr ⟨i, q, hq, hi, by rw [hs, update_self]⟩)
    | _ => exact .inl (congrArg Pool.stored hp :)
  | rest hp | cancelled hp | entered _ _ _ _ hp | left _ _ hp | received _ _ _ hp =>
    exact .inl (congrArg Pool.stored hp :)

theorem PoolOrder.loose_of_storing (h : PoolOrder w) (hi : w.place i = .acquiring (.storing q)) :
    w.pool.Loose w.shutDowns q := h.fits_of_place hi rfl

theorem PoolOrder.bare_of_launching (h : PoolOrder w) (hi : w.place i = .acquiring .launching) :
    w.pool.Bare w.shutDowns := h.fits_of_place hi rfl

theorem PoolOrder.bare_of_starting (h : PoolOrder w) (hi : w.place i = .acquiring .starting) :
    w.pool.Bare w.shutDowns := h.fits_of_place hi rfl

theorem started_apply (w : Scene) (e : Event) : w.pool.started ≤ (w.apply e).pool.started := by
  cases apply_poolChange w e with
  | acquire i a m hi hm hp =>
    rw [hp]
    cases hm with
    | launched => exact Nat.le_succ _
    | _ => exact Nat.le_refl _
  | teardown i t m hi hm hp => rw [hp]; cases hm <;> exact Nat.le_refl _
  | rest hp | cancelled hp | entered _ _ _ _ hp | left _ _ hp | received _ _ _ hp =>
    exact Nat.le_of_eq (congrArg Pool.started hp).symm

/-! ## A process that has been taken out -/

/-- A teardown takes a process out of the pool. -/
def Takes (w : Scene) (e : Event) (i : TaskId) (p : ProcessId) : Prop :=
  w.place i = .tearing .taking ∧ (w.apply e).place i = .tearing (.cancelling p)

/-- A teardown tells a process to shut down. -/
def Tells (w : Scene) (e : Event) (i : TaskId) (p : ProcessId) : Prop :=
  w.place i = .tearing (.calling p) ∧ (w.apply e).place i = .tearing (.stopping p)

/-- A teardown has a process in its hands and has not told it anything yet. -/
def HasTaken (w : Scene) (i : TaskId) (p : ProcessId) : Prop :=
  w.place i = .tearing (.cancelling p) ∨ w.place i = .tearing (.calling p)

theorem Takes.stored (h : w.Takes e i p) : w.pool.stored = some p := by
  obtain ⟨hi, hi'⟩ := h
  cases apply_placeChange w e i with
  | same hs => rw [hs, hi] at hi'; simp at hi'
  | entered hx hs => rw [hi] at hx; simp at hx
  | acquire a m hx hm hp hs ha => rw [hi] at hx; simp at hx
  | teardown t m hx hm hp hs ha =>
    obtain rfl : Teardown.taking = t := by simpa [hi] using hx
    rw [hs] at hi'
    cases hm with
    | take q hq =>
      obtain rfl : q = p := by simpa using hi'
      exact hq
    | takeNothing => simp at hi'
  | freed hf hs => rw [hs] at hi'; simp at hi'

theorem takes_of_stored (h : PoolOrder w) (hp : w.pool.stored = some p)
    (hp' : (w.apply e).pool.stored ≠ some p) : ∃ i, w.Takes e i p := by
  rcases stored_apply w e with hs | ⟨i, q, hi, -, -⟩ | ⟨i, q, hq, hi, hi'⟩
  · exact absurd (hs.trans hp) hp'
  · -- a task that is about to store something has found nothing stored
    rw [(h.loose_of_storing hi).stored] at hp
    simp at hp
  · obtain rfl : q = p := by simpa [hq] using hp
    exact ⟨i, hi, hi'⟩

theorem HasTaken.loose (h : w.HasTaken i p) (ho : PoolOrder w) : w.pool.Loose w.shutDowns p := by
  rcases h with h | h <;> exact ho.fits_of_place h rfl

theorem HasTaken.holding (h : w.HasTaken i p) : (w.place i).standing = .holding := by
  rcases h with h | h <;> rw [h] <;> rfl

/-- A process that has been taken out stays with the teardown that took it until it has been told
to shut down. -/
theorem HasTaken.apply (h : w.HasTaken i p) (e : Event) :
    (w.apply e).HasTaken i p ∨ w.shutDowns p < (w.apply e).shutDowns p := by
  have hfree : (w.place i).isFree = false := by rcases h with h | h <;> rw [h] <;> rfl
  have hx {x : PoolPlace} (hx : w.place i = x) :
      x = .tearing (.cancelling p) ∨ x = .tearing (.calling p) := hx ▸ h
  cases apply_placeChange w e i with
  | same hs => exact .inl (by rwa [HasTaken, hs])
  | entered hi hs => simpa using hx hi
  | acquire a m hi hm hp hs ha => simpa using hx hi
  | freed hi hs => simp [hfree] at hi
  | teardown t m hi hm hp hs ha =>
    rcases hx hi with ht | ht <;> cases ht <;> cases hm
    · exact .inl (.inr hs)
    · exact .inr (by simp [ha.shutDowns p])

/-- Once a process has been taken out, it stays with the teardown that took it until it has been
told to shut down, once. -/
theorem hasTaken_run (h : w.HasTaken i p) (ho : PoolOrder w) (later : List Event) :
    (w.run later).HasTaken i p ∨ (w.run later).shutDowns p = 1 := by
  refine ho.run_induction (P := fun t => t.HasTaken i p ∨ t.shutDowns p = 1) (.inl h) ?_
  intro t ho ht e _
  have hle := (ho.apply e).shutDowns_le p
  rcases ht with ht | ht
  · exact (ht.apply e).imp_right fun hlt => by omega
  · have hmono := shutDowns_mono t e p
    exact .inr (by omega)

theorem HasTaken.shutDowns (h : w.HasTaken i p) (ho : PoolOrder w) : w.shutDowns p = 0 := by
  rw [(h.loose ho).told p, if_neg (Nat.lt_irrefl p)]

theorem getElem?_of_place_tearing {t : Teardown} (h : w.place i = .tearing t) :
    w.tasks[i]? = some (.teardown t) := by
  unfold place task at h
  rcases hi : w.tasks[i]? with _ | (a | t' | ⟨s, p⟩ | ⟨s, c⟩ | s | _)
  · simp [hi, Task.poolPlace] at h
  · simp [hi, Task.poolPlace] at h
  · simpa [hi, Task.poolPlace] using h
  · cases p <;> simp [hi, Task.poolPlace] at h
  all_goals simp [hi, Task.poolPlace] at h

theorem apply_step_tearing {t : Teardown} {m : PoolMove Teardown} (h : w.place i = .tearing t)
    (hm : t.step i w.pool = some m) :
    w.apply (.step i) = (w.takePoolMove m).put i (.teardown m.place) := by
  simp [apply, step, getElem?_of_place_tearing h, hm]

theorem place_step_cancelling (h : w.place i = .tearing (.cancelling p)) :
    (w.apply (.step i)).place i = .tearing (.calling p) := by
  rw [apply_step_tearing h rfl,
    place_of_set (t := .teardown (.calling p)) (by simp) (getElem?_of_place_tearing h), update_self]
  rfl

theorem shutDowns_step_calling (h : w.place i = .tearing (.calling p)) :
    (w.apply (.step i)).shutDowns p = w.shutDowns p + 1 := by
  rw [apply_step_tearing h rfl]
  simp [Scene.shutDowns, PoolRequest.toRequest]

/-- The teardown that has taken a process out tells it to shut down in its next two steps at the
latest, and nothing has to be waited for. -/
theorem HasTaken.two_steps (h : w.HasTaken i p) (ho : PoolOrder w) :
    (w.run [.step i, .step i]).shutDowns p = 1 := by
  have hle := (ho.run [.step i, .step i]).shutDowns_le p
  suffices 1 ≤ (w.run [.step i, .step i]).shutDowns p by omega
  rcases h with h | h
  · have := shutDowns_step_calling (place_step_cancelling h)
    show 1 ≤ ((w.apply (.step i)).apply (.step i)).shutDowns p
    omega
  · have h1 := shutDowns_step_calling h
    have h2 := shutDowns_mono (w.apply (.step i)) (.step i) p
    show 1 ≤ ((w.apply (.step i)).apply (.step i)).shutDowns p
    omega

/-! ## Without a teardown -/

/-- No teardown is under way, and the process in use, or the next one to be started, is `p`. -/
structure Calm (w : Scene) (p : ProcessId) : Prop where
  teardowns : ∀ i t, w.place i = .tearing t → t = .done
  told : Told w.shutDowns p

theorem exists_calm (h : PoolOrder w) (ht : ∀ i t, w.place i = .tearing t → t = .done) :
    ∃ p, w.Calm p := by
  rcases h.cases with hb | ⟨q, hs⟩ | ⟨q, hl⟩
  · exact ⟨_, ht, hb.told⟩
  · exact ⟨q, ht, hs.told⟩
  · exact ⟨q, ht, hl.told⟩

theorem Calm.apply (h : w.Calm p) (he : e ≠ .beginTeardown) : (w.apply e).Calm p where
  teardowns i t ht := by
    cases apply_placeChange w e i with
    | same hs => exact h.teardowns i t (hs ▸ ht)
    | entered hi hs =>
      rcases hs with hs | ⟨-, rfl⟩
      · rw [hs] at ht; simp at ht
      · exact absurd rfl he
    | acquire a m hi hm hp hs ha => rw [hs] at ht; simp at ht
    | teardown t₀ m hi hm hp hs ha =>
      obtain rfl := h.teardowns i t₀ hi
      cases hm
    | freed hi hs => rw [hs] at ht; simp at ht
  told q := by
    rcases shutDowns_apply w e q with hn | ⟨i, hi, -, -⟩
    · rw [hn]; exact h.told q
    · have := h.teardowns i _ hi
      simp at this

theorem Calm.run {later : List Event} (h : w.Calm p) (hl : Event.beginTeardown ∉ later) :
    (w.run later).Calm p :=
  run_induction (P := fun t => t.Calm p) h fun _ h _ he => h.apply fun heq => hl (heq ▸ he)

theorem Calm.started (h : w.Calm p) (ho : PoolOrder w) :
    w.pool.started = p ∨ w.pool.started = p + 1 := by
  rcases ho.cases with hb | ⟨q, hs⟩ | ⟨q, hl⟩
  · exact .inl (hb.told.unique h.told)
  · exact .inr (by rw [← hs.latest, hs.told.unique h.told])
  · exact .inr (by rw [← hl.latest, hl.told.unique h.told])

theorem Calm.stored (h : w.Calm p) (ho : PoolOrder w) (hq : w.pool.stored = some q) : q = p :=
  (ho.stores hq).told.unique h.told

/-- Whoever gets a process gets the one that is stored. -/
theorem stored_of_got (ho : PoolOrder w)
    (h : (w.apply e).place i = .acquiring (.done (.ok q))) :
    w.place i = .acquiring (.done (.ok q)) ∨ w.pool.stored = some q := by
  cases apply_placeChange w e i with
  | same hs => exact .inl (hs ▸ h)
  | entered hi hs => rcases hs with hs | ⟨hs, -⟩ <;> rw [hs] at h <;> simp at h
  | acquire a m hi hm hp hs ha =>
    rw [hs] at h
    cases hm with
    | read q' hq =>
      obtain rfl : q' = q := by simpa using h
      exact .inr hq
    | leave r =>
      obtain rfl : r = .ok q := by simpa using h
      exact .inr (ho.fits_of_place hi rfl).2.stored
    | _ => simp at h
  | teardown t m hi hm hp hs ha => rw [hs] at h; simp at h
  | freed hi hs => rw [hs] at h; simp at h

theorem got_run {later : List Event} (h : w.Calm p) (ho : PoolOrder w)
    (hl : Event.beginTeardown ∉ later)
    (hi : (w.run later).place i = .acquiring (.done (.ok q))) :
    w.place i = .acquiring (.done (.ok q)) ∨ q = p := by
  refine (ho.run_induction (P := fun t => t.Calm p ∧
    (t.place i = .acquiring (.done (.ok q)) → w.place i = .acquiring (.done (.ok q)) ∨ q = p))
    ⟨h, .inl⟩ ?_).2 hi
  rintro t ho ⟨ht, got⟩ e he
  refine ⟨ht.apply fun heq => hl (heq ▸ he), fun hi => ?_⟩
  rcases stored_of_got ho hi with hi | hq
  · exact got hi
  · exact .inr (ht.stored ho hq)

/-! ## All together -/

/-- In every run of a pool:

* there is one launch at most at a time, none is begun while another is under way or while a
  process is stored, and a process is said to run only while one is stored;
* a stored process has not been told to shut down; what removes it is a teardown that takes it out,
  no teardown takes it a second time, and nobody but this teardown tells it to shut down, which
  happens once and is at most two steps of the teardown away;
* as long as no teardown is under way, one more launch at most comes to a good end, and all who
  get a process get the same one. -/
theorem pool_lifecycle (options : LaunchOptions) (before : List Event) :
    let w := (fresh options).run before
    (∀ i j, w.place i = .acquiring .launching → w.place j = .acquiring .launching → i = j) ∧
    (∀ i, w.place i = .acquiring .launching → w.pool.stored = none) ∧
    (∀ e, w.launches < (w.apply e).launches →
      w.pool.stored = none ∧ ∀ i, w.place i ≠ .acquiring .launching) ∧
    (w.pool.running = true → w.pool.stored ≠ none) ∧
    (∀ p, w.pool.stored = some p → w.shutDowns p = 0 ∧
      ∀ e, (w.apply e).pool.stored ≠ some p → ∃ i, w.Takes e i p ∧ ∀ later,
        let t := (w.apply e).run later
        t.pool.stored ≠ some p ∧
        (∀ e' j, ¬ t.Takes e' j p) ∧
        (∀ e', t.shutDowns p < (t.apply e').shutDowns p → t.Tells e' i p) ∧
        (t.shutDowns p = 0 ∧ (t.run [.step i, .step i]).shutDowns p = 1 ∨ t.shutDowns p = 1)) ∧
    ((∀ i t, w.place i = .tearing t → t = .done) → ∃ p, ∀ later, Event.beginTeardown ∉ later →
      (w.run later).pool.started ≤ w.pool.started + 1 ∧
      ∀ i q, (w.run later).place i = .acquiring (.done (.ok q)) →
        w.place i = .acquiring (.done (.ok q)) ∨ q = p) := by
  intro w
  have ho : PoolOrder w := poolOrder_run options before
  refine ⟨?_, ?_, ?_, ?_, ?_, ?_⟩
  · intro i j hi hj
    exact ho.kept.holding_unique (by rw [comp_apply, hi]; rfl) (by rw [comp_apply, hj]; rfl)
  · intro i hi
    exact (ho.bare_of_launching hi).stored
  · intro e he
    rcases launches_apply w e with h | ⟨i, hi, -, -⟩
    · omega
    · refine ⟨(ho.bare_of_starting hi).stored, fun j hj => ?_⟩
      obtain rfl : i = j :=
        ho.kept.holding_unique (by rw [comp_apply, hi]; rfl) (by rw [comp_apply, hj]; rfl)
      rw [hi] at hj
      simp at hj
  · intro hr
    rcases ho.cases with hb | ⟨q, hs⟩ | ⟨q, hl⟩
    · rw [hb.running] at hr; simp at hr
    · rw [hs.stored]; simp
    · rw [hl.running] at hr; simp at hr
  · intro p hp
    refine ⟨ho.shutDowns_of_stored hp, fun e he => ?_⟩
    obtain ⟨i, hi⟩ := takes_of_stored ho hp he
    refine ⟨i, hi, fun later => ?_⟩
    intro t
    have ht : PoolOrder t := (ho.apply e).run later
    have course : t.HasTaken i p ∨ t.shutDowns p = 1 :=
      hasTaken_run (.inl hi.2) (ho.apply e) later
    have gone : t.pool.stored ≠ some p := by
      intro hp'
      rcases course with hc | hc
      · rw [(hc.loose ht).stored] at hp'; simp at hp'
      · rw [ht.shutDowns_of_stored hp'] at hc; simp at hc
    refine ⟨gone, fun e' j hj => gone hj.stored, fun e' he' => ?_, ?_⟩
    · rcases shutDowns_apply t e' p with h | ⟨j, hj, hj', h⟩
      · omega
      · rcases course with hc | hc
        · obtain rfl : i = j := ht.kept.holding_unique hc.holding (by rw [comp_apply, hj]; rfl)
          exact ⟨hj, hj'⟩
        · have := (ht.apply e').shutDowns_le p
          omega
    · exact course.imp_left fun hc => ⟨hc.shutDowns ht, hc.two_steps ht⟩
  · intro hn
    obtain ⟨p, hp⟩ := exists_calm ho hn
    refine ⟨p, fun later hl => ⟨?_, fun i q hi => got_run hp ho hl hi⟩⟩
    have h1 := hp.started ho
    have h2 := (hp.run hl).started (ho.run later)
    omega

end Scene

end ScriptSandbox
