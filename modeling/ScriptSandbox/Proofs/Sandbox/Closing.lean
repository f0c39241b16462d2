import ScriptSandbox.Proofs.Browser.PoolDown
import ScriptSandbox.Proofs.Sandbox.Browser

/-!
# Closing a sandbox

The call that closes a sandbox cancels all work before it stops the browser. Whoever was about to
start a process at that time comes before the teardown in the line of the pool, and whoever comes
after it is refused. So when the call has returned, no process is left, and none will ever be
started (`closed_for_good`).

A sandbox that is closed stays closed. It is closed as soon as a call that closes it has made its
first step, and so long before its worker is let go (`ShutInOrder`).
-/

namespace ScriptSandbox

open Scene

/-- What a call that closes a sandbox may take for granted at each of its places. -/
def CloseCall.Fits (w : Scene) : CloseCall → Prop
  | .stopping i => w.BringsDown i
  | .releasing | .done true => w.Down
  | _ => True

theorem CloseCall.Fits.run {w : Scene} {c : CloseCall} (h : c.Fits w) (ho : w.PoolOrder)
    (events : List Scene.Event) : c.Fits (w.run events) := by
  refine ho.run_induction (P := c.Fits) h ?_
  intro w ho h e _
  cases c with
  | stopping i => exact BringsDown.apply h ho e
  | releasing => exact Down.apply h e
  | done first =>
    cases first with
    | true => exact Down.apply h e
    | false => trivial
  | arriving | cancelling => trivial

namespace Sandbox

variable {s s' : Sandbox} {k j : Nat}

abbrev scene (s : Sandbox) : Scene := s.host.stage.scene

/-- A sandbox that has a browser, and whose closing calls are where they may be. -/
structure ClosingOrder (s : Sandbox) : Prop where
  hasPool : s.host.hasPool = true
  order : s.scene.PoolOrder
  fits : ∀ (k : Nat) (c : CloseCall), s.closings[k]? = some c → c.Fits s.scene

/-- What goes on in the browser does not bring the closing calls out of order. -/
theorem ClosingOrder.of_leads (h : ClosingOrder s) (hl : s.host.Leads s'.host)
    (hc : ∀ (k : Nat) (c : CloseCall), s'.closings[k]? = some c →
      c.Fits s'.scene ∨ s.closings[k]? = some c) :
    ClosingOrder s' := by
  obtain ⟨hp, -, events, hs⟩ := hl
  refine ⟨hp.trans h.hasPool, ?_, fun k c hk => ?_⟩
  · rw [scene, hs]
    exact h.order.run events
  · rcases hc k c hk with hf | hold
    · exact hf
    · rw [scene, hs]
      exact (h.fits k c hold).run h.order events

theorem closings_putClosing {c c' : CloseCall} (h : (s.putClosing k c).closings[j]? = some c') :
    c' = c ∨ s.closings[j]? = some c' := by
  rw [putClosing] at h
  by_cases hj : k = j
  · subst hj
    rw [List.getElem?_set] at h
    split at h
    · split at h
      · exact .inl (by simpa using h.symm)
      · simp at h
    · exact .inr h
  · rw [List.getElem?_set_ne hj] at h
    exact .inr h

/-- A teardown that begins once all work has been cancelled brings the pool down. -/
theorem bringsDown_beginTeardown {w : Scene} :
    w.cancelPool.beginTeardown.1.BringsDown w.tasks.length := by
  refine ⟨rfl, fun hi => ?_⟩
  have hplace : w.cancelPool.beginTeardown.1.place w.tasks.length = .tearing .arriving :=
    place_eq_of_getElem? (t := .teardown .arriving) (by simp [beginTeardown, cancelPool])
  rw [hplace] at hi
  simp at hi

theorem place_of_hasTornDown {st : Stage} {i : TaskId} (h : st.hasTornDown i = true) :
    st.scene.place i = .tearing .done := by
  unfold Stage.hasTornDown Stage.task? at h
  split at h
  · rename_i hi
    exact place_eq_of_getElem? hi
  · simp at h

theorem ClosingOrder.stepClose (h : ClosingOrder s) (hs : s.stepClose k = some s') :
    ClosingOrder s' := by
  have hl := (movesTo_of_stepClose hs).leads
  refine h.of_leads hl fun j c hj => ?_
  unfold Sandbox.stepClose at hs
  split at hs
  · split at hs <;> obtain rfl : _ = s' := by simpa using hs
    · exact (closings_putClosing hj).imp_left fun hc => by rw [hc]; trivial
    · exact (closings_putClosing hj).imp_left fun hc => by rw [hc]; trivial
  · obtain rfl : _ = s' := by simpa using hs
    have hp : s.cancel.host.hasPool = true := h.hasPool
    unfold stopBrowser at hj ⊢
    rw [if_pos hp] at hj ⊢
    exact (closings_putClosing hj).imp_left fun hc => by
      rw [hc]
      exact bringsDown_beginTeardown (w := s.scene)
  · rename_i i hk
    split at hs
    · rename_i hdone
      obtain rfl : _ = s' := by simpa using hs
      refine (closings_putClosing hj).imp_left fun hc => ?_
      rw [hc]
      have hb : s.scene.BringsDown i := h.fits k _ hk
      exact hb.2 (place_of_hasTornDown hdone)
    · simp at hs
  · rename_i hk
    obtain rfl : _ = s' := by simpa using hs
    refine (closings_putClosing hj).imp_left fun hc => ?_
    have hd : s.scene.Down := h.fits k _ hk
    rw [hc]
    exact hd
  · simp at hs
  · simp at hs

theorem ClosingOrder.apply (h : ClosingOrder s) (e : Event) : ClosingOrder (s.apply e) := by
  cases e with
  | stepClose k =>
    rcases hs : s.stepClose k with _ | s'
    · simp only [Sandbox.apply, hs, Option.getD_none]
      exact h
    · simp only [Sandbox.apply, hs, Option.getD_some]
      exact h.stepClose hs
  | beginClose =>
    refine h.of_leads (leads_apply s .beginClose) fun k c hk => ?_
    change (s.closings ++ [CloseCall.arriving])[k]? = some c at hk
    rcases Nat.lt_or_ge k s.closings.length with hlt | hge
    · exact .inr (by rwa [List.getElem?_append_left hlt] at hk)
    · rw [List.getElem?_append_right hge] at hk
      obtain rfl : c = .arriving := by
        have := List.mem_of_getElem? hk
        simpa using this
      exact .inl trivial
  | submit j =>
    refine h.of_leads (leads_apply s (.submit j)) fun k c hk => .inr ?_
    change (s.submit j).1.closings[k]? = some c at hk
    unfold submit handIn at hk
    split at hk
    · exact hk
    · split at hk <;> exact hk
  | work =>
    refine h.of_leads (leads_apply s .work) fun k c hk => .inr ?_
    change (s.work.getD s).closings[k]? = some c at hk
    rcases hw : s.worker.step s.host with _ | r
    · rwa [work, hw] at hk
    · rwa [work, hw] at hk
  | moveHost => exact h.of_leads (leads_apply s .moveHost) fun k c hk => .inr hk
  | cancel => exact h.of_leads (leads_apply s .cancel) fun k c hk => .inr hk
  | browser e => exact h.of_leads (leads_apply s (.browser e)) fun k c hk => .inr hk
  | pass ms => exact h.of_leads (leads_apply s (.pass ms)) fun k c hk => .inr hk

theorem ClosingOrder.follow (h : ClosingOrder s) (events : List Event) :
    ClosingOrder (s.follow events) := by
  induction events generalizing s with
  | nil => exact h
  | cons e events ih => exact ih (h.apply e)

theorem closingOrder_of_create {canRun : Bool} {settings : Settings}
    {surroundings : Surroundings} {rehearsal : Rehearsal}
    (h : create canRun settings surroundings rehearsal = .ok s) (hp : s.host.hasPool = true) :
    ClosingOrder s := by
  obtain ⟨hc, options, events, hs⟩ := leads_of_create h
  refine ⟨hp, ?_, fun k c hk => ?_⟩
  · rw [scene, hs]
    exact poolOrder_run options events
  · rw [hc] at hk
    simp at hk

/-! ## After the close -/

theorem follow_append (s : Sandbox) (before later : List Event) :
    s.follow (before ++ later) = (s.follow before).follow later := List.foldl_append

theorem scene_follow_browser (s : Sandbox) (events : List Scene.Event) :
    (s.follow (events.map .browser)).scene = s.scene.run events := by
  induction events generalizing s with
  | nil => rfl
  | cons e events ih => exact ih (s.apply (.browser e))

theorem started_mono {w w' : Scene} (h : w.Leads w') : w.pool.started ≤ w'.pool.started := by
  obtain ⟨events, rfl⟩ := h
  exact run_induction (P := fun t => w.pool.started ≤ t.pool.started) (Nat.le_refl _)
    fun t ht e _ => Nat.le_trans ht (started_apply t e)

/-- Once the call that has stopped the browser of a sandbox has returned:

* no process runs and none is stored; all that were ever started have been told to shut down, each
  once, and so have all that were ever stored;
* no launch is begun any more, an acquire that comes to its end fails because the pool has been
  shut down, and every acquire comes to that end. -/
theorem closed_for_good {canRun : Bool} {settings : Settings} {surroundings : Surroundings}
    {rehearsal : Rehearsal} {s₀ : Sandbox}
    (h₀ : create canRun settings surroundings rehearsal = .ok s₀)
    (hp : s₀.host.hasPool = true) (before later : List Event) {k : Nat}
    (hk : (s₀.follow before).closings[k]? = some (.done true)) :
    let w := (s₀.follow before).scene
    let t := (s₀.follow (before ++ later)).scene
    t.pool.running = false ∧ t.pool.stored = none ∧
    (∀ p : Nat, p < t.pool.started → t.shutDowns p = 1) ∧
    (∀ earlier p, earlier <+: before ++ later →
      (s₀.follow earlier).scene.pool.stored = some p → t.shutDowns p = 1) ∧
    t.launches = w.launches ∧
    (∀ i r, t.place i = .acquiring (.done r) →
      w.place i = .acquiring (.done r) ∨ r = .error Pool.shutDownFailure) ∧
    (∀ (answers : Answers) (i : TaskId) (a : Acquire),
      t.tasks[i]? = some (.acquire a) → (∀ r, a ≠ .done r) →
      ∃ moves : List Scene.Event, (∀ e ∈ moves, e.IsMove answers) ∧
        (s₀.follow (before ++ later ++ moves.map .browser)).scene.tasks[i]? =
          some (.acquire (.done (.error Pool.shutDownFailure)))) ∧
    Pool.shutDownFailure.code = .cancelled := by
  intro w t
  have hc₀ := closingOrder_of_create h₀ hp
  have hc := hc₀.follow before
  have hw : w.Down := hc.fits k _ hk
  obtain ⟨events, ht⟩ : w.Leads t := by
    show (s₀.follow before).scene.Leads (s₀.follow (before ++ later)).scene
    rw [follow_append]
    exact (leads_follow _ later).scene
  have htd : t.Down := ht ▸ hw.run events
  have hto : t.PoolOrder := (hc₀.follow (before ++ later)).order
  have told (p : Nat) (hlt : p < t.pool.started) : t.shutDowns p = 1 := by
    rw [htd.bare.told p, if_pos hlt]
  refine ⟨htd.bare.running, htd.bare.stored, told, ?_, ?_, ?_, ?_, rfl⟩
  · rintro earlier p ⟨rest, hrest⟩ hstored
    have hlatest := ((hc₀.follow earlier).order.stores hstored).latest
    have hmono : (s₀.follow earlier).scene.pool.started ≤ t.pool.started := by
      show _ ≤ (s₀.follow (before ++ later)).scene.pool.started
      rw [← hrest, follow_append]
      exact started_mono (leads_follow _ rest).scene
    exact told p (Nat.lt_of_lt_of_le (Nat.lt_of_succ_le (Nat.le_of_eq hlatest)) hmono)
  · rw [ht]
    exact hw.launches_run events
  · intro i r hi
    rw [ht] at hi
    exact hw.refused_run hi
  · intro answers i a hi ha
    obtain ⟨moves, hmoves, hend⟩ := htd.refuses hto answers hi ha
    refine ⟨moves, hmoves, ?_⟩
    rw [follow_append, scene_follow_browser]
    exact hend

/-- A sandbox is closed while a launch is under way, which comes to a good end after all work has
been cancelled. -/
def lateLaunch : List Event :=
  [.browser .beginAcquire, .browser (.step 0), .browser (.step 0), .browser (.step 0),
    .browser (.step 0), .browser (.step 0), .browser (.step 0), .beginClose, .stepClose 0,
    .stepClose 0, .browser (.answer 0 (({} : Rehearsal).answers {})), .browser (.step 0),
    .browser (.step 0), .browser (.step 1), .browser (.step 0), .browser (.step 1),
    .browser (.step 1), .browser (.step 1), .browser (.step 1), .browser (.step 1),
    .browser (.answer 1 (({} : Rehearsal).answers {})), .browser (.step 1), .stepClose 0,
    .stepClose 0]

theorem closed_for_good_lateLaunch :
    ∃ s₀ : Sandbox, create true {} { files := ⟨[]⟩ } {} = .ok s₀ ∧ s₀.host.hasPool = true ∧
      (s₀.follow lateLaunch).closings[0]? = some (.done true) ∧
      (s₀.follow lateLaunch).scene.pool.started = 1 ∧
      (s₀.follow lateLaunch).scene.pool.stored = none ∧
      (s₀.follow lateLaunch).scene.shutDowns 0 = 1 := by
  have run : (match create true {} { files := ⟨[]⟩ } {} with
      | .ok s => s.host.hasPool &&
          decide ((s.follow lateLaunch).closings[0]? = some (.done true) ∧
            (s.follow lateLaunch).scene.pool.started = 1)
      | .error _ => false) = true := by decide +kernel
  rcases h : create true {} { files := ⟨[]⟩ } {} with f | s₀
  · rw [h] at run
    simp at run
  · rw [h] at run
    obtain ⟨hp, hk, hn⟩ := by simpa only [Bool.and_eq_true, decide_eq_true_eq] using run
    have closed := closed_for_good h hp lateLaunch [] hk
    rw [List.append_nil] at closed
    exact ⟨s₀, rfl, hp, hk, hn, closed.2.1, closed.2.2.1 0 (by omega)⟩

end Sandbox

end ScriptSandbox

/-! ## Closed sandboxes -/

namespace ScriptSandbox.Sandbox

variable {s s' : Sandbox} {e : Event} {k : Nat}

/-- What closing calls are about is as it was. -/
structure SameClosing (s s' : Sandbox) : Prop where
  closed : s'.closed = s.closed
  hasWorker : s'.hasWorker = s.hasWorker
  closings : s'.closings = s.closings

/-- Only closing calls close a sandbox. -/
theorem sameClosing_apply (hbegin : e ≠ .beginClose) (hstep : ∀ k, e ≠ .stepClose k) :
    s.SameClosing (s.apply e) := by
  cases e with
  | submit j =>
    show s.SameClosing (s.submit j).1
    unfold submit handIn
    split
    · exact ⟨rfl, rfl, rfl⟩
    · split <;> exact ⟨rfl, rfl, rfl⟩
  | work =>
    show s.SameClosing (s.work.getD s)
    cases hs : s.worker.step s.host <;> rw [work, hs] <;> exact ⟨rfl, rfl, rfl⟩
  | beginClose => exact absurd rfl hbegin
  | stepClose k => exact absurd rfl (hstep k)
  | moveHost | cancel | browser | pass => exact ⟨rfl, rfl, rfl⟩

/-- A sandbox some of whose closing calls have begun is closed, and so is one whose worker has been
let go. -/
structure ShutInOrder (s : Sandbox) : Prop where
  begun : ∀ (k : Nat) (c : CloseCall), s.closings[k]? = some c → c ≠ .arriving → s.closed = true
  released : s.hasWorker = false → s.closed = true

/-- A closing call that makes a step closes the sandbox, unless it has begun before. -/
structure StepsClosing (s s' : Sandbox) : Prop where
  closed : s.closed = true → s'.closed = true
  begun : s'.closed = true ∨
    ∃ (k : Nat) (c : CloseCall), s.closings[k]? = some c ∧ c ≠ .arriving

theorem stepsClosing_of_stepClose (h : s.stepClose k = some s') : s.StepsClosing s' := by
  unfold stepClose at h
  split at h
  · split at h <;> obtain rfl : _ = s' := by simpa using h
    · exact ⟨fun h => h, .inl ‹_›⟩
    · exact ⟨fun _ => rfl, .inl rfl⟩
  · rename_i hk
    obtain rfl : _ = s' := by simpa using h
    unfold stopBrowser
    split <;> exact ⟨fun h => h, .inr ⟨k, _, hk, by simp⟩⟩
  · rename_i hk
    split at h
    · obtain rfl : _ = s' := by simpa using h
      exact ⟨fun h => h, .inr ⟨k, _, hk, by simp⟩⟩
    · simp at h
  · rename_i hk
    obtain rfl : _ = s' := by simpa using h
    exact ⟨fun h => h, .inr ⟨k, _, hk, by simp⟩⟩
  · simp at h
  · simp at h

theorem closed_apply (hc : s.closed = true) (e : Event) : (s.apply e).closed = true := by
  cases e with
  | stepClose k =>
    show ((s.stepClose k).getD s).closed = true
    cases h : s.stepClose k with
    | none => exact hc
    | some s' => exact (stepsClosing_of_stepClose h).closed hc
  | beginClose => exact hc
  | submit | work | moveHost | cancel | browser | pass =>
    rw [(sameClosing_apply (by simp) (by simp)).closed]
    exact hc

theorem isClosed_apply (hc : s.isClosed = true) (e : Event) : (s.apply e).isClosed = true := by
  unfold isClosed at hc ⊢
  rw [Bool.or_eq_true] at hc ⊢
  exact hc.imp (fun h => closed_apply h e) fun h => (leads_apply s e).isCancelled h

theorem ShutInOrder.of_sameClosing (h : s.ShutInOrder) (hs : s.SameClosing s') :
    s'.ShutInOrder where
  begun := by
    rw [hs.closed, hs.closings]
    exact h.begun
  released := by
    rw [hs.closed, hs.hasWorker]
    exact h.released

theorem ShutInOrder.apply (h : s.ShutInOrder) (e : Event) : (s.apply e).ShutInOrder := by
  cases e with
  | stepClose k =>
    show ((s.stepClose k).getD s).ShutInOrder
    cases hs : s.stepClose k with
    | none => exact h
    | some s' =>
      have hsteps := stepsClosing_of_stepClose hs
      have hclosed : s'.closed = true :=
        hsteps.begun.elim (fun h => h) fun ⟨k, c, hk, hc⟩ => hsteps.closed (h.begun k c hk hc)
      exact ⟨fun _ _ _ _ => hclosed, fun _ => hclosed⟩
  | beginClose =>
    refine ⟨fun k c hk hc => ?_, h.released⟩
    change (s.closings ++ [CloseCall.arriving])[k]? = some c at hk
    rw [List.getElem?_append] at hk
    split at hk
    · exact h.begun k c hk hc
    · have := List.mem_of_getElem? hk
      exact absurd (List.mem_singleton.1 this) hc
  | submit | work | moveHost | cancel | browser | pass =>
    exact h.of_sameClosing (sameClosing_apply (by simp) (by simp))

theorem shutInOrder_of_create {canRun : Bool} {settings : Settings} {surroundings : Surroundings}
    {rehearsal : Rehearsal} (h : create canRun settings surroundings rehearsal = .ok s) :
    s.ShutInOrder := by
  obtain ⟨id, chance, host, realm, groups, rfl, -⟩ := eq_of_create h
  exact ⟨by simp, by simp⟩

end ScriptSandbox.Sandbox
