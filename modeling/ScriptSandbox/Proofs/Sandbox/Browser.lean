import ScriptSandbox.Proofs.Browser.Clock
import ScriptSandbox.Proofs.Browser.PoolDown
import ScriptSandbox.Sandbox.Basic

/-!
# The browser of a sandbox

Whatever happens to a sandbox happens to its scene as a run of events of the scene, so that what
holds after every run of a scene holds of the browser of every sandbox. What a sandbox does by
itself takes no time (`MovesTo`); only events that say so let time pass (`Leads`).
-/

namespace ScriptSandbox

namespace Scene

/-- The second scene comes out of the first by events. -/
def Leads (w w' : Scene) : Prop := ∃ events : List Event, w' = w.run events

/-- The second scene comes out of the first by events that take no time. -/
def MovesTo (w w' : Scene) : Prop :=
  ∃ events : List Event, (∀ e ∈ events, e.IsTimeless) ∧ w' = w.run events

variable {w w₁ w' : Scene} {i : TaskId}

theorem Leads.refl : Leads w w := ⟨[], rfl⟩

theorem Leads.trans (h : Leads w w₁) (h' : Leads w₁ w') : Leads w w' := by
  obtain ⟨before, rfl⟩ := h
  obtain ⟨later, rfl⟩ := h'
  exact ⟨before ++ later, (run_append w before later).symm⟩

theorem leads_apply (e : Event) : Leads w (w.apply e) := ⟨[e], rfl⟩

theorem MovesTo.leads (h : MovesTo w w') : Leads w w' := by
  obtain ⟨events, -, h⟩ := h
  exact ⟨events, h⟩

theorem MovesTo.now (h : MovesTo w w') : w'.now = w.now := by
  obtain ⟨events, he, rfl⟩ := h
  exact now_run he

theorem MovesTo.refl : MovesTo w w := ⟨[], by simp, rfl⟩

theorem MovesTo.trans (h : MovesTo w w₁) (h' : MovesTo w₁ w') : MovesTo w w' := by
  obtain ⟨before, hb, rfl⟩ := h
  obtain ⟨later, hl, rfl⟩ := h'
  refine ⟨before ++ later, fun e he => ?_, (run_append w before later).symm⟩
  exact (List.mem_append.1 he).elim (hb e) (hl e)

theorem movesTo_apply {e : Event} (he : e.IsTimeless) : MovesTo w (w.apply e) :=
  ⟨[e], by simpa using he, rfl⟩

theorem movesTo_answer (answers : Answers) : MovesTo w (w.answer i answers) :=
  movesTo_apply (e := .answer i answers) trivial

theorem movesTo_of_step (h : w.step i = some w') : MovesTo w w' := by
  have := movesTo_apply (w := w) (e := .step i) trivial
  rwa [apply, h] at this

/-- To be broken off is the first thing that a step of a task does. -/
theorem movesTo_of_brokenOff (h : w.brokenOff i = some w') : MovesTo w w' := by
  refine movesTo_of_step (i := i) ?_
  unfold brokenOff at h
  unfold step
  split at h
  · rename_i s p hi
    simp only [hi, stepOperation, h]
  · simp at h

end Scene

/-! ## Stages -/

namespace Stage

variable {st st' : Stage} {i : TaskId}

theorem movesTo_of_stepTask (h : st.stepTask i = some st') : st.scene.MovesTo st'.scene := by
  unfold stepTask at h
  split at h
  · simp at h
  · rename_i scene hs
    have hl := Scene.movesTo_of_step hs
    dsimp only at h
    split at h
    · obtain rfl : _ = st' := by simpa using h
      exact hl
    · split at h <;> obtain rfl : _ = st' := by simpa using h
      all_goals exact hl

theorem movesTo_saveFile (path : String) (content : List UInt8) :
    st.scene.MovesTo (st.saveFile i path content).scene := by
  unfold saveFile
  rcases Capture.save st.files path content with ⟨files, size⟩
  dsimp only
  exact Scene.movesTo_answer _

theorem movesTo_of_answerTask (h : st.answerTask i = some st') : st.scene.MovesTo st'.scene := by
  unfold answerTask at h
  split at h
  · obtain rfl : _ = st' := by simpa using h
    exact movesTo_saveFile _ _
  · split at h
    · obtain rfl : _ = st' := by simpa using h
      exact Scene.movesTo_answer _
    · simp at h
  · simp at h

theorem movesTo_of_move (h : st.move i = some st') : st.scene.MovesTo st'.scene := by
  unfold move at h
  split at h
  · rename_i scene hb
    obtain rfl : _ = st' := by simpa using h
    exact Scene.movesTo_of_brokenOff hb
  · rcases ha : st.answerTask i with _ | st₁
    · rw [ha] at h
      exact movesTo_of_stepTask h
    · rw [ha] at h
      obtain rfl : st₁ = st' := by simpa using h
      exact movesTo_of_answerTask ha

theorem movesTo_advance (i : TaskId) (fuel : Nat) (st : Stage) :
    st.scene.MovesTo (st.advance i fuel).1.scene := by
  induction fuel generalizing st with
  | zero => exact .refl
  | succ fuel ih =>
    unfold advance
    split
    · exact .refl
    · rename_i st' h
      exact (movesTo_of_move h).trans (ih st')

theorem movesTo_foldl {f : Stage × Bool → TaskId → Stage × Bool}
    (hf : ∀ (x : Stage × Bool) (i : TaskId), x.1.scene.MovesTo (f x i).1.scene)
    (tasks : List TaskId) (x : Stage × Bool) :
    x.1.scene.MovesTo (tasks.foldl f x).1.scene := by
  induction tasks generalizing x with
  | nil => exact .refl
  | cons i tasks ih => exact (hf x i).trans (ih _)

theorem movesTo_advanceBackground (fuel : Nat) (st : Stage) :
    st.scene.MovesTo (st.advanceBackground fuel).1.scene := by
  refine movesTo_foldl ?_ st.background (st, false)
  rintro ⟨st, moved⟩ i
  exact movesTo_advance i fuel st

end Stage

/-! ## The host's side -/

namespace HostSide

/-- The second host's side has the pool and the settings of the first, and its scene comes out of
the first one's. -/
structure Leads (h h' : HostSide) : Prop where
  hasPool : h'.hasPool = h.hasPool
  settings : h'.settings = h.settings
  scene : h.stage.scene.Leads h'.stage.scene

/-- The same, and no time has passed. -/
structure MovesTo (h h' : HostSide) : Prop where
  hasPool : h'.hasPool = h.hasPool
  settings : h'.settings = h.settings
  scene : h.stage.scene.MovesTo h'.stage.scene

variable {h h₁ h' : HostSide} {r : Guest.Realm}

theorem Leads.refl : Leads h h := ⟨rfl, rfl, .refl⟩

theorem Leads.trans (hl : Leads h h₁) (hl' : Leads h₁ h') : Leads h h' :=
  ⟨hl'.hasPool.trans hl.hasPool, hl'.settings.trans hl.settings, hl.scene.trans hl'.scene⟩

theorem MovesTo.leads (h : MovesTo h₁ h') : Leads h₁ h' := ⟨h.hasPool, h.settings, h.scene.leads⟩

theorem MovesTo.refl : MovesTo h h := ⟨rfl, rfl, .refl⟩

theorem MovesTo.trans (hl : MovesTo h h₁) (hl' : MovesTo h₁ h') : MovesTo h h' :=
  ⟨hl'.hasPool.trans hl.hasPool, hl'.settings.trans hl.settings, hl.scene.trans hl'.scene⟩

/-- What is cancelled stays so. -/
theorem Leads.isCancelled (hl : Leads h h') (hc : h.isCancelled = true) :
    h'.isCancelled = true := by
  obtain ⟨events, hs⟩ := hl.scene
  show h'.stage.scene.pool.cancelled = true
  rw [hs]
  exact Scene.run_induction (P := fun w => w.pool.cancelled = true) hc
    fun w hw e _ => Scene.cancelled_apply hw e

theorem movesTo_makeMethods (methods : List (Callee × String × Nat)) :
    MovesTo h (h.makeMethods r methods).1 := by
  induction methods generalizing h r with
  | nil => exact .refl
  | cons m methods ih =>
    obtain ⟨c, name, arity⟩ := m
    unfold makeMethods
    have first : MovesTo h (h.enlist c).2 := ⟨rfl, rfl, .refl⟩
    exact first.trans ih

theorem movesTo_act (f : HostFunction) (args : Arguments) : MovesTo h (h.act f args).2.2 := by
  unfold act
  -- what the action does is not looked into
  generalize ExceptT.run (f.action h.settings args) = run
  exact ⟨rfl, rfl, .refl⟩

theorem movesTo_openSession (args : Arguments) : MovesTo h (h.openSession args).1 := by
  unfold openSession
  split
  · exact .refl
  · split
    · exact .refl
    · generalize h.surroundings.chance.identifier = drawn
      obtain ⟨label, chance⟩ := drawn
      exact ⟨rfl, rfl, (Scene.movesTo_apply (e := .openSession label _) trivial).trans
        (Scene.movesTo_apply (e := .beginWatch _) trivial)⟩

theorem movesTo_beginMethod (s : SessionId) (m : SessionMethod) (args : Arguments) :
    MovesTo h (h.beginMethod s m args).1 :=
  ⟨rfl, rfl, Scene.movesTo_apply (e := .dispatch s m args) trivial⟩

theorem movesTo_begin (f : Guest.HostId) (args : Arguments) : MovesTo h (h.begin f args).1 := by
  unfold begin
  split
  · exact .refl
  · have := movesTo_openSession (h := h) args
    split <;> rename_i ho <;> rwa [ho] at this
  · split
    · exact .refl
    · split
      · exact movesTo_act _ args
      · exact movesTo_beginMethod _ _ args
      · exact .refl
      · exact .refl

theorem movesTo_abandon (u : Underway) : MovesTo h (h.abandon u) := by
  cases u with
  | operation i => exact ⟨rfl, rfl, Scene.movesTo_apply (e := .abandon i) trivial⟩
  | answered | later | never => exact .refl

theorem movesTo_poll (u : Underway) : MovesTo h (h.poll u).1 := by
  unfold poll
  split
  · exact .refl
  · split
    · exact movesTo_abandon u
    · split <;> exact .refl

theorem movesTo_deliver (a : Answer) : MovesTo h (h.deliver r a).1 := by
  cases a with
  | json j => exact .refl
  | session s =>
    unfold deliver
    exact movesTo_makeMethods _

theorem movesTo_move (u : Option Underway) : MovesTo h (h.move u).1 := by
  have behind {st : Stage} (hl : h.stage.scene.MovesTo st.scene) :
      h.stage.scene.MovesTo (st.advanceBackground patience).1.scene :=
    hl.trans (Stage.movesTo_advanceBackground patience st)
  refine ⟨rfl, rfl, ?_⟩
  rcases u with _ | (a | ⟨a, due⟩ | i | _)
  · exact behind .refl
  · exact behind .refl
  · exact behind .refl
  · exact behind (Stage.movesTo_advance i patience h.stage)
  · exact behind .refl

theorem movesTo_cancel : MovesTo h h.cancel :=
  ⟨rfl, rfl, Scene.movesTo_apply (e := .cancelPool) trivial⟩

/-! ### Installing -/

theorem movesTo_bindCallee (c : Callee) (name : String) (arity : Nat) :
    MovesTo h (h.bindCallee r c name arity).1 := by
  unfold bindCallee
  dsimp only
  split <;> exact ⟨rfl, rfl, .refl⟩

theorem movesTo_bindFunctions (fs : List HostFunction) : MovesTo h (h.bindFunctions r fs).1 := by
  induction fs generalizing h r with
  | nil => exact .refl
  | cons f fs ih =>
    have hb := movesTo_bindCallee (h := h) (r := r) (.function f) f.name f.arity
    unfold bindFunctions
    split
    · rename_i h₁ r₁ heq
      rw [heq] at hb
      exact hb.trans ih
    · exact hb

theorem movesTo_bindConsole (fs : List HostFunction) : MovesTo h (h.bindConsole r fs).1 := by
  have hm := movesTo_makeMethods (h := h) (r := r)
    (fs.map fun f => (.function f, f.name, f.arity))
  unfold bindConsole
  dsimp only
  split <;> exact hm

theorem movesTo_install (g : Group) : MovesTo h (h.install r g).1 := by
  unfold install
  dsimp only
  split
  · exact movesTo_bindConsole _
  · split
    · exact movesTo_bindCallee _ _ _
    · exact .refl
  · exact movesTo_bindFunctions _

theorem movesTo_installEach (gs : List Group) : MovesTo h (h.installEach r gs).1 := by
  induction gs generalizing h r with
  | nil => exact .refl
  | cons g gs ih =>
    have hi := movesTo_install (h := h) (r := r) g
    unfold installEach
    split <;> rename_i heq <;> rw [heq] at hi
    · exact hi.trans ih
    · exact hi

theorem movesTo_installAll : MovesTo h (h.installAll r).1 := by
  unfold installAll
  exact movesTo_installEach _

end HostSide

/-! ## The worker -/

namespace Worker

open Guest

variable {w : Worker} {h : HostSide}

theorem movesTo_takeUp (ticket : Ticket) (task : GuestTask (JobResult × Realm)) :
    h.MovesTo (w.takeUp h ticket task).1 := by
  cases task with
  | done r => exact .refl
  | call f args realm next => exact HostSide.movesTo_begin f args
  | endless => exact .refl

theorem movesTo_of_ready {h' : HostSide} {w' : Worker} {ticket : Ticket}
    {task : GuestTask (JobResult × Realm)} (hr : w.ready h = some (h', w', ticket, task)) :
    h.MovesTo h' := by
  unfold ready at hr
  split at hr
  · split at hr
    · simp at hr
    · obtain ⟨rfl, -⟩ : h = h' ∧ _ := by simpa using hr
      exact .refl
  · rename_i ticket u next _
    have hp := HostSide.movesTo_poll (h := h) u
    split at hr
    · rename_i h₁ a hp'
      rw [hp'] at hp
      obtain ⟨rfl, -⟩ : (h₁.deliver w.realm a).1 = h' ∧ _ := by simpa using hr
      exact hp.trans (HostSide.movesTo_deliver a)
    · simp at hr
  · simp at hr

theorem movesTo_of_step {h' : HostSide} {w' : Worker} (hs : w.step h = some (h', w')) :
    h.MovesTo h' := by
  obtain ⟨⟨h₁, w₁, ticket, task⟩, hr, heq⟩ := Option.map_eq_some_iff.1 hs
  have := movesTo_takeUp (w := w₁) (h := h₁) ticket task
  rw [show w₁.takeUp h₁ ticket task = (h', w') from heq] at this
  exact (movesTo_of_ready hr).trans this

end Worker

/-! ## Sandboxes -/

namespace Sandbox

variable {s : Sandbox} {e : Event}

/-- What a sandbox is like when it has just been made: its worker has not done anything yet, and
the host has bound what the settings say. -/
theorem eq_of_create {canRun : Bool} {settings : Settings} {surroundings : Surroundings}
    {rehearsal : Rehearsal} (h : create canRun settings surroundings rehearsal = .ok s) :
    ∃ id chance host realm groups, s = { id, host, worker := { realm }, groups } ∧
      (HostSide.start settings settings.browser { surroundings with chance } rehearsal).MovesTo
        host := by
  unfold create at h
  cases canRun with
  | false => simp at h
  | true =>
    simp only [Bool.not_true, Bool.false_eq_true, if_false] at h
    generalize surroundings.chance.identifier = drawn at h
    obtain ⟨id, chance⟩ := drawn
    dsimp only at h
    have hl := HostSide.movesTo_installAll (r := Guest.Realm.fresh)
      (h := HostSide.start settings settings.browser { surroundings with chance } rehearsal)
    split at h
    · simp at h
    · rename_i host realm groups heq
      obtain rfl : _ = s := by simpa using h
      rw [heq] at hl
      exact ⟨id, chance, host, realm, groups, rfl, hl⟩

theorem leads_of_create {canRun : Bool} {settings : Settings} {surroundings : Surroundings}
    {rehearsal : Rehearsal} (h : create canRun settings surroundings rehearsal = .ok s) :
    s.closings = [] ∧ ∃ options, (Scene.fresh options).Leads s.host.stage.scene := by
  obtain ⟨id, chance, host, realm, groups, rfl, hl⟩ := eq_of_create h
  exact ⟨rfl, _, hl.scene.leads⟩

theorem settings_of_create {canRun : Bool} {settings : Settings} {surroundings : Surroundings}
    {rehearsal : Rehearsal} (h : create canRun settings surroundings rehearsal = .ok s) :
    s.host.settings = settings := by
  obtain ⟨id, chance, host, realm, groups, rfl, hl⟩ := eq_of_create h
  exact hl.settings

/-- Whether a sandbox could be made, and passes a check. -/
def passes (made : Except Failure Sandbox) (check : Sandbox → Bool) : Bool :=
  made.toOption.any check

theorem exists_of_passes {made : Except Failure Sandbox} {check : Sandbox → Bool}
    (h : passes made check = true) : ∃ s, made = .ok s ∧ check s = true := by
  cases made with
  | ok s => exact ⟨s, rfl, h⟩
  | error f => simp [passes, Except.toOption] at h

/-- No time passes with this event. -/
def Event.IsTimeless : Event → Prop
  | .pass _ => False
  | .browser e => e.IsTimeless
  | _ => True

theorem submit_host (j : Job) : (s.submit j).1.host = s.host := by
  unfold submit handIn
  split
  · rfl
  · split <;> rfl

theorem movesTo_stopBrowser (k : Nat) : s.host.MovesTo (s.stopBrowser k).host := by
  unfold stopBrowser
  split
  · exact ⟨rfl, rfl, Scene.movesTo_apply (e := .beginTeardown) trivial⟩
  · exact .refl

theorem movesTo_of_stepClose {s' : Sandbox} {k : Nat} (h : s.stepClose k = some s') :
    s.host.MovesTo s'.host := by
  unfold stepClose at h
  split at h
  · split at h <;> obtain rfl : _ = s' := by simpa using h
    · exact .refl
    · exact .refl
  · obtain rfl : _ = s' := by simpa using h
    exact HostSide.movesTo_cancel.trans (movesTo_stopBrowser (s := s.cancel) k)
  · split at h
    · obtain rfl : _ = s' := by simpa using h
      exact .refl
    · simp at h
  · obtain rfl : _ = s' := by simpa using h
    exact .refl
  · simp at h
  · simp at h

theorem movesTo_apply (he : e.IsTimeless) : s.host.MovesTo (s.apply e).host := by
  cases e with
  | submit j =>
    show s.host.MovesTo (s.submit j).1.host
    rw [submit_host]
    exact .refl
  | work =>
    rcases hw : s.worker.step s.host with _ | ⟨h', w'⟩
    · simp only [apply, work, hw, Option.map_none, Option.getD_none]
      exact .refl
    · simp only [apply, work, hw, Option.map_some, Option.getD_some]
      exact Worker.movesTo_of_step hw
  | moveHost => exact HostSide.movesTo_move _
  | cancel => exact HostSide.movesTo_cancel
  | beginClose => exact .refl
  | stepClose k =>
    rcases hc : s.stepClose k with _ | s'
    · simp only [apply, hc, Option.getD_none]
      exact .refl
    · simp only [apply, hc, Option.getD_some]
      exact movesTo_of_stepClose hc
  | browser e => exact ⟨rfl, rfl, Scene.movesTo_apply he⟩
  | pass ms => exact he.elim

theorem leads_apply (s : Sandbox) (e : Event) : s.host.Leads (s.apply e).host := by
  cases e with
  | browser e => exact ⟨rfl, rfl, Scene.leads_apply e⟩
  | pass ms => exact ⟨rfl, rfl, Scene.leads_apply (.pass ms)⟩
  | submit j => exact (movesTo_apply (e := .submit j) trivial).leads
  | work => exact (movesTo_apply (e := .work) trivial).leads
  | moveHost => exact (movesTo_apply (e := .moveHost) trivial).leads
  | cancel => exact (movesTo_apply (e := .cancel) trivial).leads
  | beginClose => exact (movesTo_apply (e := .beginClose) trivial).leads
  | stepClose k => exact (movesTo_apply (e := .stepClose k) trivial).leads

theorem leads_follow (s : Sandbox) (events : List Event) :
    s.host.Leads (s.follow events).host := by
  induction events generalizing s with
  | nil => exact .refl
  | cons e events ih => exact (leads_apply s e).trans (ih _)

end Sandbox

end ScriptSandbox
