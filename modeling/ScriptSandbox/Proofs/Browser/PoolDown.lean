import Mathlib.Algebra.BigOperators.Group.List.Basic
import Mathlib.Algebra.GroupWithZero.Nat
import ScriptSandbox.Proofs.Browser.PoolLifecycle

/-!
# A pool that is down

A pool is down (`Scene.Down`) when it has been cancelled, all its processes have been told to shut
down, and no task is at a place from which it would start one more. It stays down. A teardown that
begins after the pool has been cancelled leaves it down: whoever was about to start a process at
that time had the line, and the teardown comes after it.

In a pool that is down every acquire fails, and it does so as soon as all tasks ahead of it have
moved on (`Down.refuses`).
-/

namespace ScriptSandbox

open Function

/-- Whether a task at this place brings no process with it and will not start one. -/
def PoolPlace.IsIdle : PoolPlace → Prop
  | .away => True
  | .acquiring a =>
    match a with
    | .starting | .launching | .storing _ | .announcing _ | .leaving (.ok _) => False
    | .leaving (.error f) => f = Pool.shutDownFailure
    | _ => True
  | .tearing t =>
    match t with
    | .cancelling _ | .calling _ => False
    | _ => True

theorem PoolPlace.isIdle_of_standing {x : PoolPlace} (h : x.standing ≠ .holding) : x.IsIdle := by
  cases x with
  | away => trivial
  | acquiring a => cases a <;> trivial
  | tearing t => cases t <;> trivial

namespace Scene

variable {w : Scene} {e : Event} {i j : TaskId} {p q : ProcessId}

structure Down (w : Scene) : Prop where
  cancelled : w.pool.cancelled = true
  bare : w.pool.Bare w.shutDowns
  idle : ∀ i, (w.place i).IsIdle

theorem Down.idle_of_place {x : PoolPlace} (h : Down w) (hi : w.place i = x) : x.IsIdle :=
  hi ▸ h.idle i

/-! ## Going down -/

theorem cancelled_apply (h : w.pool.cancelled = true) (e : Event) :
    (w.apply e).pool.cancelled = true := by
  cases apply_poolChange w e with
  | acquire i a m hi hm hp => rw [hp]; cases hm <;> exact h
  | teardown i t m hi hm hp => rw [hp]; cases hm <;> exact h
  | cancelled hp => rw [hp]
  | rest hp | entered _ _ _ _ hp | left _ _ hp | received _ _ _ hp => rw [hp]; exact h

/-- A teardown that is about to leave the line of a cancelled pool leaves it down. -/
theorem down_of_leaving (ho : PoolOrder w) (hc : w.pool.cancelled = true)
    (hi : w.place i = .tearing .leaving) : Down w where
  cancelled := hc
  bare := ho.fits_of_place hi rfl
  idle j := by
    by_cases hj : (w.place j).standing = .holding
    · obtain rfl : i = j := ho.kept.holding_unique (by rw [comp_apply, hi]; rfl) hj
      rw [hi]
      trivial
    · exact PoolPlace.isIdle_of_standing hj

/-- The pool has been cancelled, and when this teardown has come to its end the pool is down. -/
def BringsDown (w : Scene) (i : TaskId) : Prop :=
  w.pool.cancelled = true ∧ (w.place i = .tearing .done → Down w)

/-! ## Staying down -/

theorem Down.shutDowns_apply (h : Down w) (e : Event) :
    (w.apply e).shutDowns = w.shutDowns := by
  funext p
  rcases Scene.shutDowns_apply w e p with hn | ⟨i, hi, -, -⟩
  · exact hn
  · exact (h.idle_of_place hi).elim

theorem Down.launches_apply (h : Down w) (e : Event) : (w.apply e).launches = w.launches := by
  rcases Scene.launches_apply w e with hn | ⟨i, hi, -, -⟩
  · exact hn
  · exact (h.idle_of_place hi).elim

theorem Down.sameContents_apply (h : Down w) (e : Event) :
    w.pool.SameContents (w.apply e).pool := by
  cases apply_poolChange w e with
  | acquire i a m hi hm hp =>
    rw [hp]
    cases hm with
    | launched | store | announce => exact (h.idle_of_place hi).elim
    | _ => exact ⟨rfl, rfl, rfl⟩
  | teardown i t m hi hm hp =>
    rw [hp]
    cases hm with
    | take q hq => rw [h.bare.stored] at hq; simp at hq
    | clear => exact ⟨h.bare.running.symm, rfl, rfl⟩
    | _ => exact ⟨rfl, rfl, rfl⟩
  | rest hp | cancelled hp | entered _ _ _ _ hp | left _ _ hp | received _ _ _ hp =>
    rw [hp]; exact ⟨rfl, rfl, rfl⟩

theorem Down.idle_apply (h : Down w) (e : Event) (i : TaskId) :
    ((w.apply e).place i).IsIdle := by
  cases apply_placeChange w e i with
  | same hs => rw [hs]; exact h.idle i
  | entered hi hs => rcases hs with hs | ⟨hs, -⟩ <;> rw [hs] <;> trivial
  | acquire a m hi hm hp hs ha =>
    rw [hs]
    cases hm with
    | readAgain q hq => rw [h.bare.stored] at hq; simp at hq
    | allowed hc => rw [h.cancelled] at hc; simp at hc
    | start | launched | failed | store | announce => exact (h.idle_of_place hi).elim
    | refused => exact rfl
    | _ => trivial
  | teardown t m hi hm hp hs ha =>
    rw [hs]
    cases hm with
    | take q hq => rw [h.bare.stored] at hq; simp at hq
    | cancel => exact (h.idle_of_place hi).elim
    | _ => trivial
  | freed hi hs => rw [hs]; trivial

theorem Down.apply (h : Down w) (e : Event) : Down (w.apply e) where
  cancelled := cancelled_apply h.cancelled e
  bare := by
    rw [h.shutDowns_apply]
    exact (h.sameContents_apply e).bare h.bare
  idle := h.idle_apply e

theorem Down.run (h : Down w) (later : List Event) : Down (w.run later) :=
  run_induction (P := Down) h fun _ h e _ => h.apply e

theorem Down.run_induction {P : Scene → Prop} {events : List Event} (h : Down w) (hw : P w)
    (keep : ∀ w, Down w → P w → ∀ e ∈ events, P (w.apply e)) : P (w.run events) :=
  run_induction_of_invariant (I := Down) (fun _ h e => h.apply e) h hw keep

theorem Down.launches_run (h : Down w) (later : List Event) :
    (w.run later).launches = w.launches :=
  h.run_induction (P := fun t => t.launches = w.launches) rfl fun _ h hn e _ =>
    (h.launches_apply e).trans hn

theorem BringsDown.apply (h : BringsDown w i) (ho : PoolOrder w) (e : Event) :
    BringsDown (w.apply e) i := by
  refine ⟨cancelled_apply h.1 e, fun hi => ?_⟩
  cases apply_placeChange w e i with
  | same hs => exact (h.2 (hs ▸ hi)).apply e
  | entered hx hs => rcases hs with hs | ⟨hs, -⟩ <;> rw [hs] at hi <;> simp at hi
  | acquire a m hx hm hp hs ha => rw [hs] at hi; simp at hi
  | teardown t m hx hm hp hs ha =>
    rw [hs] at hi
    cases hm with
    | leave => exact (down_of_leaving ho h.1 hx).apply e
    | _ => simp at hi
  | freed hx hs => rw [hs] at hi; simp at hi

/-- An acquire that comes to its end in a pool that is down fails, and always in the same way. -/
theorem Down.refused_apply (h : Down w) {r : Except Failure ProcessId}
    (hi : (w.apply e).place i = .acquiring (.done r)) :
    w.place i = .acquiring (.done r) ∨ r = .error Pool.shutDownFailure := by
  cases apply_placeChange w e i with
  | same hs => exact .inl (hs ▸ hi)
  | entered hx hs => rcases hs with hs | ⟨hs, -⟩ <;> rw [hs] at hi <;> simp at hi
  | acquire a m hx hm hp hs ha =>
    rw [hs] at hi
    cases hm with
    | read q hq => rw [h.bare.stored] at hq; simp at hq
    | leave r' =>
      obtain rfl : r' = r := by simpa using hi
      have hidle := h.idle_of_place hx
      cases r' with
      | ok q => exact hidle.elim
      | error f => exact .inr (congrArg _ hidle)
    | _ => simp at hi
  | teardown t m hx hm hp hs ha => rw [hs] at hi; simp at hi
  | freed hx hs => rw [hs] at hi; simp at hi

theorem Down.refused_run (h : Down w) {later : List Event} {r : Except Failure ProcessId}
    (hi : (w.run later).place i = .acquiring (.done r)) :
    w.place i = .acquiring (.done r) ∨ r = .error Pool.shutDownFailure := by
  refine h.run_induction (P := fun t => t.place i = .acquiring (.done r) →
    w.place i = .acquiring (.done r) ∨ r = .error Pool.shutDownFailure) .inl ?_ hi
  intro t ht refused e _ hi
  rcases ht.refused_apply hi with hi | hr
  · exact refused hi
  · exact .inr hr

end Scene

/-! ## Getting on -/

/-- How many moves a task that stands in the line of a pool that is down makes before it leaves. -/
def PoolPlace.toGo : PoolPlace → Nat
  | .acquiring .queued => 5
  | .acquiring .lookingAgain => 4
  | .acquiring .readingAgain => 3
  | .acquiring .checking => 2
  | .acquiring (.leaving _) => 1
  | .tearing .queued => 5
  | .tearing .clearing => 4
  | .tearing .taking => 3
  | .tearing (.stopping _) => 2
  | .tearing .leaving => 1
  | _ => 0

/-- Whether a task has nothing more to do at the pool. -/
def PoolPlace.IsEnd : PoolPlace → Prop
  | .away | .acquiring (.done _) | .tearing .done => True
  | _ => False

/-- A task moves on by itself, or gets an answer. -/
def Scene.Event.IsMove (answers : Scene.Answers) : Scene.Event → Prop
  | .step _ => True
  | .answer _ given => given = answers
  | _ => False

/-- A move of the first in a line: it comes closer to its end, or it leaves. -/
def GetsOn (p : Pool) (i : TaskId) (x : PoolPlace) (p' : Pool) (x' : PoolPlace) : Prop :=
  p'.line = p.line ∧ x'.toGo < x.toGo ∨
    p'.line = p.line.leave i ∧ 0 < x.toGo ∧ x'.IsEnd

section GetsOn

variable {p : Pool} {n : ProcessId → Nat} {i : TaskId}

theorem Acquire.getsOn {a : Acquire} (hs : p.line.serves i = true) (hc : p.cancelled = true)
    (hb : p.Bare n) (hi : (PoolPlace.acquiring a).IsIdle)
    (ha : (PoolPlace.acquiring a).standing ≠ .out) :
    ∃ m, a.step i p = some m ∧ GetsOn p i (.acquiring a) m.pool (.acquiring m.place) := by
  cases a with
  | looking | reading | arriving | done => simp [PoolPlace.standing] at ha
  | starting | launching | storing | announcing => exact hi.elim
  | queued => exact ⟨_, by rw [step, if_pos hs], .inl ⟨rfl, by simp [PoolPlace.toGo]⟩⟩
  | lookingAgain => exact ⟨_, by rw [step, hb.running], .inl ⟨rfl, by simp [PoolPlace.toGo]⟩⟩
  | readingAgain => exact ⟨_, by rw [step, hb.stored], .inl ⟨rfl, by simp [PoolPlace.toGo]⟩⟩
  | checking => exact ⟨_, by rw [step, hc], .inl ⟨rfl, by simp [PoolPlace.toGo]⟩⟩
  | leaving r => exact ⟨_, rfl, .inr ⟨rfl, by simp [PoolPlace.toGo], trivial⟩⟩

theorem Teardown.getsOn {t : Teardown} (hs : p.line.serves i = true) (hb : p.Bare n)
    (hi : (PoolPlace.tearing t).IsIdle) (ht : (PoolPlace.tearing t).standing ≠ .out) :
    ∃ m, (t.step i p = some m ∨ (∃ q, t = .stopping q) ∧ m = Teardown.ended p) ∧
      GetsOn p i (.tearing t) m.pool (.tearing m.place) := by
  cases t with
  | arriving | done => simp [PoolPlace.standing] at ht
  | cancelling | calling => exact hi.elim
  | queued => exact ⟨_, .inl (by rw [step, if_pos hs]), .inl ⟨rfl, by simp [PoolPlace.toGo]⟩⟩
  | clearing => exact ⟨_, .inl rfl, .inl ⟨rfl, by simp [PoolPlace.toGo]⟩⟩
  | taking => exact ⟨_, .inl (by rw [step, hb.stored]), .inl ⟨rfl, by simp [PoolPlace.toGo]⟩⟩
  | stopping q => exact ⟨_, .inr ⟨⟨q, rfl⟩, rfl⟩, .inl ⟨rfl, by simp [PoolPlace.toGo, ended]⟩⟩
  | leaving => exact ⟨_, .inl rfl, .inr ⟨rfl, by simp [PoolPlace.toGo], trivial⟩⟩

end GetsOn

namespace Scene

variable {w w' : Scene} {i j h : TaskId}

theorem apply_step_acquire {a : Acquire} {m : PoolMove Acquire}
    (hi : w.tasks[i]? = some (.acquire a)) (hm : a.step i w.pool = some m) :
    w.apply (.step i) = (w.takePoolMove m).put i (.acquire m.place) := by
  simp [apply, step, hi, hm]

/-- An operation that is not broken off moves at the pool as any acquire does. -/
theorem apply_step_acquiring {s : SessionId} {op : Operation} {a : Acquire}
    {m : PoolMove Acquire} (hi : w.tasks[i]? = some (.operation s (.acquiring op a)))
    (hint : w.interrupted s i (.acquiring op a) = none) (hm : a.step i w.pool = some m) :
    w.apply (.step i) = (w.takePoolMove m).put i (.operation s (.acquiring op m.place)) := by
  cases a with
  | done r => simp [Acquire.step] at hm
  | _ => simp [apply, step, hi, stepOperation, hint, hm]

/-- A task gets on at the pool by one move, and nobody else moves with it. -/
def CanGetOn (w : Scene) (answers : Answers) (h : TaskId) : Prop :=
  ∃ (e : Event) (t : Task), e.IsMove answers ∧ (w.apply e).tasks = w.tasks.set h t ∧
    (∀ a, w.tasks[h]? = some (.acquire a) → ∃ a', t = .acquire a') ∧
    GetsOn w.pool h (w.place h) (w.apply e).pool t.poolPlace

theorem canGetOn_of_poolMove {answers : Answers} {e : Event} {α : Type} {m : PoolMove α}
    {t : Task} (he : e.IsMove answers) (happ : w.apply e = (w.takePoolMove m).put h t)
    (hacq : ∀ a, w.tasks[h]? = some (.acquire a) → ∃ a', t = .acquire a')
    (hg : GetsOn w.pool h (w.place h) m.pool t.poolPlace) : w.CanGetOn answers h := by
  refine ⟨e, t, he, ?_, hacq, ?_⟩ <;> rw [happ]
  · simp
  · rw [put_pool, takePoolMove_pool]
    exact hg

/-- An operation that is broken off in the line leaves it. -/
theorem canGetOn_of_interrupted {answers : Answers} {s : SessionId} {op : Operation} {a : Acquire}
    (hi : w.tasks[h]? = some (.operation s (.acquiring op a))) (hidle : (w.place h).IsIdle)
    (hint : w.interrupted s h (.acquiring op a) = some w') : w.CanGetOn answers h := by
  have happ : w.apply (.step h) = w' := by simp [apply, step, hi, stepOperation, hint]
  have hplace := place_eq_of_getElem? hi
  obtain ⟨hw, session, session', f, -, -, rfl⟩ := interrupted_eq_some hint
  rw [hplace] at hidle
  obtain rfl : a = .queued := by
    cases a with
    | queued => rfl
    | launching => exact hidle.elim
    | _ => simp [Progress.waits, Acquire.waits] at hw
  refine ⟨.step h, .operation s (.done (.error f)), trivial, ?_, by simp [hi], ?_⟩ <;> rw [happ]
  · simp
  · rw [hplace]
    exact .inr ⟨finish_pool _ ▸ rfl, by simp [Task.poolPlace, PoolPlace.toGo], trivial⟩

/-- In a pool that is down the first in the line gets on. -/
theorem Down.head_getsOn (hd : Down w) (ho : PoolOrder w) (answers : Answers)
    (hh : w.pool.line.head? = some h) : w.CanGetOn answers h := by
  have hs : w.pool.line.serves h = true := Line.serves_iff.2 hh
  have hst : (w.place h).standing ≠ .out := (ho.kept.mem_iff h).1 (Line.mem_of_serves hs)
  have hidle := hd.idle h
  rcases hi : w.tasks[h]? with _ | t
  · rw [place, task, hi] at hst
    exact absurd rfl hst
  · have hplace := place_eq_of_getElem? hi
    cases t with
    | acquire a =>
      rw [hplace] at hst hidle
      obtain ⟨m, hm, hg⟩ := Acquire.getsOn hs hd.cancelled hd.bare hidle hst
      exact canGetOn_of_poolMove (e := .step h) trivial (apply_step_acquire hi hm)
        (fun a' _ => ⟨_, rfl⟩) (hplace ▸ hg)
    | teardown t =>
      rw [hplace] at hst hidle
      obtain ⟨m, hm | ⟨⟨q, rfl⟩, rfl⟩, hg⟩ := Teardown.getsOn hs hd.bare hidle hst
      · exact canGetOn_of_poolMove (e := .step h) trivial (apply_step_tearing hplace hm)
          (by simp [hi]) (hplace ▸ hg)
      · refine canGetOn_of_poolMove (e := .answer h answers) (t := .teardown .leaving)
          (m := Teardown.ended w.pool) rfl ?_ (by simp [hi]) (by rw [hplace]; exact hg)
        simp only [Scene.apply, answer, hi]
        rfl
    | operation s p =>
      cases p with
      | acquiring op a =>
        cases hint : w.interrupted s h (.acquiring op a) with
        | none =>
          rw [hplace] at hst hidle
          obtain ⟨m, hm, hg⟩ := Acquire.getsOn hs hd.cancelled hd.bare hidle hst
          exact canGetOn_of_poolMove (e := .step h) trivial (apply_step_acquiring hi hint hm)
            (by simp [hi]) (hplace ▸ hg)
        | some w' => exact canGetOn_of_interrupted hi hidle hint
      | _ => exact absurd (hplace ▸ rfl) hst
    | close | watch | gone => exact absurd (hplace ▸ rfl) hst

/-- How many moves all tasks in the line make before they have left it. -/
def toGo (w : Scene) : Nat := (w.pool.line.map fun j => (w.place j).toGo).sum

theorem toGo_lt_of_getsOn (ho : PoolOrder w) (hh : w.pool.line.head? = some h)
    (others : ∀ j, j ≠ h → w'.place j = w.place j)
    (hg : GetsOn w.pool h (w.place h) w'.pool (w'.place h)) : w'.toGo < w.toGo := by
  have hm : h ∈ w.pool.line := List.mem_of_mem_head? hh
  have same : (w.pool.line.erase h).map (fun j => (w'.place j).toGo) =
      (w.pool.line.erase h).map fun j => (w.place j).toGo :=
    List.map_congr_left fun j hj =>
      congrArg PoolPlace.toGo (others j fun hjh => ho.kept.nodup.not_mem_erase (hjh ▸ hj))
  have hw : w.toGo = (w.place h).toGo +
      ((w.pool.line.erase h).map fun j => (w.place j).toGo).sum :=
    (List.sum_map_erase _ hm).symm
  rcases hg with ⟨hl, hlt⟩ | ⟨hl, hpos, -⟩
  · have hw' : w'.toGo = (w'.place h).toGo +
        ((w.pool.line.erase h).map fun j => (w'.place j).toGo).sum := by
      rw [toGo, hl]
      exact (List.sum_map_erase _ hm).symm
    rw [hw, hw', same]
    omega
  · rw [hw, toGo, hl, Line.leave, same]
    omega

/-- Moves of the tasks, with whatever answers they get, bring an acquire to its refusal. -/
def Refuses (w : Scene) (answers : Answers) (i : TaskId) : Prop :=
  ∃ moves : List Event, (∀ e ∈ moves, e.IsMove answers) ∧
    (w.run moves).tasks[i]? = some (.acquire (.done (.error Pool.shutDownFailure)))

theorem Refuses.of_apply {answers : Answers} {e : Event} (he : e.IsMove answers)
    (hr : (w.apply e).Refuses answers i) : w.Refuses answers i := by
  obtain ⟨moves, hmoves, hend⟩ := hr
  refine ⟨e :: moves, fun e' he' => ?_, hend⟩
  rcases List.mem_cons.1 he' with rfl | he'
  · exact he
  · exact hmoves e' he'

/-- A task that stands in the line of a pool that is down gets its refusal when all tasks ahead of
it have moved on. -/
theorem Down.refuses_of_mem (hd : Down w) (ho : PoolOrder w) (answers : Answers) {a : Acquire}
    (hi : w.tasks[i]? = some (.acquire a)) (hl : i ∈ w.pool.line) : w.Refuses answers i := by
  induction hn : w.toGo using Nat.strongRecOn generalizing w a with
  | ind n ih =>
  obtain ⟨h, hh⟩ : ∃ h, w.pool.line.head? = some h := by
    cases hline : w.pool.line with
    | nil => rw [hline] at hl; simp at hl
    | cons h l => exact ⟨h, rfl⟩
  obtain ⟨e, t, he, ht, hacq, hg⟩ := hd.head_getsOn ho answers hh
  have hlen : h < w.tasks.length := by
    by_contra hge
    have hst := (ho.kept.mem_iff h).1 (List.mem_of_mem_head? hh)
    simp [place, task, List.getElem?_eq_none (Nat.le_of_not_lt hge), Task.poolPlace,
      PoolPlace.standing] at hst
  have hplace : (w.apply e).place h = t.poolPlace :=
    place_eq_of_getElem? (by rw [ht, List.getElem?_set_self hlen])
  have others : ∀ j, j ≠ h → (w.apply e).place j = w.place j := fun j hj => by
    rw [place, place, task, task, ht, List.getElem?_set_ne (Ne.symm hj)]
  obtain ⟨a', hi'⟩ : ∃ a', (w.apply e).tasks[i]? = some (.acquire a') := by
    by_cases hih : i = h
    · subst hih
      obtain ⟨a', rfl⟩ := hacq a hi
      exact ⟨a', by rw [ht, List.getElem?_set_self hlen]⟩
    · exact ⟨a, by rw [ht, List.getElem?_set_ne (Ne.symm hih), hi]⟩
  have hlt := toGo_lt_of_getsOn ho hh others (hplace ▸ hg)
  by_cases hl' : i ∈ (w.apply e).pool.line
  · exact .of_apply he (ih _ (hn ▸ hlt) (hd.apply e) (ho.apply e) hi' hl' rfl)
  · -- whoever leaves the line has come to its end
    rcases hg with ⟨hline, -⟩ | ⟨hline, -, hend⟩
    · exact absurd (hline ▸ hl) hl'
    · obtain rfl : i = h := by
        by_contra hih
        exact hl' (hline ▸ (Line.mem_leave ho.kept.nodup).2 ⟨hl, hih⟩)
      rw [← hplace, place_eq_of_getElem? hi'] at hend
      obtain ⟨r, rfl⟩ : ∃ r, a' = .done r := by
        cases a' with
        | done r => exact ⟨r, rfl⟩
        | _ => exact hend.elim
      rcases hd.refused_apply (place_eq_of_getElem? hi') with hdone | rfl
      · have hst := (ho.kept.mem_iff i).1 hl
        rw [comp_apply, hdone] at hst
        exact absurd rfl hst
      · exact ⟨[e], by simpa using he, hi'⟩

theorem Down.refuses_of_arriving (hd : Down w) (ho : PoolOrder w) (answers : Answers)
    (hi : w.tasks[i]? = some (.acquire .arriving)) : w.Refuses answers i := by
  have happ := apply_step_acquire hi rfl
  refine .of_apply (e := .step i) trivial
    ((hd.apply _).refuses_of_mem (ho.apply _) answers (a := .queued) ?_ ?_) <;> rw [happ]
  · simp [List.getElem?_set_self (lt_length_of_getElem? hi)]
  · simp

/-- In a pool that is down every acquire comes to its refusal. -/
theorem Down.refuses (hd : Down w) (ho : PoolOrder w) (answers : Answers) {a : Acquire}
    (hi : w.tasks[i]? = some (.acquire a)) (ha : ∀ r, a ≠ .done r) : w.Refuses answers i := by
  have next {m : PoolMove Acquire} (hm : a.step i w.pool = some m) (ht : m.place = .arriving) :
      w.Refuses answers i := by
    refine .of_apply (e := .step i) trivial
      ((hd.apply _).refuses_of_arriving (ho.apply _) answers ?_)
    rw [apply_step_acquire hi hm, ht]
    simp [List.getElem?_set_self (lt_length_of_getElem? hi)]
  by_cases hst : (w.place i).standing = .out
  · rw [place_eq_of_getElem? hi] at hst
    cases a with
    | looking =>
      exact next (m := { pool := w.pool, place := .arriving })
        (by simp [Acquire.step, hd.bare.running]) rfl
    | reading =>
      exact next (m := { pool := w.pool, place := .arriving })
        (by simp [Acquire.step, hd.bare.stored]) rfl
    | arriving => exact hd.refuses_of_arriving ho answers hi
    | done r => exact absurd rfl (ha r)
    | _ => simp [Task.poolPlace, PoolPlace.standing] at hst
  · exact hd.refuses_of_mem ho answers hi ((ho.kept.mem_iff i).2 hst)

end Scene

end ScriptSandbox
