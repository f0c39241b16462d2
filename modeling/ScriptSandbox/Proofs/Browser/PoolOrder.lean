import ScriptSandbox.Proofs.Browser.LineOrder
import ScriptSandbox.Proofs.Browser.PoolChange

/-!
# The order of the pool

What keeps a pool in order through every run (`poolOrder_run`): its line is kept, and the one task
that has the line to itself knows from its place what the pool contains (`PoolPlace.Fits`). Where
nobody has the line, a process is said to run exactly when one is stored (`Pool.Settled`). All
processes but the one in use have been told to shut down, each once (`Told`).
-/

namespace ScriptSandbox

open Function

/-! ## Contents -/

/-- Exactly the processes before `k` have been told to shut down, each once. -/
def Told (n : ProcessId → Nat) (k : Nat) : Prop := ∀ q : Nat, n q = if q < k then 1 else 0

namespace Pool

variable {p p' : Pool} {n : ProcessId → Nat} {q : ProcessId}

/-- There is no process. -/
structure Bare (p : Pool) (n : ProcessId → Nat) : Prop where
  running : p.running = false
  stored : p.stored = none
  told : Told n p.started

/-- The latest process is stored. -/
structure Stores (p : Pool) (n : ProcessId → Nat) (q : ProcessId) : Prop where
  stored : p.stored = some q
  latest : q + 1 = p.started
  told : Told n q

/-- The latest process is in the hands of a task, which has not stored it yet or has taken it out
and not told it to shut down yet. -/
structure Loose (p : Pool) (n : ProcessId → Nat) (q : ProcessId) : Prop where
  running : p.running = false
  stored : p.stored = none
  latest : q + 1 = p.started
  told : Told n q

def Settled (p : Pool) (n : ProcessId → Nat) : Prop :=
  p.Bare n ∨ p.running = true ∧ ∃ q, p.Stores n q

theorem Settled.bare (h : p.Settled n) (hr : p.running = false) : p.Bare n := by
  rcases h with h | ⟨h, -⟩
  · exact h
  · rw [hr] at h; simp at h

theorem Settled.stores (h : p.Settled n) (hq : p.stored = some q) :
    p.running = true ∧ p.Stores n q := by
  rcases h with h | ⟨hr, q', h⟩
  · rw [h.stored] at hq; simp at hq
  · obtain rfl : q' = q := by simpa [h.stored] using hq
    exact ⟨hr, h⟩

/-- Two pools that differ in their lines and tokens only. -/
structure SameContents (p p' : Pool) : Prop where
  running : p'.running = p.running
  stored : p'.stored = p.stored
  started : p'.started = p.started

theorem SameContents.bare (h : SameContents p p') (hb : p.Bare n) : p'.Bare n :=
  ⟨h.running.trans hb.running, h.stored.trans hb.stored, h.started ▸ hb.told⟩

theorem SameContents.stores (h : SameContents p p') (hb : p.Stores n q) : p'.Stores n q :=
  ⟨h.stored.trans hb.stored, hb.latest.trans h.started.symm, hb.told⟩

theorem SameContents.loose (h : SameContents p p') (hb : p.Loose n q) : p'.Loose n q :=
  ⟨h.running.trans hb.running, h.stored.trans hb.stored, hb.latest.trans h.started.symm, hb.told⟩

theorem SameContents.settled (h : SameContents p p') (hb : p.Settled n) : p'.Settled n :=
  hb.imp h.bare fun ⟨hr, q, hq⟩ => ⟨h.running.trans hr, q, h.stores hq⟩

theorem sameContents_refl : SameContents p p := ⟨rfl, rfl, rfl⟩

theorem sameContents_line (l : Line) : SameContents p { p with line := l } := ⟨rfl, rfl, rfl⟩

theorem sameContents_leave (i : TaskId) : SameContents p (p.leave i) := ⟨rfl, rfl, rfl⟩

end Pool

theorem told_succ {n n' : ProcessId → Nat} {k : Nat} (h : Told n k)
    (hn : ∀ q : Nat, n' q = n q + if q = k then 1 else 0) : Told n' (k + 1) := by
  intro q
  rw [hn, h]
  by_cases hq : q = k
  · subst hq; simp
  · simp only [hq, if_false, Nat.add_zero]
    by_cases hlt : q < k
    · simp [hlt, Nat.lt_succ_of_lt hlt]
    · have hlt' : ¬ q < k + 1 := by omega
      rw [if_neg hlt, if_neg hlt']

theorem Told.unique {n : ProcessId → Nat} {k l : Nat} (hk : Told n k) (hl : Told n l) : k = l := by
  have h1 := hk k
  have h2 := hl k
  have h3 := hk l
  have h4 := hl l
  simp only [Nat.lt_irrefl, if_false] at h1 h4
  rw [h1] at h2
  rw [h4] at h3
  split at h2 <;> split at h3 <;> omega

/-! ## Places -/

namespace PoolPlace

def standing : PoolPlace → Standing
  | .away => .out
  | .acquiring a =>
    match a with
    | .looking | .reading | .arriving | .done _ => .out
    | .queued => .waiting
    | _ => .holding
  | .tearing t =>
    match t with
    | .arriving | .done => .out
    | .queued => .waiting
    | _ => .holding

/-- What the pool contains when a task is at this place and nobody else has the line. -/
def Fits (p : Pool) (n : ProcessId → Nat) : PoolPlace → Prop
  | .away => p.Settled n
  | .acquiring a =>
    match a with
    | .checking | .starting | .launching => p.Bare n
    | .storing q => p.Loose n q
    | .announcing q => p.running = false ∧ p.Stores n q
    | .leaving (.ok q) => p.running = true ∧ p.Stores n q
    | .leaving (.error _) => p.Bare n
    | _ => p.Settled n
  | .tearing t =>
    match t with
    | .taking => p.running = false ∧ (p.Bare n ∨ ∃ q, p.Stores n q)
    | .cancelling q | .calling q => p.Loose n q
    | .stopping _ | .leaving => p.Bare n
    | _ => p.Settled n

variable {p p' : Pool} {n : ProcessId → Nat} {x : PoolPlace}

theorem fits_iff_settled (h : x.standing ≠ .holding) : x.Fits p n ↔ p.Settled n := by
  cases x with
  | away => rfl
  | acquiring a => cases a <;> first | rfl | simp [standing] at h
  | tearing t => cases t <;> first | rfl | simp [standing] at h

theorem Fits.congr (h : x.Fits p n) (hp : p.SameContents p') : x.Fits p' n := by
  cases x with
  | away => exact hp.settled h
  | acquiring a =>
    cases a with
    | checking | starting | launching => exact hp.bare h
    | storing q => exact hp.loose h
    | announcing q => exact ⟨hp.running.trans h.1, hp.stores h.2⟩
    | leaving r =>
      cases r with
      | ok q => exact ⟨hp.running.trans h.1, hp.stores h.2⟩
      | error f => exact hp.bare h
    | _ => exact hp.settled h
  | tearing t =>
    cases t with
    | taking => exact ⟨hp.running.trans h.1, h.2.imp hp.bare fun ⟨q, hq⟩ => ⟨q, hp.stores hq⟩⟩
    | cancelling q | calling q => exact hp.loose h
    | stopping | leaving => exact hp.bare h
    | _ => exact hp.settled h

/-- Wherever the process in use is, there is one at most. -/
theorem Fits.cases (h : x.Fits p n) : p.Bare n ∨ (∃ q, p.Stores n q) ∨ ∃ q, p.Loose n q := by
  have settled (h : p.Settled n) : p.Bare n ∨ (∃ q, p.Stores n q) ∨ ∃ q, p.Loose n q :=
    h.imp_right fun h => .inl h.2
  cases x with
  | away => exact settled h
  | acquiring a =>
    cases a with
    | checking | starting | launching => exact .inl h
    | storing q => exact .inr (.inr ⟨q, h⟩)
    | announcing q => exact .inr (.inl ⟨q, h.2⟩)
    | leaving r =>
      cases r with
      | ok q => exact .inr (.inl ⟨q, h.2⟩)
      | error f => exact .inl h
    | _ => exact settled h
  | tearing t =>
    cases t with
    | taking => exact h.2.imp_right .inl
    | cancelling q | calling q => exact .inr (.inr ⟨q, h⟩)
    | stopping | leaving => exact .inl h
    | _ => exact settled h

/-- A task that can be broken off leaves a settled pool behind. -/
theorem Fits.settled_of_isFree (h : x.Fits p n) (hx : x.isFree = true) : p.Settled n := by
  cases x with
  | away => exact h
  | acquiring a =>
    cases a with
    | launching => exact .inl h
    | queued | done => exact h
    | _ => simp [isFree, Acquire.waits] at hx
  | tearing t =>
    cases t with
    | stopping q => exact .inl h
    | queued => exact h
    | _ => simp [isFree, Teardown.waits] at hx

end PoolPlace

/-! ## Moves -/

section Moves

variable {p : Pool} {n n' : ProcessId → Nat} {i : TaskId}

theorem Acquire.Moves.fits {a : Acquire} {m : PoolMove Acquire} (hm : a.Moves i p m)
    (h : (PoolPlace.acquiring a).Fits p n) : (PoolPlace.acquiring m.place).Fits m.pool n := by
  cases hm with
  | join => exact (Pool.sameContents_line _).settled h
  | foundNothingAgain hr => exact h.bare hr
  | readAgain q hs => exact h.stores hs
  | readNothingAgain hs =>
    rcases h with h | ⟨-, q, h⟩
    · exact h
    · rw [h.stored] at hs; simp at hs
  | launched => exact ⟨h.running, h.stored, rfl, h.told⟩
  | store q => exact ⟨h.running, rfl, h.latest, h.told⟩
  | announce q => exact ⟨rfl, h.2.stored, h.2.latest, h.2.told⟩
  | leave r =>
    cases r with
    | ok q => exact (Pool.sameContents_leave i).settled (.inr ⟨h.1, q, h.2⟩)
    | error f => exact (Pool.sameContents_leave i).settled (.inl h)
  | _ => exact h

theorem Teardown.Moves.fits {t : Teardown} {m : PoolMove Teardown} (hm : t.Moves i p m)
    (hn : ∀ q, n' q = n q + if m.request = some (.shutDown q) then 1 else 0)
    (h : (PoolPlace.tearing t).Fits p n) : (PoolPlace.tearing m.place).Fits m.pool n' := by
  -- only the call itself asks for anything
  have keep (h0 : m.request = none) : n' = n := by funext q; simp [hn q, h0]
  cases hm with
  | join =>
    rw [keep rfl]
    exact (Pool.sameContents_line _).settled h
  | clear =>
    rw [keep rfl]
    rcases h with h | ⟨-, q, h⟩
    · exact ⟨rfl, .inl ⟨rfl, h.stored, h.told⟩⟩
    · exact ⟨rfl, .inr ⟨q, h.stored, h.latest, h.told⟩⟩
  | take q hs =>
    rw [keep rfl]
    rcases h with ⟨hrun, h | ⟨q', h⟩⟩
    · rw [h.stored] at hs; simp at hs
    · obtain rfl : q' = q := by simpa [h.stored] using hs
      exact ⟨hrun, rfl, h.latest, h.told⟩
  | takeNothing hs =>
    rw [keep rfl]
    rcases h with ⟨-, h | ⟨q, h⟩⟩
    · exact h
    · rw [h.stored] at hs; simp at hs
  | cancel q =>
    rw [keep rfl]
    exact ⟨h.running, h.stored, h.latest, h.told⟩
  | call q =>
    refine ⟨h.running, h.stored, ?_⟩
    rw [← h.latest]
    exact told_succ h.told fun q' => by simp [hn q', eq_comm]
  | leave =>
    rw [keep rfl]
    exact (Pool.sameContents_leave i).settled (.inl h)
  | turn | ended =>
    rw [keep rfl]
    exact h

/-- Nobody changes the contents of the pool without having its line. -/
theorem Acquire.Moves.sameContents {a : Acquire} {m : PoolMove Acquire} (hm : a.Moves i p m)
    (ha : (PoolPlace.acquiring a).standing ≠ .holding) : p.SameContents m.pool := by
  cases hm with
  | found | foundNothing | read | readNothing | turn => exact Pool.sameContents_refl
  | join => exact Pool.sameContents_line _
  | _ => simp [PoolPlace.standing] at ha

theorem Teardown.Moves.sameContents {t : Teardown} {m : PoolMove Teardown} (hm : t.Moves i p m)
    (ht : (PoolPlace.tearing t).standing ≠ .holding) :
    p.SameContents m.pool ∧ m.request = none := by
  cases hm with
  | turn => exact ⟨Pool.sameContents_refl, rfl⟩
  | join => exact ⟨Pool.sameContents_line _, rfl⟩
  | _ => simp [PoolPlace.standing] at ht

end Moves

/-! ## Scenes -/

namespace Scene

variable {w w' : Scene} {e : Event} {i j : TaskId}

structure PoolOrder (w : Scene) : Prop where
  kept : w.pool.line.Kept (PoolPlace.standing ∘ w.place)
  fits : ∀ i, (∀ j, j ≠ i → (w.place j).standing ≠ .holding) →
    (w.place i).Fits w.pool w.shutDowns

theorem poolOrder_fresh (options : LaunchOptions) : PoolOrder (fresh options) where
  kept := Line.kept_nil fun i => rfl
  fits i _ := .inl ⟨rfl, rfl, fun q => by simp [fresh, shutDowns]⟩

theorem PoolOrder.fits_of_holding (h : PoolOrder w) (hi : (w.place i).standing = .holding) :
    (w.place i).Fits w.pool w.shutDowns :=
  h.fits i fun _ hji hj => hji (h.kept.holding_unique hj hi)

theorem PoolOrder.fits_of_place {x : PoolPlace} (h : PoolOrder w) (hi : w.place i = x)
    (hx : x.standing = .holding) : x.Fits w.pool w.shutDowns := by
  subst hi
  exact h.fits_of_holding hx

/-- Either somebody has the line to itself, or the pool is settled. -/
theorem PoolOrder.holding_or_settled (h : PoolOrder w) :
    (∃ i, (w.place i).standing = .holding) ∨ w.pool.Settled w.shutDowns := by
  by_cases hn : ∃ i, (w.place i).standing = .holding
  · exact .inl hn
  · have hn' : ∀ j, (w.place j).standing ≠ .holding := fun j hj => hn ⟨j, hj⟩
    exact .inr ((PoolPlace.fits_iff_settled (hn' 0)).1 (h.fits 0 fun j _ => hn' j))

theorem PoolOrder.cases (h : PoolOrder w) :
    w.pool.Bare w.shutDowns ∨ (∃ q, w.pool.Stores w.shutDowns q) ∨
      ∃ q, w.pool.Loose w.shutDowns q := by
  rcases h.holding_or_settled with ⟨i, hi⟩ | hs
  · exact (h.fits_of_holding hi).cases
  · exact hs.imp_right fun h => .inl h.2

theorem PoolOrder.stores (h : PoolOrder w) {q : ProcessId} (hq : w.pool.stored = some q) :
    w.pool.Stores w.shutDowns q := by
  rcases h.cases with hb | ⟨q', hs⟩ | ⟨q', hl⟩
  · rw [hb.stored] at hq; simp at hq
  · obtain rfl : q' = q := by simpa [hs.stored] using hq
    exact hs
  · rw [hl.stored] at hq; simp at hq

/-- No process is told to shut down twice. -/
theorem PoolOrder.shutDowns_le (h : PoolOrder w) (p : ProcessId) : w.shutDowns p ≤ 1 := by
  have le {k : Nat} (ht : Told w.shutDowns k) : w.shutDowns p ≤ 1 := by
    rw [ht p]; split <;> omega
  rcases h.cases with hb | ⟨q, hs⟩ | ⟨q, hl⟩
  · exact le hb.told
  · exact le hs.told
  · exact le hl.told

theorem PoolOrder.shutDowns_of_stored (h : PoolOrder w) {p : ProcessId}
    (hp : w.pool.stored = some p) : w.shutDowns p = 0 := by
  rw [(h.stores hp).told p, if_neg (Nat.lt_irrefl p)]

/-- The contents stay in order when one task goes from one place to another and leaves the pool as
its new place says. -/
theorem PoolOrder.fits_update {x : PoolPlace} (h : PoolOrder w)
    (hs : w'.place = update w.place i x)
    (hx : (w.place i).Fits w.pool w.shutDowns → x.Fits w'.pool w'.shutDowns)
    (hsame : (w.place i).standing ≠ .holding → x.standing ≠ .holding →
      w.pool.SameContents w'.pool ∧ w'.shutDowns = w.shutDowns) :
    ∀ k, (∀ j, j ≠ k → (w'.place j).standing ≠ .holding) →
      (w'.place k).Fits w'.pool w'.shutDowns := by
  intro k hk
  have others : ∀ j, j ≠ i → w'.place j = w.place j := fun j hj => by rw [hs, update_of_ne hj]
  have own : w'.place i = x := by rw [hs, update_self]
  by_cases hki : k = i
  · subst hki
    rw [own]
    exact hx (h.fits k fun j hj => others j hj ▸ hk j hj)
  · have hx' : x.standing ≠ .holding := own ▸ hk i (Ne.symm hki)
    rw [others k hki]
    by_cases hold : (w.place i).standing = .holding
    · have hk' : (w.place k).standing ≠ .holding := fun h' =>
        hki (h.kept.holding_unique h' hold)
      exact (PoolPlace.fits_iff_settled hk').2
        ((PoolPlace.fits_iff_settled hx').1 (hx (h.fits_of_holding hold)))
    · obtain ⟨hp, hn⟩ := hsame hold hx'
      rw [hn]
      refine (h.fits k fun j hj => ?_).congr hp
      by_cases hji : j = i
      · subst hji; exact hold
      · exact others j hji ▸ hk j hj

theorem standing_update {x : PoolPlace} (hs : w'.place = update w.place i x) :
    PoolPlace.standing ∘ w'.place = update (PoolPlace.standing ∘ w.place) i x.standing := by
  rw [hs, comp_update]

/-! ### The line -/

theorem kept_acquire {a : Acquire} {m : PoolMove Acquire} (h : PoolOrder w)
    (hi : w.place i = .acquiring a) (hm : a.Moves i w.pool m) :
    m.pool.line.Kept
      (update (PoolPlace.standing ∘ w.place) i (PoolPlace.acquiring m.place).standing) := by
  have hst : (PoolPlace.standing ∘ w.place) i = (PoolPlace.acquiring a).standing := by
    rw [comp_apply, hi]
  cases hm with
  | join => exact h.kept.join hst
  | turn hserves => exact h.kept.turn hserves
  | leave r => exact h.kept.leave
  | _ => exact h.kept.stay hst

theorem kept_teardown {t : Teardown} {m : PoolMove Teardown} (h : PoolOrder w)
    (hi : w.place i = .tearing t) (hm : t.Moves i w.pool m) :
    m.pool.line.Kept
      (update (PoolPlace.standing ∘ w.place) i (PoolPlace.tearing m.place).standing) := by
  have hst : (PoolPlace.standing ∘ w.place) i = (PoolPlace.tearing t).standing := by
    rw [comp_apply, hi]
  cases hm with
  | join => exact h.kept.join hst
  | turn hserves => exact h.kept.turn hserves
  | leave => exact h.kept.leave
  | _ => exact h.kept.stay hst

/-! ### Runs -/

theorem shutDowns_of_asks_none (h : Asks w w' none) : w'.shutDowns = w.shutDowns := by
  funext p; simpa using h.shutDowns p

theorem shutDowns_of_asks_acquire {a : Acquire} {m : PoolMove Acquire}
    (hm : a.Moves i w.pool m) (h : Asks w w' m.request) : w'.shutDowns = w.shutDowns := by
  funext p
  rcases hm.request with hr | ⟨-, hr⟩ <;> simpa [hr] using h.shutDowns p

/-- No task changes its place, and the contents of the pool stay. -/
theorem PoolOrder.of_same (h : PoolOrder w) (hl : w'.pool.line = w.pool.line)
    (hp : w.pool.SameContents w'.pool) (hs : w'.place = w.place) (ha : Asks w w' none) :
    PoolOrder w' where
  kept := by rw [hl, hs]; exact h.kept
  fits k hk := by
    rw [hs, shutDowns_of_asks_none ha]
    exact (h.fits k fun j hj => hs ▸ hk j hj).congr hp

/-- One task goes from its place to another, and the pool with it. -/
theorem PoolOrder.update {x y : PoolPlace} (h : PoolOrder w) (hi : w.place i = y)
    (hs : w'.place = update w.place i x)
    (hkept : w'.pool.line.Kept (update (PoolPlace.standing ∘ w.place) i x.standing))
    (hx : y.Fits w.pool w.shutDowns → x.Fits w'.pool w'.shutDowns)
    (hsame : y.standing ≠ .holding → x.standing ≠ .holding →
      w.pool.SameContents w'.pool ∧ w'.shutDowns = w.shutDowns) : PoolOrder w' where
  kept := by rw [standing_update hs]; exact hkept
  fits := h.fits_update hs (hi.symm ▸ hx) (hi.symm ▸ hsame)

theorem PoolOrder.of_change (h : PoolOrder w) (hc : PoolChange w e w') : PoolOrder w' := by
  cases hc with
  | rest hp hs ha => exact h.of_same (by rw [hp]) (hp ▸ Pool.sameContents_refl) hs ha
  | cancelled hp hs ha => exact h.of_same (by rw [hp]) (hp ▸ ⟨rfl, rfl, rfl⟩) hs ha
  | entered i x hi hx hp hs ha =>
    have hn := shutDowns_of_asks_none ha
    have hx' : x.standing = .out := by rcases hx with rfl | ⟨rfl, -⟩ <;> rfl
    refine h.update hi hs ?_ (fun hf => ?_) fun _ _ => ⟨hp ▸ Pool.sameContents_refl, hn⟩
    · rw [hp, hx']
      exact h.kept.stay (by rw [comp_apply, hi]; rfl)
    · rw [hp, hn, PoolPlace.fits_iff_settled (by simp [hx'])]
      exact hf
  | acquire i a m hi hm hp hs ha =>
    have hn := shutDowns_of_asks_acquire hm ha
    refine h.update hi hs ?_ (fun hf => ?_) fun hold _ => ⟨hp ▸ hm.sameContents hold, hn⟩
    · rw [hp]
      exact kept_acquire h hi hm
    · rw [hp, hn]
      exact hm.fits hf
  | teardown i t m hi hm hp hs ha =>
    refine h.update hi hs ?_ (fun hf => ?_) fun hold _ => ?_
    · rw [hp]
      exact kept_teardown h hi hm
    · rw [hp]
      exact hm.fits ha.shutDowns hf
    · obtain ⟨hsame, hr⟩ := hm.sameContents hold
      rw [hr] at ha
      exact ⟨hp ▸ hsame, shutDowns_of_asks_none ha⟩
  | left i hi hp hs ha =>
    have hn := shutDowns_of_asks_none ha
    have hpool := Pool.sameContents_leave (p := w.pool) i
    refine h.update rfl hs ?_ (fun hf => ?_) fun _ _ => ⟨hp ▸ hpool, hn⟩
    · rw [hp]
      exact h.kept.leave
    · rw [hp, hn]
      exact hpool.settled (hf.settled_of_isFree hi)
  | received i p hi hp hs ha =>
    have hn := shutDowns_of_asks_none ha
    refine h.update hi hs ?_ (fun hf => ?_) fun _ _ => ⟨hp ▸ Pool.sameContents_refl, hn⟩
    · rw [hp]
      exact h.kept.stay (by rw [comp_apply, hi]; rfl)
    · rw [hp, hn]
      exact hf

theorem PoolOrder.apply (h : PoolOrder w) (e : Event) : PoolOrder (w.apply e) :=
  h.of_change (apply_poolChange w e)

/-- The pool stays in order whatever happens. -/
theorem PoolOrder.run (h : PoolOrder w) (events : List Event) : PoolOrder (w.run events) :=
  run_induction h fun _ h e _ => h.apply e

/-- A run keeps what each event keeps while the pool is in order. -/
theorem PoolOrder.run_induction {P : Scene → Prop} {events : List Event} (h : PoolOrder w)
    (hw : P w) (keep : ∀ w, PoolOrder w → P w → ∀ e ∈ events, P (w.apply e)) : P (w.run events) :=
  run_induction_of_invariant (I := PoolOrder) (fun _ h e => h.apply e) h hw keep

theorem poolOrder_run (options : LaunchOptions) (events : List Event) :
    PoolOrder ((fresh options).run events) := (poolOrder_fresh options).run events

end Scene

end ScriptSandbox
