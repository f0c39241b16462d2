import Mathlib.Data.ENat.Lattice
import ScriptSandbox.Proofs.Sandbox.JobSequence

/-!
# Callers with deadlines

A caller with a deadline waits until the first of three moments: the one at which its job has come
to its end, the one at which all work has been cancelled, and its deadline (`Service.call_outcome`).
Any of them but the deadline may never come, so moments are in `ℕ∞`.

At a moment the service does whatever it does then, in any order. After that the caller looks once,
and the clock moves on.
-/

namespace ScriptSandbox

open Guest

/-- The first moment at which this holds, if there is one. -/
noncomputable def firstMoment (P : ℕ → Prop) : ℕ∞ := ⨅ (n : ℕ) (_ : P n), (n : ℕ∞)

section FirstMoment

variable {P : ℕ → Prop} {n : ℕ}

theorem firstMoment_le (h : P n) : firstMoment P ≤ n := iInf₂_le n h

theorem not_of_lt_firstMoment (h : (n : ℕ∞) < firstMoment P) : ¬ P n :=
  fun hn => (firstMoment_le hn).not_gt h

theorem lt_firstMoment (h : ∀ m ≤ n, ¬ P m) : (n : ℕ∞) < firstMoment P := by
  have hle : ((n + 1 : ℕ) : ℕ∞) ≤ firstMoment P := le_iInf₂ fun m hm => by
    have hlt : n < m := Nat.lt_of_not_le fun hle => h m hle hm
    exact_mod_cast hlt
  exact lt_of_lt_of_le (by exact_mod_cast Nat.lt_succ_self n) hle

/-- A first moment is not put off for ever. -/
theorem of_firstMoment_eq (h : firstMoment P = n) : P n := by
  by_contra hn
  have hlt : (n : ℕ∞) < firstMoment P := lt_firstMoment fun m hm hP => by
    have hle : (n : ℕ∞) ≤ m := h ▸ firstMoment_le hP
    obtain rfl : n = m := Nat.le_antisymm (by exact_mod_cast hle) hm
    exact hn hP
  exact absurd h hlt.ne'

end FirstMoment

/-! ## What a caller learns -/

namespace Sandbox

variable {s : Sandbox} {a : Awaited} {d : Deadline} {r : JobResult}

theorem learns_of_isCancelled (hc : s.host.isCancelled = true) :
    s.learns a = some (.error closedMeanwhile) := by
  simp only [learns, hc, if_true]

theorem learns_of_result? (hc : s.host.isCancelled = false)
    (hr : s.worker.result? a.ticket = some r) : s.learns a = some r := by
  simp only [learns, hc, Bool.false_eq_true, if_false, hr]

theorem learns_of_deadline (hc : s.host.isCancelled = false)
    (hr : s.worker.result? a.ticket = none) (ha : a.deadline = some d) :
    s.learns a = if d.moment ≤ s.now then some (.error (.timedOut d.limit)) else none := by
  simp only [learns, hc, Bool.false_eq_true, if_false, hr, ha]

end Sandbox

/-- A call at this place has come to its end. -/
def Caller.Place.IsOver : Caller.Place → Prop
  | .refused _ | .returned _ _ _ | .gone _ => True
  | .arriving | .entering | .waiting _ => False

namespace Service

variable {t : Service} {e : Event} {k : Nat} {c : Caller} {events : List Event}

/-! ## Meanwhile -/

/-- The event takes no time and leaves this caller alone. -/
def Event.IsAside (k : Nat) : Event → Prop
  | .call _ _ => True
  | .step i | .look i | .giveUp i => i ≠ k
  | .sandbox e => e.IsTimeless

theorem callers_step_of_ne {i : Nat} (hi : i ≠ k) :
    (t.step i).callers[k]? = t.callers[k]? := by
  have hcase := stepCase t i
  generalize t.step i = t' at hcase ⊢
  cases hcase with
  | still => rfl
  | put | entered => exact List.getElem?_set_ne hi

theorem caller_of_isAside (he : e.IsAside k) (hk : t.callers[k]? = some c) :
    (t.apply e).callers[k]? = some c := by
  cases e with
  | call j limit =>
    show (t.callers ++ [_])[k]? = some c
    rwa [List.getElem?_append_left (List.getElem?_eq_some_iff.1 hk).1]
  | step i => exact (callers_step_of_ne he).trans hk
  | look i => exact (List.getElem?_modify_ne _ _ he).trans hk
  | giveUp i => exact (List.getElem?_modify_ne _ _ he).trans hk
  | sandbox e => exact hk

theorem now_of_isAside (he : e.IsAside k) : (t.apply e).sandbox.now = t.sandbox.now := by
  cases e with
  | step i =>
    obtain ⟨worker, hs⟩ := sandbox_step t i
    show (t.step i).sandbox.now = _
    rw [hs]
    rfl
  | sandbox e => exact (Sandbox.movesTo_apply he).scene.now
  | call | look | giveUp => rfl

theorem caller_run_of_isAside (he : ∀ e ∈ events, e.IsAside k) (hk : t.callers[k]? = some c) :
    (t.run events).callers[k]? = some c := by
  induction events generalizing t with
  | nil => exact hk
  | cons e events ih =>
    obtain ⟨he, hrest⟩ := List.forall_mem_cons.1 he
    exact ih hrest (caller_of_isAside he hk)

theorem now_run_of_isAside (he : ∀ e ∈ events, e.IsAside k) :
    (t.run events).sandbox.now = t.sandbox.now := by
  induction events generalizing t with
  | nil => rfl
  | cons e events ih =>
    obtain ⟨he, hrest⟩ := List.forall_mem_cons.1 he
    exact (ih hrest).trans (now_of_isAside he)

/-- The service at a moment after this one, when the caller is about to look. What happens at each
moment besides is in the plan. -/
def atMoment (t : Service) (k : Nat) (plan : Nat → List Event) : Nat → Service
  | 0 => t.run (plan 0)
  | n + 1 =>
    (((t.atMoment k plan n).apply (.look k)).apply (.sandbox (.pass 1))).run (plan (n + 1))

variable {plan : Nat → List Event} {n : Nat} {a : Awaited} {r : JobResult} {first : Realm}

theorem now_atMoment (hplan : ∀ n, ∀ e ∈ plan n, e.IsAside k) :
    (t.atMoment k plan n).sandbox.now = t.sandbox.now + n := by
  induction n with
  | zero => exact now_run_of_isAside (hplan 0)
  | succ n ih =>
    refine (now_run_of_isAside (hplan (n + 1))).trans ?_
    show (t.atMoment k plan n).sandbox.now + 1 = _
    rw [ih, Nat.add_assoc]

theorem InOrder.atMoment (h : t.InOrder first) : (t.atMoment k plan n).InOrder first := by
  induction n with
  | zero => exact h.run (plan 0)
  | succ n ih => exact ((ih.apply _).apply _).run (plan (n + 1))

theorem caller_look (hk : t.callers[k]? = some c) :
    (t.apply (.look k)).callers[k]? = some (c.look t.sandbox) := by
  show (t.callers.modify k _)[k]? = _
  rw [List.getElem?_modify_eq, hk]
  rfl

/-- As long as there is nothing to learn, the caller waits. -/
theorem caller_atMoment (hplan : ∀ n, ∀ e ∈ plan n, e.IsAside k) (hk : t.callers[k]? = some c)
    (hc : c.place = .waiting a)
    (hnone : ∀ m < n, (t.atMoment k plan m).sandbox.learns a = none) :
    (t.atMoment k plan n).callers[k]? = some c := by
  induction n with
  | zero => exact caller_run_of_isAside (hplan 0) hk
  | succ n ih =>
    have hlook := caller_look (ih fun m hm => hnone m (Nat.lt_succ_of_lt hm))
    have hstill : c.look (t.atMoment k plan n).sandbox = c := by
      simp only [Caller.look, hc, hnone n (Nat.lt_succ_self n)]
    rw [hstill] at hlook
    exact caller_run_of_isAside (hplan (n + 1)) hlook

/-! ## Afterwards -/

/-- No call that has come to its end gets to hear anything else. -/
theorem caller_of_isOver (hover : c.place.IsOver) (hk : t.callers[k]? = some c) (e : Event) :
    (t.apply e).callers[k]? = some c := by
  obtain ⟨job, limit, place⟩ := c
  by_cases he : e.IsAside k
  · exact caller_of_isAside he hk
  · cases e with
    | call => exact absurd trivial he
    | sandbox => exact hk
    | step i =>
      obtain rfl : i = k := not_not.1 he
      cases place with
      | arriving | entering | waiting => exact hover.elim
      | refused | returned | gone =>
        show (t.step i).callers[i]? = _
        simp only [step, hk]
    | look i =>
      obtain rfl : i = k := not_not.1 he
      cases place with
      | arriving | entering | waiting => exact hover.elim
      | refused | returned | gone => exact caller_look hk
    | giveUp i =>
      obtain rfl : i = k := not_not.1 he
      show (t.callers.modify i _)[i]? = _
      rw [List.getElem?_modify_eq, hk]
      cases place with
      | arriving | entering | waiting => exact hover.elim
      | refused | returned | gone => rfl

theorem caller_run_of_isOver (hover : c.place.IsOver) (hk : t.callers[k]? = some c)
    (events : List Event) : (t.run events).callers[k]? = some c := by
  induction events generalizing t with
  | nil => exact hk
  | cons e events ih => exact ih (caller_of_isOver hover hk e)

/-! ## Three moments -/

/-- The moment at which a job has come to its end. -/
noncomputable def whenEnded (line : Nat → Service) (ticket : Ticket) : ℕ∞ :=
  firstMoment fun n => ((line n).sandbox.worker.result? ticket).isSome = true

/-- The moment at which all work has been cancelled. -/
noncomputable def whenCancelled (line : Nat → Service) : ℕ∞ :=
  firstMoment fun n => (line n).sandbox.host.isCancelled = true

/-- What a caller is told, by which of the three moments comes first. At the same moment, that all
work is cancelled comes before the end of the job, and this before the deadline. -/
inductive Outcome (ended cancelled : ℕ∞) (patience : ℕ) (Own : JobResult → Prop) : JobResult → Prop
  | cancelled (first : cancelled ≤ min ended patience) :
      Outcome ended cancelled patience Own (.error Sandbox.closedMeanwhile)
  | ended {r : JobResult} (running : ended < cancelled) (inTime : ended ≤ patience) (own : Own r) :
      Outcome ended cancelled patience Own r
  | timedOut (first : patience < min ended cancelled) :
      Outcome ended cancelled patience Own (.error (.timedOut patience))

theorem Outcome.mono {ended cancelled : ℕ∞} {patience : ℕ} {Own Own' : JobResult → Prop}
    (h : Outcome ended cancelled patience Own r) (hown : Own r → Own' r) :
    Outcome ended cancelled patience Own' r := by
  cases h with
  | cancelled first => exact .cancelled first
  | ended running inTime own => exact .ended running inTime (hown own)
  | timedOut first => exact .timedOut first

/-- If neither of the other two moments comes in time, the caller hears of its deadline. -/
theorem Outcome.eq_timedOut {ended cancelled : ℕ∞} {patience : ℕ} {Own : JobResult → Prop}
    (h : Outcome ended cancelled patience Own r) (hended : patience < ended)
    (hcancelled : patience < cancelled) : r = .error (.timedOut patience) := by
  cases h with
  | cancelled first => exact absurd hcancelled (first.trans (min_le_right ..)).not_gt
  | ended _ inTime => exact absurd hended inTime.not_gt
  | timedOut => rfl

section ThreeMoments

variable {line : Nat → Service} {ticket : Ticket} {start patience : ℕ}

theorem isCancelled_of_lt (h : (n : ℕ∞) < whenCancelled line) :
    (line n).sandbox.host.isCancelled = false :=
  Bool.eq_false_of_not_eq_true (not_of_lt_firstMoment h)

theorem result?_of_lt (h : (n : ℕ∞) < whenEnded line ticket) :
    (line n).sandbox.worker.result? ticket = none := by
  have := not_of_lt_firstMoment h
  simpa using this

theorem lt_whenCancelled (h : ∀ m ≤ n, (line m).sandbox.host.isCancelled = false) :
    (n : ℕ∞) < whenCancelled line :=
  lt_firstMoment fun m hm => by
    rw [h m hm]
    exact Bool.false_ne_true

theorem lt_whenEnded (h : ∀ m ≤ n, (line m).sandbox.worker.result? ticket = none) :
    (n : ℕ∞) < whenEnded line ticket :=
  lt_firstMoment fun m hm => by
    rw [h m hm]
    exact Bool.false_ne_true

/-- With a deadline, a caller does not wait for ever. -/
theorem exists_first (ended cancelled : ℕ∞) (patience : ℕ) :
    ∃ n : ℕ, (n : ℕ∞) = min ended (min cancelled patience) := by
  refine ENat.ne_top_iff_exists.1 (ne_top_of_le_ne_top (ENat.natCast_ne_top patience) ?_)
  exact (min_le_right ..).trans (min_le_right ..)

/-- Before the first of the three moments there is nothing to learn. -/
theorem learns_none_of_lt (hnow : ∀ n, (line n).sandbox.now = start + n)
    (ha : a.deadline = some { limit := patience, moment := start + patience })
    (hn : (n : ℕ∞) < min (whenEnded line a.ticket) (min (whenCancelled line) patience)) :
    (line n).sandbox.learns a = none := by
  obtain ⟨hended, hcancelled, hpatience⟩ := by simpa only [lt_min_iff] using hn
  have hlt : n < patience := by exact_mod_cast hpatience
  rw [Sandbox.learns_of_deadline (isCancelled_of_lt hcancelled) (result?_of_lt hended) ha, hnow,
    if_neg (by dsimp only; omega)]

/-- When it has come, there is. -/
theorem exists_outcome (hnow : ∀ n, (line n).sandbox.now = start + n)
    (ha : a.deadline = some { limit := patience, moment := start + patience })
    (hn : (n : ℕ∞) = min (whenEnded line a.ticket) (min (whenCancelled line) patience)) :
    ∃ r, (line n).sandbox.learns a = some r ∧
      Outcome (whenEnded line a.ticket) (whenCancelled line) patience
        (fun r => (line n).sandbox.worker.result? a.ticket = some r) r := by
  rcases le_or_gt (whenCancelled line) (min (whenEnded line a.ticket) patience) with hfirst | hlater
  · have hmoment : whenCancelled line = n := by rw [hn, min_left_comm, min_eq_left hfirst]
    exact ⟨_, Sandbox.learns_of_isCancelled (of_firstMoment_eq hmoment), .cancelled hfirst⟩
  · rw [min_left_comm, min_eq_right hlater.le] at hn
    have hrunning := isCancelled_of_lt (hn ▸ hlater)
    rcases le_or_gt (whenEnded line a.ticket) patience with hinTime | hlate
    · rw [min_eq_left hinTime] at hn hlater
      obtain ⟨r, hr⟩ := Option.isSome_iff_exists.1 (of_firstMoment_eq hn.symm)
      exact ⟨r, Sandbox.learns_of_result? hrunning hr, .ended hlater hinTime hr⟩
    · rw [min_eq_right hlate.le] at hn hlater
      refine ⟨_, ?_, .timedOut (lt_min hlate hlater)⟩
      have hpatience : n = patience := by exact_mod_cast hn
      rw [Sandbox.learns_of_deadline hrunning (result?_of_lt (hn ▸ hlate)) ha, hnow, hpatience,
        if_pos (Nat.le_refl _)]

end ThreeMoments

/-! ## Calls -/

theorem settings_run (t : Service) (events : List Event) :
    (t.run events).sandbox.host.settings = t.sandbox.host.settings :=
  run_induction (P := fun s => s.host.settings = t.sandbox.host.settings) rfl (fun _ _ h => h)
    (fun s e h => (Sandbox.leads_apply s e).settings.trans h) events

/-- A call with a limit is refused by a closed sandbox, or it waits with a deadline. -/
theorem refused_or_waiting {mid : List Event} {limit : Nat} (hshut : t.sandbox.ShutInOrder)
    (hk : t.callers[k]? = some c) (hc : c.place = .arriving) (hlimit : c.limit = some limit)
    (hmid : ∀ e ∈ mid, e.IsAside k) :
    let u := ((t.step k).run mid).step k
    let patience := if limit = 0 then t.sandbox.host.settings.scriptTimeout else limit
    (u.sandbox.isClosed = true ∧
      u.callers[k]? = some { c with place := .refused Sandbox.closedFailure }) ∨
    ∃ a, u.callers[k]? = some { c with place := .waiting a } ∧
      a.deadline = some { limit := patience, moment := u.sandbox.now + patience } := by
  intro u patience
  cases hcl : t.sandbox.isClosed with
  | true =>
    have hu : u = (t.step k).run (mid ++ [.step k]) := by
      rw [run_append]
      rfl
    have hrefused : (t.step k).callers[k]? =
        some { c with place := .refused Sandbox.closedFailure } := by
      rw [step_of_isClosed hcl hk hc]
      exact caller_putCaller hk _
    refine .inl ⟨?_, ?_⟩
    · rw [hu]
      exact isClosed_run hcl (.step k :: (mid ++ [.step k]))
    · rw [hu]
      exact caller_run_of_isOver (by trivial) hrefused _
  | false =>
    let v := (t.step k).run mid
    have hentering : v.callers[k]? = some { c with place := .entering } := by
      refine caller_run_of_isAside hmid ?_
      rw [step_of_not_isClosed hcl hk hc]
      exact caller_putCaller hk _
    cases hw : v.sandbox.hasWorker with
    | false =>
      -- the sandbox has been closed since the call arrived
      have hclosed : v.sandbox.isClosed = true := by
        have : v.sandbox.closed = true := (shutInOrder_run hshut (.step k :: mid)).released hw
        simp only [Sandbox.isClosed, this, Bool.true_or]
      refine .inl ⟨isClosed_run hclosed [.step k], ?_⟩
      rw [show u = _ from step_of_not_hasWorker hw hentering rfl]
      exact caller_putCaller hentering _
    | true =>
      have hsettings : v.sandbox.host.settings = t.sandbox.host.settings :=
        settings_run t (.step k :: mid)
      rw [show u = _ from step_of_hasWorker hw hentering rfl]
      refine .inr ⟨_, List.getElem?_set_self (List.getElem?_eq_some_iff.1 hentering).1, ?_⟩
      show c.limit.map _ = _
      rw [hlimit, Option.map_some, Sandbox.deadline, hsettings]
      rfl

/-- A call with a limit, zero standing for what the settings say, whatever has happened before, what
others do while it hands its job in, and what happens at each moment from then on:

* a closed sandbox refuses it as cancelled, and this is all that it ever gets to hear;
* otherwise it waits until the first of the three moments, and is told what this moment means: that
  all work has been cancelled, what its own job has come to in sequence, or that its time is over;
* it is told nothing else whatever happens later, and nobody else waits for the job, which keeps its
  place among those that the worker does in sequence and is taken up when its turn has come. -/
theorem call_outcome {canRun : Bool} {settings : Settings} {surroundings : Surroundings}
    {rehearsal : Rehearsal} {s₀ : Sandbox}
    (h₀ : Sandbox.create canRun settings surroundings rehearsal = .ok s₀)
    (before mid : List Event) (plan : Nat → List Event) {k limit : Nat} {c : Caller}
    (hk : ((of s₀).run before).callers[k]? = some c) (hc : c.place = .arriving)
    (hlimit : c.limit = some limit) (hmid : ∀ e ∈ mid, e.IsAside k)
    (hplan : ∀ n, ∀ e ∈ plan n, e.IsAside k) :
    let u := ((((of s₀).run before).step k).run mid).step k
    let line := u.atMoment k plan
    let patience := if limit = 0 then settings.scriptTimeout else limit
    ((u.sandbox.isClosed = true ∧ ∀ later, (u.run later).callers[k]? =
        some { c with place := .refused Sandbox.closedFailure }) ∨
      ∃ (a : Awaited) (n : ℕ) (r : JobResult),
        (n : ℕ∞) = min (whenEnded line a.ticket) (min (whenCancelled line) patience) ∧
        Outcome (whenEnded line a.ticket) (whenCancelled line) patience
          (fun r => ∃ realm,
            ((line n).sequence s₀.worker.realm).task a.ticket = some (.done (r, realm))) r ∧
        (∀ m ≤ n, (line m).callers[k]? = some { c with place := .waiting a }) ∧
        ∀ later : List Event,
          let v := ((line n).apply (.look k)).run later
          v.callers[k]? = some { c with place := .returned a (u.sandbox.now + n) r } ∧
          v.jobs[a.ticket]? = some c.job ∧
          v.sandbox.worker.Follows (v.sequence s₀.worker.realm) ∧
          (v.sandbox.worker.IdleAfter a.ticket → ∃ queue,
            v.sandbox.worker.ready v.sandbox.host = some (v.sandbox.host,
              { v.sandbox.worker with queue }, a.ticket, c.job.action v.sandbox.worker.realm)) ∧
          ∀ (k' : Nat) (c' : Caller) (a' : Awaited), v.callers[k']? = some c' →
            c'.place.awaited? = some a' → a'.ticket = a.ticket → k' = k) ∧
    Sandbox.closedFailure.code = .cancelled ∧ Sandbox.closedMeanwhile.code = .cancelled ∧
    (Failure.timedOut patience).code = .timeout := by
  intro u line patience
  refine ⟨?_, rfl, rfl, rfl⟩
  have hin : u.InOrder s₀.worker.realm :=
    (((inOrder_of_create h₀).run before).step k |>.run mid).step k
  have hsettings : ((of s₀).run before).sandbox.host.settings = settings :=
    (settings_run (of s₀) before).trans (Sandbox.settings_of_create h₀)
  have hshut : ((of s₀).run before).sandbox.ShutInOrder :=
    shutInOrder_run (t := of s₀) (Sandbox.shutInOrder_of_create h₀) before
  rcases refused_or_waiting hshut hk hc hlimit hmid with ⟨hclosed, hrefused⟩ | ⟨a, hwaits, ha⟩
  · exact .inl ⟨hclosed, caller_run_of_isOver (by trivial) hrefused⟩
  · rw [hsettings] at ha
    obtain ⟨n, hn⟩ := exists_first (whenEnded line a.ticket) (whenCancelled line) patience
    have hnow (m : ℕ) : (line m).sandbox.now = u.sandbox.now + m := now_atMoment hplan
    obtain ⟨r, hlearns, houtcome⟩ := exists_outcome hnow ha hn
    have hwaiting (m : ℕ) (hm : m ≤ n) :
        (line m).callers[k]? = some { c with place := .waiting a } := by
      refine caller_atMoment hplan hwaits rfl fun m' hm' => learns_none_of_lt hnow ha ?_
      rw [← hn]
      exact_mod_cast Nat.lt_of_lt_of_le hm' hm
    refine .inr ⟨a, n, r, hn, houtcome.mono fun hr => ?_, hwaiting, fun later => ?_⟩
    · obtain ⟨o, ho, hticket, rfl⟩ := Worker.outcome_of_result? hr
      rw [← hticket]
      exact hin.atMoment.follows.keeps.ended o ho
    · intro v
      have hv : v.InOrder s₀.worker.realm := (hin.atMoment.apply (.look k)).run later
      have htold : v.callers[k]? =
          some { c with place := .returned a (u.sandbox.now + n) r } := by
        refine caller_run_of_isOver (by trivial) ?_ later
        rw [caller_look (hwaiting n (Nat.le_refl n)), ← hnow]
        simp only [Caller.look, hlearns]
      have hjob := hv.own k _ a htold rfl
      refine ⟨htold, hjob, hv.follows,
        fun hidle => hv.follows.ready_of_idleAfter hidle hjob v.sandbox.host,
        fun k' c' a' hk' ha' heq => ?_⟩
      exact hv.apart k' k c' _ a' a hk' htold ha' rfl heq

/-- Two scripts that sleep. The first has been handed in. -/
def sleepers : List Event :=
  [.call (.eval "sleep(5); 0") none, .call (.eval "sleep(10); 1") (some 1), .step 0, .step 0]

/-- The second caller waits as well, but not for long. -/
def impatient (s : Sandbox) : Service := ((((of s).run sleepers).step 1).run []).step 1

/-- The caller has its answer before its job is begun. The job is taken up when the other script has
ended, and comes to its own end long after. -/
theorem call_outcome_impatient :
    ∃ s₀ : Sandbox, Sandbox.create true {} { files := ⟨[]⟩ } {} = .ok s₀ ∧
      let told := ((impatient s₀).atMoment 1 (fun _ => [.sandbox .work]) 1).apply (.look 1)
      let turn := told.run [.sandbox (.pass 4), .sandbox .work]
      let ended := turn.run [.sandbox .work, .sandbox (.pass 10), .sandbox .work]
      ∃ a : Awaited,
        (∀ later : List Event, (told.run later).callers[1]? =
          some ⟨.eval "sleep(10); 1", some 1, .returned a 1 (.error (.timedOut 1))⟩) ∧
        (∃ queue, turn.sandbox.worker.ready turn.sandbox.host = some (turn.sandbox.host,
          { turn.sandbox.worker with queue }, a.ticket,
          (Job.eval "sleep(10); 1").action turn.sandbox.worker.realm)) ∧
        ended.sandbox.now = 15 ∧
        ended.sandbox.worker.result? a.ticket = some (.ok (some (.nat 1))) := by
  have run : Sandbox.passes (Sandbox.create true {} { files := ⟨[]⟩ } {}) (fun s =>
      let line := (impatient s).atMoment 1 fun _ => [.sandbox .work]
      let turn := ((line 1).apply (.look 1)).run [.sandbox (.pass 4), .sandbox .work]
      let ended := turn.run [.sandbox .work, .sandbox (.pass 10), .sandbox .work]
      !(impatient s).sandbox.isClosed && decide ((impatient s).sandbox.now = 0) &&
        ([0, 1].all fun m => !(line m).sandbox.host.isCancelled &&
          (line m).sandbox.worker.outcomes.isEmpty) &&
        decide ((line 0).callers.map (·.place.awaited?.map Awaited.ticket) = [some 0, some 1]) &&
        decide (turn.sandbox.worker.IdleAfter 1) && decide (ended.sandbox.now = 15) &&
        decide (ended.sandbox.worker.result? 1 = some (.ok (some (.nat 1))))) = true := by
    decide +kernel
  obtain ⟨s₀, h, hchecked⟩ := Sandbox.exists_of_passes run
  obtain ⟨⟨⟨⟨⟨⟨hopen, hnow⟩, hmoments⟩, htickets⟩, hidle⟩, hover⟩, hresult⟩ := by
    simpa only [Bool.and_eq_true, decide_eq_true_eq] using hchecked
  let line := (impatient s₀).atMoment 1 fun _ => [.sandbox .work]
  have hearly (m : ℕ) (hm : m ≤ 1) : (line m).sandbox.host.isCancelled = false ∧
      (line m).sandbox.worker.outcomes = [] := by
    have := List.all_eq_true.1 hmoments m (by simp; omega)
    simpa using this
  have hcancelled : ((1 : ℕ) : ℕ∞) < whenCancelled line :=
    lt_whenCancelled fun m hm => (hearly m hm).1
  have harrives : ((of s₀).run sleepers).callers[1]? =
      some ⟨.eval "sleep(10); 1", some 1, .arriving⟩ :=
    caller_run_of_isAside (t := (of s₀).run (sleepers.take 2)) (k := 1)
      (by simp [Event.IsAside]) rfl
  obtain ⟨⟨hclosed, -⟩ | ⟨a, n, r, hn, houtcome, hwaiting, hlater⟩, -⟩ :=
    call_outcome h sleepers [] (fun _ => [.sandbox .work]) harrives rfl rfl (by simp)
      (by simp [Event.IsAside, Sandbox.Event.IsTimeless])
  · rw [show (impatient s₀).sandbox.isClosed = true from hclosed] at hopen
    simp at hopen
  · have hended : ((1 : ℕ) : ℕ∞) < whenEnded line a.ticket := lt_whenEnded fun m hm => by
      rw [Worker.result?, (hearly m hm).2]
      rfl
    change (n : ℕ∞) = min (whenEnded line a.ticket) (min (whenCancelled line) (1 : ℕ)) at hn
    rw [min_eq_right hcancelled.le, min_eq_right hended.le] at hn
    obtain rfl : n = 1 := by exact_mod_cast hn
    obtain rfl : r = .error (.timedOut 1) := houtcome.eq_timedOut hended hcancelled
    have hticket : a.ticket = 1 := by
      have hat := congrArg (·[1]?) htickets
      simp only [List.getElem?_map] at hat
      rw [show (line 0).callers[1]? = _ from hwaiting 0 (Nat.zero_le _)] at hat
      simpa [Caller.Place.awaited?] using hat
    refine ⟨s₀, h, a, fun later => ?_, ?_, hover, hticket ▸ hresult⟩
    · have htold := (hlater later).1
      change _ = some (Caller.mk _ _ (.returned a ((impatient s₀).sandbox.now + 1) _)) at htold
      rw [hnow, Nat.zero_add] at htold
      exact htold
    · obtain ⟨-, -, -, htaken, -⟩ := hlater [.sandbox (.pass 4), .sandbox .work]
      exact htaken (hticket.symm ▸ hidle)

end Service

end ScriptSandbox
