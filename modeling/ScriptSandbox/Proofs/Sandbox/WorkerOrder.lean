import Mathlib.Data.List.Infix
import ScriptSandbox.Proofs.Sandbox.Browser
import ScriptSandbox.Proofs.Sandbox.Sequence

/-!
# The order of the jobs

A worker does what the sequence of its jobs says, one job at a time and in the order in which they
were accepted (`Worker.Follows`). Each move of the worker keeps it so, whatever the host has done
meanwhile (`Worker.Follows.step`), and so does all else that happens to a sandbox
(`Sandbox.follows_apply`).
-/

namespace ScriptSandbox

open Guest

/-- What a worker may have heard. -/
def Sequence.hears (q : Sequence) : Option (Ticket × HostReply) → Sequence
  | some (n, reply) => q.hear n reply
  | none => q

/-- One job more, if there is one. -/
def Sequence.adds (q : Sequence) : Option Job → Sequence
  | some j => q.add j
  | none => q

namespace Worker

/-- The job at hand, if there is one. -/
def hand (w : Worker) : List Ticket :=
  match w.activity with
  | .idle => []
  | .calling ticket _ _ | .lost ticket => [ticket]

/-- All jobs, those that have ended first, then those at hand, and then those in the queue. -/
def line (w : Worker) (hand : List Ticket) : List Ticket :=
  w.outcomes.reverse.map Outcome.ticket ++ hand ++ w.queue.map Prod.fst

/-- The jobs come in order, and have ended as they do in sequence. -/
structure Keeps (w : Worker) (q : Sequence) (hand : List Ticket) : Prop where
  accepted : w.accepted = q.jobs.length
  line : w.line hand = List.range q.jobs.length
  queued : ∀ n j, (n, j) ∈ w.queue → q.jobs[n]? = some j
  ended : ∀ o ∈ w.outcomes, ∃ r, q.task o.ticket = some (.done (o.result, r))
  unheard : ∀ n : Nat, w.outcomes.length + hand.length ≤ n → q.replies n = []

/-- A worker with nothing at hand has the realm on which the next job is to begin. The job at hand
is where its replies have brought it. -/
def AtHand (w : Worker) (q : Sequence) : Prop :=
  match w.activity with
  | .idle => q.realm w.outcomes.length = some w.realm
  | .calling ticket _ next => ∃ f args, q.task ticket = some (.call f args w.realm next)
  | .lost ticket => q.task ticket = some .endless

/-- A worker does its jobs in sequence. -/
structure Follows (w : Worker) (q : Sequence) : Prop where
  keeps : w.Keeps q w.hand
  atHand : w.AtHand q

variable {w w' : Worker} {q : Sequence} {h h' : HostSide} {j : Job} {n : Nat} {hand : List Ticket}
variable {task : GuestTask (JobResult × Realm)}

/-! ## Numbers -/

theorem Keeps.length_le (hk : w.Keeps q hand) :
    w.outcomes.length + hand.length ≤ q.jobs.length := by
  have := congrArg List.length hk.line
  simp only [Worker.line, List.length_append, List.length_map, List.length_reverse,
    List.length_range] at this
  omega

/-- The job at hand is the next after those that have ended. -/
theorem Keeps.hand_eq (hk : w.Keeps q [n]) : n = w.outcomes.length := by
  have hlt : w.outcomes.length < q.jobs.length := by
    have := hk.length_le
    simp only [List.length_singleton] at this
    omega
  have := congrArg (·[w.outcomes.length]?) hk.line
  simpa [Worker.line, hlt] using this

/-- The jobs that have ended are the first ones. -/
theorem Keeps.tickets (hk : w.Keeps q hand) :
    w.outcomes.reverse.map Outcome.ticket = List.range w.outcomes.length := by
  have hle : w.outcomes.length ≤ q.jobs.length :=
    Nat.le_trans (Nat.le_add_right ..) hk.length_le
  have hline := congrArg (List.take w.outcomes.length) hk.line
  rwa [Worker.line, List.append_assoc, List.take_left' (by simp), List.take_range,
    Nat.min_eq_left hle] at hline

theorem Keeps.ticket_lt (hk : w.Keeps q hand) {o : Outcome} (ho : o ∈ w.outcomes) :
    o.ticket < w.outcomes.length := by
  have hmem : o.ticket ∈ w.outcomes.reverse.map Outcome.ticket :=
    List.mem_map.2 ⟨o, List.mem_reverse.2 ho, rfl⟩
  rwa [hk.tickets, List.mem_range] at hmem

/-! ## More jobs, more replies -/

theorem Keeps.accept (hk : w.Keeps q hand) (j : Job) : (w.accept j).1.Keeps (q.add j) hand where
  accepted := by
    show w.accepted + 1 = (q.jobs ++ [j]).length
    rw [hk.accepted, List.length_append, List.length_singleton]
  line := by
    show w.outcomes.reverse.map Outcome.ticket ++ hand ++ (w.queue ++ [(w.accepted, j)]).map _ =
      List.range (q.jobs ++ [j]).length
    rw [List.length_append, List.length_singleton, List.range_succ, ← hk.line, hk.accepted,
      List.map_append, ← List.append_assoc]
    rfl
  queued n j' hmem := by
    show (q.jobs ++ [j])[n]? = some j'
    rcases List.mem_append.1 hmem with hold | hnew
    · have := hk.queued n j' hold
      rwa [List.getElem?_append_left (List.getElem?_eq_some_iff.1 this).1]
    · obtain ⟨rfl, rfl⟩ : n = w.accepted ∧ j' = j := by simpa using hnew
      rw [hk.accepted]
      simp
  ended o ho := by
    have hle : w.outcomes.length ≤ q.jobs.length :=
      Nat.le_trans (Nat.le_add_right ..) hk.length_le
    rw [← (Sequence.agreeBelow_add j).task (Nat.lt_of_lt_of_le (hk.ticket_lt ho) hle)]
    exact hk.ended o ho
  unheard := hk.unheard

theorem Keeps.hear (hk : w.Keeps q [n]) (reply : HostReply) : w.Keeps (q.hear n reply) [n] where
  accepted := hk.accepted
  line := hk.line
  queued := hk.queued
  ended o ho := by
    have hlt := hk.ticket_lt ho
    rw [← (Sequence.agreeBelow_hear n reply).task (hk.hand_eq ▸ hlt)]
    exact hk.ended o ho
  unheard m hm := by
    have hn := hk.hand_eq
    simp only [List.length_singleton] at hm
    rw [Sequence.hear_replies_of_ne reply (by omega)]
    exact hk.unheard m hm

/-- A job that has been accepted changes nothing for those before it. -/
theorem Follows.accept (hw : w.Follows q) (j : Job) : (w.accept j).1.Follows (q.add j) where
  keeps := hw.keeps.accept j
  atHand := by
    have hkeeps := hw.keeps
    have hhand := hw.atHand
    unfold AtHand at hhand ⊢
    unfold Worker.hand at hkeeps
    rw [show (w.accept j).1.activity = w.activity from rfl]
    have same {ticket : Ticket} (hk : w.Keeps q [ticket]) :
        q.task ticket = (q.add j).task ticket := by
      refine (Sequence.agreeBelow_add j).task ?_
      have := hk.length_le
      simp only [List.length_singleton] at this
      rw [hk.hand_eq]
      omega
    split at hhand <;> rename_i hact <;> simp only [hact] at hkeeps ⊢
    · have hle : w.outcomes.length ≤ q.jobs.length := hkeeps.length_le
      rw [show (w.accept j).1.outcomes = w.outcomes from rfl,
        ← ((Sequence.agreeBelow_add j).mono hle).realm]
      exact hhand
    · rw [← same hkeeps]
      exact hhand
    · rw [← same hkeeps]
      exact hhand

/-! ## Moves -/

/-- A job that is taken up comes to its end or to its next call. -/
theorem Keeps.takeUp (hk : w.Keeps q [n]) (ht : q.task n = some task) :
    (w.takeUp h n task).2.Follows q := by
  have hn := hk.hand_eq
  cases task with
  | done x =>
    obtain ⟨result, realm⟩ := x
    refine ⟨⟨hk.accepted, ?_, hk.queued, ?_, ?_⟩, ?_⟩
    · rw [← hk.line]
      simp [Worker.takeUp, Worker.line, Worker.hand]
    · intro o ho
      rcases List.mem_cons.1 ho with rfl | ho
      · exact ⟨realm, ht⟩
      · exact hk.ended o ho
    · intro m hm
      exact hk.unheard m (by simpa [Worker.takeUp, Worker.hand] using hm)
    · show q.realm (w.outcomes.length + 1) = some realm
      rw [← hn]
      exact Sequence.realm_succ_of_done ht
  | call f args realm next =>
    exact ⟨⟨hk.accepted, hk.line, hk.queued, hk.ended, hk.unheard⟩, f, args, ht⟩
  | endless => exact ⟨⟨hk.accepted, hk.line, hk.queued, hk.ended, hk.unheard⟩, ht⟩

/-- What a worker takes up is what is left of its job in sequence, after what it has just heard. -/
theorem Follows.ready (hw : w.Follows q) (hr : w.ready h = some (h', w', n, task)) :
    w'.Keeps (q.hears (w.heard h)) [n] ∧ (q.hears (w.heard h)).task n = some task := by
  have hkeeps := hw.keeps
  have hhand := hw.atHand
  unfold Worker.ready at hr
  unfold AtHand at hhand
  unfold Worker.hand at hkeeps
  split at hr <;> rename_i hact <;> simp only [hact] at hhand hkeeps
  · have hheard : w.heard h = none := by simp only [heard, hact]
    rw [hheard]
    split at hr
    · simp at hr
    · rename_i ticket job queue hqueue
      obtain ⟨-, rfl, rfl, rfl⟩ : h = h' ∧ { w with queue } = w' ∧ ticket = n ∧
        job.action w.realm = task := by simpa using hr
      have hk : ({ w with queue } : Worker).Keeps q [ticket] := by
        refine ⟨hkeeps.accepted, ?_, fun m j hmem => hkeeps.queued m j ?_, hkeeps.ended, ?_⟩
        · rw [← hkeeps.line]
          simp [Worker.line, hqueue]
        · rw [hqueue]
          exact List.mem_cons_of_mem _ hmem
        · intro m hm
          refine hkeeps.unheard m ?_
          simp only [List.length_singleton, List.length_nil] at hm ⊢
          omega
      refine ⟨hk, ?_⟩
      have hn : ticket = w.outcomes.length := hk.hand_eq
      have hjob := hkeeps.queued ticket job (by rw [hqueue]; exact List.mem_cons_self)
      have hnone : q.replies ticket = [] := hkeeps.unheard ticket (Nat.le_of_eq hn.symm)
      show q.task ticket = _
      rw [Sequence.task_eq_some (by rw [hn]; exact hhand) hjob, hnone]
      rfl
  · rename_i ticket u next
    split at hr
    · rename_i h₁ a hpoll
      have hheard : w.heard h = some (ticket, h₁.replyOf a) := by simp only [heard, hact, hpoll]
      obtain ⟨-, rfl, rfl, rfl⟩ : _ ∧ w = w' ∧ ticket = n ∧ _ = task := by simpa using hr
      obtain ⟨f, args, htask⟩ := hhand
      rw [hheard]
      refine ⟨hkeeps.hear _, ?_⟩
      show (q.hear ticket (h₁.replyOf a)).task ticket = _
      rw [Sequence.task_hear htask, GuestTask.hear, ← HostSide.deliver_snd]
    · simp at hr
  · simp at hr

theorem Follows.step (hw : w.Follows q) (hs : w.step h = some (h', w')) :
    w'.Follows (q.hears (w.heard h)) := by
  obtain ⟨⟨h₁, w₁, n, task⟩, hr, heq⟩ := Option.map_eq_some_iff.1 hs
  obtain ⟨hk, ht⟩ := hw.ready hr
  have := hk.takeUp (h := h₁) ht
  rwa [show w₁.takeUp h₁ n task = (h', w') from heq] at this

/-- A worker that makes no move hears nothing. -/
theorem heard_of_step_eq_none (hs : w.step h = none) : w.heard h = none := by
  rw [Worker.step, Option.map_eq_none_iff] at hs
  unfold Worker.ready at hs
  unfold heard
  split at hs <;> rename_i hact
  · simp only [hact]
  · split at hs <;> rename_i hpoll
    · simp at hs
    · simp only [hact, hpoll]
  · simp only [hact]

theorem outcomes_of_ready (hr : w.ready h = some (h', w', n, task)) : w'.outcomes = w.outcomes := by
  unfold ready at hr
  split at hr
  · split at hr
    · simp at hr
    · obtain ⟨-, rfl, -⟩ : h = h' ∧ _ = w' ∧ _ := by simpa using hr
      rfl
  · split at hr
    · obtain ⟨-, rfl, -⟩ : _ ∧ w = w' ∧ _ := by simpa using hr
      rfl
    · simp at hr
  · simp at hr

/-- A job that has ended stays so. -/
theorem outcomes_step (hs : w.step h = some (h', w')) : w.outcomes <:+ w'.outcomes := by
  obtain ⟨⟨h₁, w₁, n, task⟩, hr, heq⟩ := Option.map_eq_some_iff.1 hs
  rw [← outcomes_of_ready hr]
  obtain rfl : (w₁.takeUp h₁ n task).2 = w' := congrArg Prod.snd heq
  cases task with
  | done x => exact List.suffix_cons ..
  | call | endless => exact List.suffix_rfl

/-- Every job before those at hand has ended. -/
theorem Keeps.exists_ended (hk : w.Keeps q hand) (hn : n < w.outcomes.length) :
    ∃ o ∈ w.outcomes, o.ticket = n := by
  have hmem : n ∈ w.outcomes.reverse.map Outcome.ticket := by
    rwa [hk.tickets, List.mem_range]
  obtain ⟨o, ho, hticket⟩ := List.mem_map.1 hmem
  exact ⟨o, List.mem_reverse.1 ho, hticket⟩

/-- So many jobs have ended, and nothing is at hand. -/
def IdleAfter (w : Worker) (n : Nat) : Prop :=
  w.outcomes.length = n ∧
    match w.activity with
    | .idle => True
    | _ => False

instance (w : Worker) (n : Nat) : Decidable (w.IdleAfter n) :=
  match h : w.activity with
  | .idle => decidable_of_iff (w.outcomes.length = n) (by simp [IdleAfter, h])
  | .calling .. | .lost _ => isFalse (by simp [IdleAfter, h])

/-- A job is taken up when its turn has come, on the realm that the jobs before it have left. -/
theorem Follows.ready_of_idleAfter (hw : w.Follows q) (hi : w.IdleAfter n)
    (hj : q.jobs[n]? = some j) (h : HostSide) :
    ∃ queue, w.ready h = some (h, { w with queue }, n, j.action w.realm) := by
  obtain ⟨rfl, hidle⟩ := hi
  have hkeeps := hw.keeps
  unfold Worker.hand at hkeeps
  split at hidle
  · rename_i hact
    simp only [hact] at hkeeps
    cases hqueue : w.queue with
    | nil =>
      have hlength := congrArg List.length hkeeps.line
      simp only [Worker.line, hqueue, List.map_nil, List.append_nil, List.length_map,
        List.length_reverse, List.length_range] at hlength
      exact absurd hlength (Nat.ne_of_lt (List.getElem?_eq_some_iff.1 hj).1)
    | cons a queue =>
      obtain ⟨ticket, job⟩ := a
      have hready : w.ready h = some (h, { w with queue }, ticket, job.action w.realm) := by
        simp only [Worker.ready, hact, hqueue]
      obtain rfl : ticket = w.outcomes.length := (hw.ready hready).1.hand_eq
      have hjob := hkeeps.queued _ job (by rw [hqueue]; exact List.mem_cons_self)
      obtain rfl : job = j := Option.some.inj (hjob.symm.trans hj)
      exact ⟨queue, hready⟩
  · exact hidle.elim

/-- A worker whose next job comes to its end on its own does that job with one move. -/
theorem Follows.step_of_done (hw : w.Follows q) {x : JobResult × Realm}
    (ht : q.task w.outcomes.length = some (.done x)) (hlt : w.outcomes.length < q.jobs.length)
    (h : HostSide) : ∃ w', w.step h = some (h, w') ∧ w'.outcomes.length = w.outcomes.length + 1 := by
  have hkeeps := hw.keeps
  have hhand := hw.atHand
  unfold Worker.hand at hkeeps
  unfold AtHand at hhand
  split at hhand <;> rename_i hact <;> simp only [hact] at hkeeps
  · obtain ⟨queue, hready⟩ :=
      hw.ready_of_idleAfter ⟨rfl, by rw [hact]; trivial⟩ (List.getElem?_eq_getElem hlt) h
    have hheard : w.heard h = none := by simp only [heard, hact]
    have htask := (hw.ready hready).2
    rw [hheard] at htask
    have haction := Option.some.inj (htask.symm.trans ht)
    refine ⟨(({ w with queue } : Worker).takeUp h w.outcomes.length (.done x)).2, ?_, rfl⟩
    rw [Worker.step, hready, Option.map_some, haction]
    rfl
  · obtain ⟨f, args, hcall⟩ := hhand
    rw [hkeeps.hand_eq, ht] at hcall
    cases hcall
  · rw [hkeeps.hand_eq, ht] at hhand
    cases hhand

/-- An idle worker has the realm that the jobs so far leave in sequence. -/
theorem Follows.realm_of_idleAfter (hw : w.Follows q) (hi : w.IdleAfter n) :
    q.realm n = some w.realm := by
  obtain ⟨rfl, hidle⟩ := hi
  have hhand := hw.atHand
  unfold AtHand at hhand
  split at hidle
  · rename_i hact
    simpa only [hact] using hhand
  · exact hidle.elim

/-- A worker that has not done anything yet. -/
theorem follows_fresh (r : Realm) : ({ realm := r } : Worker).Follows ⟨r, [], fun _ => []⟩ where
  keeps := ⟨rfl, rfl, by simp, by simp, fun _ _ => rfl⟩
  atHand := rfl

end Worker

/-! ## Sandboxes -/

namespace Sandbox

variable {s s' : Sandbox} {e : Event} {j : Job} {q : Sequence}

theorem handIn_of_hasWorker (h : s.hasWorker = true) (j : Job) :
    s.handIn j = ({ s with worker := (s.worker.accept j).1 }, .ok s.worker.accepted) := by
  unfold handIn
  rw [if_pos h]
  rfl

theorem handIn_of_not_hasWorker (h : s.hasWorker = false) (j : Job) :
    s.handIn j = (s, .error closedFailure) := by
  unfold handIn
  rw [if_neg (by simp [h])]

theorem worker_of_stepClose {k : Nat} (h : s.stepClose k = some s') : s'.worker = s.worker := by
  unfold stepClose at h
  split at h
  · split at h <;> obtain rfl : _ = s' := by simpa using h
    all_goals rfl
  · obtain rfl : _ = s' := by simpa using h
    unfold stopBrowser
    split <;> rfl
  · split at h
    · obtain rfl : _ = s' := by simpa using h
      rfl
    · simp at h
  · obtain rfl : _ = s' := by simpa using h
    rfl
  · simp at h
  · simp at h

/-- An event that is about no job leaves the worker as it is. -/
theorem worker_apply (hsubmit : ∀ j, e ≠ .submit j) (hwork : e ≠ .work) :
    (s.apply e).worker = s.worker := by
  cases e with
  | submit j => exact absurd rfl (hsubmit j)
  | work => exact absurd rfl hwork
  | stepClose k =>
    show ((s.stepClose k).getD s).worker = s.worker
    cases h : s.stepClose k with
    | none => rfl
    | some s' => exact worker_of_stepClose h
  | moveHost | cancel | beginClose | browser | pass => rfl

/-- What an event does to the worker is what the jobs and the replies that come with it say. -/
theorem follows_apply (hw : s.worker.Follows q) (e : Event) :
    (s.apply e).worker.Follows ((q.adds (s.taken e)).hears (s.heard e)) := by
  cases e with
  | submit j =>
    show (s.submit j).1.worker.Follows (q.adds (s.taken (.submit j)))
    unfold taken
    dsimp only
    unfold submit
    split
    · exact hw
    · cases h : s.hasWorker with
      | true =>
        rw [handIn_of_hasWorker h]
        exact hw.accept j
      | false =>
        rw [handIn_of_not_hasWorker h]
        exact hw
  | work =>
    show (s.work.getD s).worker.Follows (q.hears (s.worker.heard s.host))
    cases hs : s.worker.step s.host with
    | none =>
      rw [Worker.heard_of_step_eq_none hs, work, hs]
      exact hw
    | some r =>
      rw [work, hs]
      exact hw.step hs
  | moveHost | cancel | beginClose | stepClose | browser | pass =>
    rw [worker_apply (by simp) (by simp)]
    exact hw

theorem outcomes_apply (s : Sandbox) (e : Event) :
    s.worker.outcomes <:+ (s.apply e).worker.outcomes := by
  cases e with
  | submit j =>
    show s.worker.outcomes <:+ (s.submit j).1.worker.outcomes
    unfold submit
    split
    · exact List.suffix_rfl
    · unfold handIn
      split <;> exact List.suffix_rfl
  | work =>
    show s.worker.outcomes <:+ (s.work.getD s).worker.outcomes
    cases hs : s.worker.step s.host with
    | none =>
      rw [work, hs]
      exact List.suffix_rfl
    | some r =>
      rw [work, hs]
      exact Worker.outcomes_step hs
  | moveHost | cancel | beginClose | stepClose | browser | pass =>
    rw [worker_apply (by simp) (by simp)]

theorem worker_of_create {canRun : Bool} {settings : Settings} {surroundings : Surroundings}
    {rehearsal : Rehearsal} (h : create canRun settings surroundings rehearsal = .ok s) :
    s.worker = { realm := s.worker.realm } := by
  obtain ⟨id, chance, host, realm, groups, rfl, -⟩ := eq_of_create h
  rfl

end Sandbox

end ScriptSandbox
