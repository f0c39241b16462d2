import ScriptSandbox.Proofs.Sandbox.WorkerOrder

/-!
# Callers side by side

However the calls of a sandbox interleave, its worker does the jobs in sequence, and each caller
hears of its own job only (`Service.InOrder`).
-/

namespace ScriptSandbox

open Guest

/-! ## What a caller learns -/

/-- What a caller waits for, or has waited for. -/
def Caller.Place.awaited? : Caller.Place → Option Awaited
  | .waiting a | .returned a _ _ | .gone a => some a
  | .arriving | .entering | .refused _ => none

/-- A caller who waits can be told this: that all work has been cancelled, that its time is over, or
what its own job has come to. -/
def Sandbox.Tells (s : Sandbox) (a : Awaited) (r : JobResult) : Prop :=
  r = .error closedMeanwhile ∨
  (∃ d, a.deadline = some d ∧ r = .error (.timedOut d.limit)) ∨
  ∃ o ∈ s.worker.outcomes, o.ticket = a.ticket ∧ o.result = r

theorem Worker.outcome_of_result? {w : Worker} {n : Ticket} {r : JobResult}
    (h : w.result? n = some r) : ∃ o ∈ w.outcomes, o.ticket = n ∧ o.result = r := by
  obtain ⟨o, ho, rfl⟩ := Option.map_eq_some_iff.1 h
  exact ⟨o, List.mem_of_find?_eq_some ho, by simpa using List.find?_some ho, rfl⟩

theorem Sandbox.tells_of_learns {s : Sandbox} {a : Awaited} {r : JobResult}
    (h : s.learns a = some r) : s.Tells a r := by
  unfold learns at h
  split at h
  · exact .inl (by simpa using h.symm)
  · split at h
    · rename_i r' hr
      obtain rfl : r' = r := by simpa using h
      exact .inr (.inr (Worker.outcome_of_result? hr))
    · rename_i d _ hd
      obtain ⟨-, rfl⟩ : _ ∧ _ = r := by simpa using h
      exact .inr (.inl ⟨d, hd, rfl⟩)
    · simp at h

theorem Sandbox.Tells.mono {s s' : Sandbox} {a : Awaited} {r : JobResult} (h : s.Tells a r)
    (ho : s.worker.outcomes <:+ s'.worker.outcomes) : s'.Tells a r := by
  refine h.imp_right (Or.imp_right ?_)
  rintro ⟨o, hmem, hr⟩
  exact ⟨o, ho.subset hmem, hr⟩

namespace Caller

theorem look_job (c : Caller) (s : Sandbox) : (c.look s).job = c.job := by
  unfold look
  split
  · split <;> rfl
  · rfl

theorem look_awaited (c : Caller) (s : Sandbox) :
    (c.look s).place.awaited? = c.place.awaited? := by
  unfold look
  split
  · rename_i a ha
    split
    · rw [ha]
      rfl
    · rfl
  · rfl

theorem look_told {c : Caller} {s : Sandbox} {a : Awaited} {m : Nat} {r : JobResult}
    (h : (c.look s).place = .returned a m r) : c.place = .returned a m r ∨ s.Tells a r := by
  unfold look at h
  split at h
  · split at h
    · rename_i a' _ _ r' hr
      obtain ⟨rfl, -, rfl⟩ : a' = a ∧ _ ∧ r' = r := by simpa using h
      exact .inr (Sandbox.tells_of_learns hr)
    · exact .inl h
  · exact .inl h

theorem giveUp_cases (c : Caller) :
    c.giveUp = c ∨ ∃ a, c.place = .waiting a ∧ c.giveUp = { c with place := .gone a } := by
  unfold giveUp
  split
  · rename_i a ha
    exact .inr ⟨a, ha, rfl⟩
  · exact .inl rfl

end Caller

namespace Service

variable {t t' : Service} {e : Event} {k i : Nat} {c : Caller} {first : Realm}

def of (s : Sandbox) : Service := { sandbox := s }

theorem run_append (t : Service) (before later : List Event) :
    t.run (before ++ later) = (t.run before).run later := List.foldl_append

/-- The jobs that have been accepted, and what they have heard. -/
def sequence (t : Service) (first : Realm) : Sequence where
  first
  jobs := t.jobs
  replies n := (t.replies.filter (·.1 == n)).map Prod.snd

theorem sequence_adds (t : Service) (first : Realm) (j : Option Job)
    (reply : Option (Ticket × HostReply)) :
    ({ t with jobs := t.jobs ++ j.toList, replies := t.replies ++ reply.toList } :
        Service).sequence first = ((t.sequence first).adds j).hears reply := by
  have hjobs : ({ t with jobs := t.jobs ++ j.toList } : Service).sequence first =
      (t.sequence first).adds j := by
    cases j with
    | none => simp [sequence, Sequence.adds]
    | some j => rfl
  rw [← hjobs]
  cases reply with
  | none => simp [sequence, Sequence.hears]
  | some x =>
    obtain ⟨n, reply⟩ := x
    simp only [Sequence.hears, Sequence.hear, sequence, Sequence.mk.injEq, true_and]
    funext m
    by_cases hm : m = n
    · subst hm
      simp
    · rw [Function.update_of_ne hm]
      simp [Ne.symm hm]

/-! ## Order -/

/-- The worker does the jobs in sequence. Each caller who has handed in a job waits for this one and
nobody else does, and what a caller has been told is what it can be told. -/
structure InOrder (t : Service) (first : Realm) : Prop where
  follows : t.sandbox.worker.Follows (t.sequence first)
  own : ∀ (k : Nat) (c : Caller) (a : Awaited), t.callers[k]? = some c →
    c.place.awaited? = some a → t.jobs[a.ticket]? = some c.job
  apart : ∀ (k k' : Nat) (c c' : Caller) (a a' : Awaited), t.callers[k]? = some c →
    t.callers[k']? = some c' → c.place.awaited? = some a → c'.place.awaited? = some a' →
    a.ticket = a'.ticket → k = k'
  told : ∀ (k : Nat) (c : Caller) (a : Awaited) (m : Nat) (r : JobResult),
    t.callers[k]? = some c → c.place = .returned a m r → t.sandbox.Tells a r

/-- All that can change about who waits for what, if at most the caller `i` hands in a job. -/
structure Goes (t t' : Service) (i : Nat) : Prop where
  jobs : t.jobs <+: t'.jobs
  outcomes : t.sandbox.worker.outcomes <:+ t'.sandbox.worker.outcomes
  waits : ∀ (k : Nat) (c' : Caller) (a : Awaited), t'.callers[k]? = some c' →
    c'.place.awaited? = some a →
    (∃ c, t.callers[k]? = some c ∧ c.job = c'.job ∧ c.place.awaited? = some a) ∨
    (k = i ∧ a.ticket = t.jobs.length ∧ t'.jobs[a.ticket]? = some c'.job)
  told : ∀ (k : Nat) (c' : Caller) (a : Awaited) (m : Nat) (r : JobResult),
    t'.callers[k]? = some c' → c'.place = .returned a m r →
    (∃ c, t.callers[k]? = some c ∧ c.place = .returned a m r) ∨ t.sandbox.Tells a r

theorem InOrder.of_goes (h : t.InOrder first) (hg : Goes t t' i)
    (hf : t'.sandbox.worker.Follows (t'.sequence first)) : t'.InOrder first where
  follows := hf
  own k c' a hk ha := by
    rcases hg.waits k c' a hk ha with ⟨c, hc, hjob, hplace⟩ | ⟨-, -, hnew⟩
    · have hold := h.own k c a hc hplace
      obtain ⟨more, hmore⟩ := hg.jobs
      rw [← hmore, List.getElem?_append_left (List.getElem?_eq_some_iff.1 hold).1, hold, hjob]
    · exact hnew
  apart k k' c c' a a' hk hk' ha ha' heq := by
    have old {k : Nat} {c : Caller} {a : Awaited} (hk : t.callers[k]? = some c)
        (ha : c.place.awaited? = some a) : a.ticket < t.jobs.length :=
      (List.getElem?_eq_some_iff.1 (h.own k c a hk ha)).1
    rcases hg.waits k c a hk ha with ⟨d, hd, -, hplace⟩ | ⟨rfl, hnew, -⟩ <;>
      rcases hg.waits k' c' a' hk' ha' with ⟨d', hd', -, hplace'⟩ | ⟨rfl, hnew', -⟩
    · exact h.apart k k' d d' a a' hd hd' hplace hplace' heq
    · have := old hd hplace
      rw [heq, hnew'] at this
      exact absurd this (Nat.lt_irrefl _)
    · have := old hd' hplace'
      rw [← heq, hnew] at this
      exact absurd this (Nat.lt_irrefl _)
    · rfl
  told k c' a m r hk hc := by
    rcases hg.told k c' a m r hk hc with ⟨c, hk', hc'⟩ | htold
    · exact (h.told k c a m r hk' hc').mono hg.outcomes
    · exact htold.mono hg.outcomes

/-- Nothing happens to the jobs, and nobody is told anything. -/
theorem goes_of_callers (hs : t'.sandbox = t.sandbox) (hj : t'.jobs = t.jobs)
    (hc : ∀ (k : Nat) (c' : Caller), t'.callers[k]? = some c' →
      (∃ c, t.callers[k]? = some c ∧ c.job = c'.job ∧
        c.place.awaited? = c'.place.awaited? ∧
        ∀ a m r, c'.place = .returned a m r → c.place = .returned a m r ∨ t.sandbox.Tells a r) ∨
      c'.place.awaited? = none) : Goes t t' i where
  jobs := hj ▸ List.prefix_rfl
  outcomes := hs ▸ List.suffix_rfl
  waits k c' a hk ha := by
    rcases hc k c' hk with ⟨c, hk', hjob, haw, -⟩ | hnone
    · exact .inl ⟨c, hk', hjob, haw.trans ha⟩
    · rw [hnone] at ha
      simp at ha
  told k c' a m r hk hr := by
    rcases hc k c' hk with ⟨c, hk', -, -, htold⟩ | hnone
    · exact (htold a m r hr).imp_left fun h => ⟨c, hk', h⟩
    · rw [hr] at hnone
      simp [Caller.Place.awaited?] at hnone

/-- What the step of a call does. -/
inductive StepCase (t : Service) (k : Nat) : Service → Prop
  | still : StepCase t k t
  | put (c : Caller) (p : Caller.Place) (hk : t.callers[k]? = some c)
      (hp : c.place.awaited? = none) (hp' : p.awaited? = none) :
      StepCase t k (t.putCaller k { c with place := p })
  | entered (c : Caller) (hk : t.callers[k]? = some c) (hc : c.place = .entering)
      (hw : t.sandbox.hasWorker = true) :
      StepCase t k
        ({ t with
          sandbox := { t.sandbox with worker := (t.sandbox.worker.accept c.job).1 }
          jobs := t.jobs ++ [c.job] }.putCaller k
          { c with place := .waiting
                    { ticket := t.sandbox.worker.accepted
                      deadline := c.limit.map t.sandbox.deadline } })

theorem stepCase (t : Service) (k : Nat) : StepCase t k (t.step k) := by
  unfold step
  split
  · exact .still
  · rename_i c hk
    split
    · rename_i hc
      refine .put c _ hk (by rw [hc]; rfl) ?_
      split <;> rfl
    · rename_i hc
      cases hw : t.sandbox.hasWorker with
      | true =>
        rw [Sandbox.handIn_of_hasWorker hw]
        exact .entered c hk hc hw
      | false =>
        rw [Sandbox.handIn_of_not_hasWorker hw]
        exact .put c _ hk (by rw [hc]; rfl) rfl
    · exact .still

theorem caller_putCaller (hk : t.callers[k]? = some c) (c' : Caller) :
    (t.putCaller k c').callers[k]? = some c' :=
  List.getElem?_set_self (List.getElem?_eq_some_iff.1 hk).1

theorem callers_putCaller {c c' : Caller} (h : (t.putCaller i c).callers[k]? = some c') :
    k = i ∧ c' = c ∨ k ≠ i ∧ t.callers[k]? = some c' := by
  rw [putCaller] at h
  by_cases hk : k = i
  · subst hk
    have hlt : k < t.callers.length := by simpa using (List.getElem?_eq_some_iff.1 h).1
    rw [List.getElem?_set_self hlt] at h
    exact .inl ⟨rfl, by simpa using h.symm⟩
  · rw [List.getElem?_set_ne (Ne.symm hk)] at h
    exact .inr ⟨hk, h⟩

theorem InOrder.step (h : t.InOrder first) (k : Nat) : (t.step k).InOrder first := by
  have hcase := stepCase t k
  generalize t.step k = t' at hcase ⊢
  cases hcase with
  | still => exact h
  | put c p hk hp hp' =>
    refine h.of_goes (i := k) (goes_of_callers rfl rfl fun j c' hj => ?_) h.follows
    rcases callers_putCaller hj with ⟨rfl, rfl⟩ | ⟨-, hold⟩
    · exact .inr hp'
    · exact .inl ⟨c', hold, rfl, rfl, fun a m r hr => .inl hr⟩
  | entered c hk hc hw =>
    have hticket := h.follows.keeps.accepted
    refine h.of_goes (i := k) ⟨List.prefix_append .., List.suffix_rfl, ?_, ?_⟩
      (h.follows.accept c.job)
    · intro j c' a hj ha
      rcases callers_putCaller hj with ⟨rfl, rfl⟩ | ⟨-, hold⟩
      · refine .inr ⟨rfl, ?_, ?_⟩
        · rw [← Option.some.inj ha]
          exact hticket
        · rw [← Option.some.inj ha]
          show (t.jobs ++ [c.job])[t.sandbox.worker.accepted]? = _
          rw [hticket]
          exact List.getElem?_concat_length
      · exact .inl ⟨c', hold, rfl, ha⟩
    · intro j c' a m r hj hr
      rcases callers_putCaller hj with ⟨rfl, rfl⟩ | ⟨-, hold⟩
      · simp at hr
      · exact .inl ⟨c', hold, hr⟩

theorem InOrder.apply (h : t.InOrder first) (e : Event) : (t.apply e).InOrder first := by
  have look (k : Nat) {f : Caller → Caller} (hjob : ∀ c, (f c).job = c.job)
      (haw : ∀ c, (f c).place.awaited? = c.place.awaited?)
      (htold : ∀ c a m r, (f c).place = .returned a m r →
        c.place = .returned a m r ∨ t.sandbox.Tells a r) :
      ({ t with callers := t.callers.modify k f } : Service).InOrder first := by
    refine h.of_goes (i := k) (goes_of_callers rfl rfl fun j c' hj => .inl ?_) h.follows
    rw [List.getElem?_modify] at hj
    split at hj
    · obtain ⟨c, hc, rfl⟩ := Option.map_eq_some_iff.1 hj
      exact ⟨c, hc, (hjob c).symm, (haw c).symm, htold c⟩
    · exact ⟨c', by simpa using hj, rfl, rfl, fun a m r hr => .inl hr⟩
  cases e with
  | call j limit =>
    refine h.of_goes (i := 0) (goes_of_callers rfl rfl fun k c' hk => ?_) h.follows
    change (t.callers ++ [{ job := j, limit }])[k]? = some c' at hk
    rcases Nat.lt_or_ge k t.callers.length with hlt | hge
    · rw [List.getElem?_append_left hlt] at hk
      exact .inl ⟨c', hk, rfl, rfl, fun a m r hr => .inl hr⟩
    · rw [List.getElem?_append_right hge] at hk
      obtain rfl : c' = { job := j, limit } := by
        have := List.mem_of_getElem? hk
        simpa using this
      exact .inr rfl
  | step k => exact h.step k
  | look k =>
    exact look k (Caller.look_job · t.sandbox) (Caller.look_awaited · t.sandbox)
      fun c a m r => Caller.look_told
  | giveUp k =>
    refine look k (f := Caller.giveUp) (fun c => ?_) (fun c => ?_) fun c a m r hr => ?_
    · rcases Caller.giveUp_cases c with hc | ⟨a, -, hc⟩ <;> rw [hc]
    · rcases Caller.giveUp_cases c with hc | ⟨a, ha, hc⟩ <;> rw [hc]
      rw [ha]
      rfl
    · rcases Caller.giveUp_cases c with hc | ⟨a', -, hc⟩ <;> rw [hc] at hr
      · exact .inl hr
      · simp at hr
  | sandbox e =>
    refine h.of_goes (i := 0) ⟨List.prefix_append .., Sandbox.outcomes_apply .., ?_, ?_⟩ ?_
    · exact fun k c' a hk ha => .inl ⟨c', hk, rfl, ha⟩
    · exact fun k c' a m r hk hr => .inl ⟨c', hk, hr⟩
    · have := Sandbox.follows_apply h.follows e
      rwa [← sequence_adds] at this

theorem InOrder.run (h : t.InOrder first) (events : List Event) : (t.run events).InOrder first := by
  induction events generalizing t with
  | nil => exact h
  | cons e events ih => exact ih (h.apply e)

theorem inOrder_of_create {canRun : Bool} {settings : Settings} {surroundings : Surroundings}
    {rehearsal : Rehearsal} {s : Sandbox}
    (h : Sandbox.create canRun settings surroundings rehearsal = .ok s) :
    (of s).InOrder s.worker.realm where
  follows := by
    show s.worker.Follows _
    rw [Sandbox.worker_of_create h]
    exact Worker.follows_fresh _
  own k c a hk := by simp [of] at hk
  apart k k' c c' a a' hk := by simp [of] at hk
  told k c a m r hk := by simp [of] at hk

end Service

end ScriptSandbox
