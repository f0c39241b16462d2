import ScriptSandbox.Proofs.Sandbox.Callers
import ScriptSandbox.Proofs.Sandbox.Closing

/-!
# Jobs in sequence

Callers who look, give up or have deadlines make no difference to the sandbox (`Service.plain_run`),
and once a sandbox is closed no call adds a job. So the jobs that are accepted, and what the host
answers, decide all that a worker ever does (`Service.jobs_in_sequence`).
-/

namespace ScriptSandbox

open Guest

/-! ## Callers make no difference -/

namespace Caller

/-- What a caller has been told, and at which moment. -/
def Place.told? : Place → Option (Nat × JobResult)
  | .returned _ m r => some (m, r)
  | _ => none

theorem Place.eq_of_told? {p : Place} {m : Nat} {r : JobResult} (h : p.told? = some (m, r)) :
    ∃ a, p = .returned a m r := by
  cases p with
  | returned a m' r' =>
    obtain ⟨rfl, rfl⟩ : m' = m ∧ r' = r := by simpa [told?] using h
    exact ⟨a, rfl⟩
  | arriving | entering | refused | waiting | gone => simp [told?] at h

/-- The caller as it would be if nobody looked at the time. -/
def plain (c : Caller) : Caller where
  job := c.job
  limit := none
  place :=
    match c.place with
    | .waiting a | .returned a _ _ | .gone a => .waiting { a with deadline := none }
    | p => p

theorem plain_look (c : Caller) (s : Sandbox) : (c.look s).plain = c.plain := by
  unfold look
  split
  · rename_i a ha
    split
    · simp only [plain, ha]
    · rfl
  · rfl

theorem plain_giveUp (c : Caller) : c.giveUp.plain = c.plain := by
  rcases giveUp_cases c with hc | ⟨a, ha, hc⟩ <;> rw [hc]
  simp only [plain, ha]

theorem plain_comp_plain : plain ∘ plain = plain := by
  funext c
  unfold plain
  rw [Function.comp_apply]
  cases c.place <;> rfl

end Caller

namespace Service

variable {t : Service} {k : Nat} {c : Caller}

/-- The service without all that callers know of the time. -/
def plain (t : Service) : Service := { t with callers := t.callers.map Caller.plain }

/-- The event, if it is one for which it does not matter how long anybody waits. -/
def Event.plain : Event → Option Event
  | .call j _ => some (.call j none)
  | .look _ | .giveUp _ => none
  | e => some e

theorem map_plain_modify (l : List Caller) (k : Nat) {f : Caller → Caller}
    (hf : ∀ c, (f c).plain = c.plain) : (l.modify k f).map Caller.plain = l.map Caller.plain := by
  refine List.ext_getElem? fun j => ?_
  rw [List.getElem?_map, List.getElem?_map, List.getElem?_modify]
  split
  · show Option.map Caller.plain (Option.map f l[j]?) = _
    rw [Option.map_map, show Caller.plain ∘ f = Caller.plain from funext hf]
  · simp

theorem plain_putCaller (t : Service) (k : Nat) (c : Caller) :
    (t.putCaller k c).plain = t.plain.putCaller k c.plain := by
  simp only [plain, putCaller, List.map_set]

theorem plain_plain (t : Service) : t.plain.plain = t.plain := by
  simp only [plain, List.map_map, Caller.plain_comp_plain]

theorem plain_step (t : Service) (k : Nat) : (t.step k).plain = (t.plain.step k).plain := by
  have hk : t.plain.callers[k]? = t.callers[k]?.map Caller.plain := List.getElem?_map ..
  cases hc : t.callers[k]? with
  | none =>
    rw [hc] at hk
    simp only [step, hc, hk, Option.map_none, plain_plain]
  | some c =>
    obtain ⟨job, limit, place⟩ := c
    rw [hc] at hk
    cases place with
    | arriving =>
      simp only [step, hc, hk, Option.map_some, Caller.plain, plain_putCaller, plain_plain]
      rfl
    | entering =>
      cases hw : t.sandbox.hasWorker with
      | true =>
        simp only [step, hc, hk, Option.map_some, Caller.plain, plain_putCaller,
          Sandbox.handIn_of_hasWorker hw, show t.plain.sandbox = t.sandbox from rfl]
        simp only [plain, List.map_map, Caller.plain_comp_plain]
      | false =>
        simp only [step, hc, hk, Option.map_some, Caller.plain, plain_putCaller, plain_plain,
          Sandbox.handIn_of_not_hasWorker hw, show t.plain.sandbox = t.sandbox from rfl]
    | refused | waiting | returned | gone =>
      simp only [step, hc, hk, Option.map_some, Caller.plain, plain_plain]

/-- What the service does is what it would do if nobody looked at the time. -/
theorem plain_apply (t : Service) (e : Event) :
    (t.apply e).plain =
      match e.plain with
      | some e' => (t.plain.apply e').plain
      | none => t.plain := by
  cases e with
  | call j limit =>
    show ({ t with callers := t.callers ++ [{ job := j, limit }] } : Service).plain = _
    simp only [Event.plain, apply, plain, List.map_append, List.map_map, Caller.plain_comp_plain]
    rfl
  | step k => exact plain_step t k
  | look k =>
    exact congrArg (fun l => { t with callers := l })
      (map_plain_modify t.callers k (Caller.plain_look · t.sandbox))
  | giveUp k =>
    exact congrArg (fun l => { t with callers := l })
      (map_plain_modify t.callers k Caller.plain_giveUp)
  | sandbox e =>
    show _ = (t.plain.apply (.sandbox e)).plain
    simp only [apply, plain, List.map_map, Caller.plain_comp_plain]

theorem plain_run (t : Service) (events : List Event) :
    (t.run events).plain =
      (events.filterMap Event.plain).foldl (fun t e => (t.apply e).plain) t.plain := by
  induction events generalizing t with
  | nil => rfl
  | cons e events ih =>
    show ((t.apply e).run events).plain = _
    rw [ih, plain_apply]
    cases he : e.plain with
    | none => rw [List.filterMap_cons_none he]
    | some e' => rw [List.filterMap_cons_some he, List.foldl_cons]

/-! ## Closed sandboxes -/

/-- The step of a call changes nothing of the sandbox but its worker. -/
theorem sandbox_step (t : Service) (k : Nat) :
    ∃ worker, (t.step k).sandbox = { t.sandbox with worker } := by
  have hcase := stepCase t k
  generalize t.step k = t' at hcase ⊢
  cases hcase with
  | still | put => exact ⟨t.sandbox.worker, rfl⟩
  | entered => exact ⟨_, rfl⟩

/-- What every move of a worker leaves as it is, and every event of a sandbox keeps, is kept by all
that happens to a service. -/
theorem run_induction {P : Sandbox → Prop} (h : P t.sandbox)
    (hworker : ∀ (s : Sandbox) (worker : Worker), P s → P { s with worker })
    (happly : ∀ (s : Sandbox) (e : Sandbox.Event), P s → P (s.apply e)) (events : List Event) :
    P (t.run events).sandbox := by
  induction events generalizing t with
  | nil => exact h
  | cons e events ih =>
    refine ih (t := t.apply e) ?_
    cases e with
    | step k =>
      obtain ⟨worker, hs⟩ := sandbox_step t k
      show P (t.step k).sandbox
      rw [hs]
      exact hworker _ worker h
    | sandbox e => exact happly _ e h
    | call | look | giveUp => exact h

theorem isClosed_run (hc : t.sandbox.isClosed = true) (events : List Event) :
    (t.run events).sandbox.isClosed = true :=
  run_induction (P := fun s => s.isClosed = true) hc (fun _ _ h => h)
    (fun _ e h => Sandbox.isClosed_apply h e) events

theorem shutInOrder_run (h : t.sandbox.ShutInOrder) (events : List Event) :
    (t.run events).sandbox.ShutInOrder :=
  run_induction h (fun _ _ h => ⟨h.begun, h.released⟩) (fun _ e h => h.apply e) events

/-! ## The steps of a call -/

theorem step_of_isClosed (hc : t.sandbox.isClosed = true) (hk : t.callers[k]? = some c)
    (hp : c.place = .arriving) :
    t.step k = t.putCaller k { c with place := .refused Sandbox.closedFailure } := by
  simp only [step, hk, hp, hc, if_true]

theorem step_of_not_isClosed (hc : t.sandbox.isClosed = false) (hk : t.callers[k]? = some c)
    (hp : c.place = .arriving) : t.step k = t.putCaller k { c with place := .entering } := by
  simp only [step, hk, hp, hc, Bool.false_eq_true, if_false]

theorem step_of_hasWorker (hw : t.sandbox.hasWorker = true) (hk : t.callers[k]? = some c)
    (hp : c.place = .entering) :
    t.step k =
      { t with
        sandbox := { t.sandbox with worker := (t.sandbox.worker.accept c.job).1 }
        jobs := t.jobs ++ [c.job] }.putCaller k
        { c with place := .waiting
                  { ticket := t.sandbox.worker.accepted
                    deadline := c.limit.map t.sandbox.deadline } } := by
  simp only [step, hk, hp, Sandbox.handIn_of_hasWorker hw]

theorem step_of_not_hasWorker (hw : t.sandbox.hasWorker = false) (hk : t.callers[k]? = some c)
    (hp : c.place = .entering) :
    t.step k = t.putCaller k { c with place := .refused Sandbox.closedFailure } := by
  simp only [step, hk, hp, Sandbox.handIn_of_not_hasWorker hw]

/-- A call that nobody comes between hands its job in and waits as one. -/
theorem step_step_eq_await (hk : t.callers[k]? = some c) (hp : c.place = .arriving) :
    ((t.step k).step k).sandbox = (t.sandbox.await c.job c.limit).1 ∧
      ((t.step k).step k).callers[k]? = some { c with
        place := match (t.sandbox.await c.job c.limit).2 with
          | .ok a => .waiting a
          | .error f => .refused f } := by
  unfold Sandbox.await Sandbox.submit
  cases hc : t.sandbox.isClosed with
  | true =>
    have hk' := caller_putCaller hk { c with place := .refused Sandbox.closedFailure }
    rw [step_of_isClosed hc hk hp, step, hk', if_pos rfl]
    exact ⟨rfl, hk'⟩
  | false =>
    have hk' := caller_putCaller hk { c with place := .entering }
    rw [step_of_not_isClosed hc hk hp, if_neg (by simp)]
    cases hw : t.sandbox.hasWorker with
    | true =>
      rw [step_of_hasWorker (t := t.putCaller k _) hw hk' rfl, Sandbox.handIn_of_hasWorker hw]
      exact ⟨rfl, caller_putCaller hk' _⟩
    | false =>
      rw [step_of_not_hasWorker (t := t.putCaller k _) hw hk' rfl,
        Sandbox.handIn_of_not_hasWorker hw]
      exact ⟨rfl, caller_putCaller hk' _⟩

/-! ## All together -/

/-- However calls, looks, the worker, the host, cancellations and closes follow each other:

* the worker does the jobs in sequence: in the order in which they have been accepted, each once,
  one at a time, and each on the realm that the complete jobs before it have left;
* what a caller has been told is that all work has been cancelled, that its time is over, or what
  its own job has come to in sequence, and no two callers wait for the same job;
* had the callers had other deadlines, looked at other times or given up elsewhere, the sandbox
  would be the same;
* where the first jobs and what they have heard are the same, so are the realm that they leave and
  their results;
* once all work is cancelled or a call that closes the sandbox has begun, a call that arrives is
  refused as cancelled and adds no job. -/
theorem jobs_in_sequence {canRun : Bool} {settings : Settings} {surroundings : Surroundings}
    {rehearsal : Rehearsal} {s₀ : Sandbox}
    (h₀ : Sandbox.create canRun settings surroundings rehearsal = .ok s₀) (events : List Event) :
    let t := (of s₀).run events
    let q := t.sequence s₀.worker.realm
    t.sandbox.worker.Follows q ∧
    (∀ (k : Nat) (c : Caller) (a : Awaited) (m : Nat) (r : JobResult),
      t.callers[k]? = some c → c.place = .returned a m r →
      t.jobs[a.ticket]? = some c.job ∧
      (r = .error Sandbox.closedMeanwhile ∨
        (∃ d, a.deadline = some d ∧ r = .error (.timedOut d.limit)) ∨
        ∃ realm, q.task a.ticket = some (.done (r, realm)))) ∧
    (∀ (k k' : Nat) (c c' : Caller) (a a' : Awaited), t.callers[k]? = some c →
      t.callers[k']? = some c' → c.place.awaited? = some a → c'.place.awaited? = some a' →
      a.ticket = a'.ticket → k = k') ∧
    (∀ events' : List Event, events'.filterMap Event.plain = events.filterMap Event.plain →
      let t' := (of s₀).run events'
      t'.sandbox = t.sandbox ∧ t'.jobs = t.jobs ∧ t'.replies = t.replies) ∧
    (∀ (events' : List Event) (n : Nat),
      let t' := (of s₀).run events'
      q.AgreeBelow (t'.sequence s₀.worker.realm) n →
      (t.sandbox.worker.IdleAfter n → t'.sandbox.worker.IdleAfter n →
        t.sandbox.worker.realm = t'.sandbox.worker.realm) ∧
      ∀ o ∈ t.sandbox.worker.outcomes, ∀ o' ∈ t'.sandbox.worker.outcomes,
        o.ticket = o'.ticket → o.ticket < n → o.result = o'.result) ∧
    ((t.sandbox.host.isCancelled = true ∨ ∃ (i : Nat) (c : CloseCall),
        t.sandbox.closings[i]? = some c ∧ c ≠ .arriving) →
      ∀ (later : List Event) (k : Nat) (c : Caller),
      ((of s₀).run (events ++ later)).callers[k]? = some c → c.place = .arriving →
      ((of s₀).run (events ++ later)).apply (.step k) =
        ((of s₀).run (events ++ later)).putCaller k
          { c with place := .refused Sandbox.closedFailure }) ∧
    Sandbox.closedFailure.code = .cancelled := by
  intro t q
  have ht : t.InOrder s₀.worker.realm := (inOrder_of_create h₀).run events
  refine ⟨ht.follows, fun k c a m r hk hc => ⟨?_, ?_⟩, ht.apart, fun events' he => ?_,
    fun events' n => ?_, fun hover later k c hk hc => ?_, rfl⟩
  · exact ht.own k c a hk (by rw [hc]; rfl)
  · refine (ht.told k c a m r hk hc).imp_right (Or.imp_right ?_)
    rintro ⟨o, ho, hticket, rfl⟩
    rw [← hticket]
    exact ht.follows.keeps.ended o ho
  · have hplain : t.plain = ((of s₀).run events').plain := by
      rw [show t.plain = _ from plain_run (of s₀) events, plain_run, he]
    injection hplain with hsandbox _ hjobs hreplies
    exact ⟨hsandbox.symm, hjobs.symm, hreplies.symm⟩
  · intro t' hagree
    have ht' : t'.InOrder s₀.worker.realm := (inOrder_of_create h₀).run events'
    refine ⟨fun hidle hidle' => ?_, fun o ho o' ho' hticket hlt => ?_⟩
    · have := hagree.realm
      rw [ht.follows.realm_of_idleAfter hidle, ht'.follows.realm_of_idleAfter hidle'] at this
      exact Option.some.inj this
    · obtain ⟨r, hr⟩ := ht.follows.keeps.ended o ho
      obtain ⟨r', hr'⟩ := ht'.follows.keeps.ended o' ho'
      rw [hagree.task hlt, hticket, hr'] at hr
      simpa using (congrArg Prod.fst (GuestTask.done.inj (Option.some.inj hr))).symm
  · have hclosed : t.sandbox.isClosed = true := by
      have hshut : t.sandbox.ShutInOrder :=
        shutInOrder_run (t := of s₀) (Sandbox.shutInOrder_of_create h₀) events
      unfold Sandbox.isClosed
      rw [Bool.or_eq_true]
      exact hover.symm.imp_left fun ⟨i, c, hi, hc⟩ => hshut.begun i c hi hc
    have hlater : ((of s₀).run (events ++ later)).sandbox.isClosed = true := by
      rw [run_append]
      exact isClosed_run hclosed later
    exact step_of_isClosed hlater hk hc

/-- The first caller's time is over long before its script is. The second caller waits for its turn,
and when both jobs have ended all work is cancelled. -/
def lateCaller : List Event :=
  [.call (.eval "sleep(10); var x = 7; 1") (some 5), .step 0, .step 0, .call (.get "x") none, .step 1,
    .step 1, .sandbox .work, .sandbox (.pass 5), .look 0, .sandbox (.pass 5), .sandbox .work,
    .sandbox .work, .look 1, .sandbox .cancel]

/-- The second caller gets what the script has left of which the first has heard nothing. -/
theorem jobs_in_sequence_lateCaller :
    ∃ s₀ : Sandbox, Sandbox.create true {} { files := ⟨[]⟩ } {} = .ok s₀ ∧
      let t := (of s₀).run lateCaller
      let late := (of s₀).run (lateCaller ++ [.call (.get "x") none])
      ∃ (c c' : Caller) (a a' : Awaited), t.callers = [c, c'] ∧
        c.place = .returned a 5 (.error (.timedOut 5)) ∧
        c'.place = .returned a' 10 (.ok (some (.nat 7))) ∧
        t.sandbox.worker.outcomes.length = 2 ∧
        t.sandbox.worker.Follows (t.sequence s₀.worker.realm) ∧
        t.jobs[a.ticket]? = some c.job ∧ t.jobs[a'.ticket]? = some c'.job ∧
        late.apply (.step 2) =
          late.putCaller 2 ⟨.get "x", none, .refused Sandbox.closedFailure⟩ := by
  have run : Sandbox.passes (Sandbox.create true {} { files := ⟨[]⟩ } {}) (fun s =>
      let t := (of s).run lateCaller
      t.sandbox.host.isCancelled && decide (t.sandbox.worker.outcomes.length = 2) &&
        decide (t.callers.map (·.place.told?) =
          [some (5, .error (.timedOut 5)), some (10, .ok (some (.nat 7)))])) = true := by
    decide +kernel
  obtain ⟨s₀, h, hchecked⟩ := Sandbox.exists_of_passes run
  obtain ⟨⟨hcancelled, houtcomes⟩, hplaces⟩ := by
    simpa only [Bool.and_eq_true, decide_eq_true_eq] using hchecked
  obtain ⟨hfollows, htold, -, -, -, hrefused, -⟩ := jobs_in_sequence h lateCaller
  obtain ⟨c, rest, hcallers, hc, hrest⟩ := List.map_eq_cons_iff.1 hplaces
  obtain ⟨c', rest, rfl, hc', hnil⟩ := List.map_eq_cons_iff.1 hrest
  obtain rfl : rest = [] := List.map_eq_nil_iff.1 hnil
  obtain ⟨a, ha⟩ := Caller.Place.eq_of_told? hc
  obtain ⟨a', ha'⟩ := Caller.Place.eq_of_told? hc'
  refine ⟨s₀, h, c, c', a, a', hcallers, ha, ha', houtcomes, hfollows, ?_, ?_, ?_⟩
  · exact (htold 0 c a 5 _ (by rw [hcallers]; rfl) ha).1
  · exact (htold 1 c' a' 10 _ (by rw [hcallers]; rfl) ha').1
  · refine hrefused (.inl hcancelled) _ 2 ⟨.get "x", none, .arriving⟩ ?_ rfl
    rw [run_append]
    show (((of s₀).run lateCaller).callers ++ [_])[2]? = _
    rw [hcallers]
    rfl

end Service

end ScriptSandbox
