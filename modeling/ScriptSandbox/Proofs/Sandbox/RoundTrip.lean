import ScriptSandbox.Proofs.Sandbox.Bound
import ScriptSandbox.Proofs.Sandbox.Callers

/-!
# Values through the guest

Jobs that set and get globals, and no others, one after the other: each comes to its end, and what a
job gets is what the last job before it has set (`Service.globals_round_trip`).
-/

namespace ScriptSandbox

open Guest

/-- A job that sets or gets a global. The value that it sets is not changed on the way. -/
inductive Job.Exchanges : Job → Prop
  | set {name : String} {value : Json} (hname : name ∉ ["JSON", "__proto__"])
      (hvalue : Json.Portable 100 value) : Exchanges (.set name value)
  | get {name : String} (hname : name ∉ ["JSON", "__proto__"]) : Exchanges (.get name)

namespace Sequence

/-- What the last of the first jobs that have set this global has set it to. -/
def latest (q : Sequence) (name : String) : Ticket → Option Json
  | 0 => none
  | n + 1 =>
    match q.jobs[n]?, q.task n with
    | some (.set other value), some (.done (.ok _, _)) =>
      if other = name then some value else q.latest name n
    | _, _ => q.latest name n

variable {q : Sequence} {n : Nat} {name : String} {r r' : Realm} {value : Json} {j : Job}

theorem latest_of_get (hj : q.jobs[n]? = some (.get name)) (other : String) :
    q.latest other (n + 1) = q.latest other n := by
  rw [latest, hj]

theorem latest_of_error {f : Failure} (ht : q.task n = some (.done (.error f, r))) (other : String) :
    q.latest other (n + 1) = q.latest other n := by
  rw [latest, ht]
  split <;> rename_i heq
  · simp at heq
  · rfl

theorem latest_of_ok {x : Option Json} (hj : q.jobs[n]? = some (.set name value))
    (ht : q.task n = some (.done (.ok x, r))) (other : String) :
    q.latest other (n + 1) = if name = other then some value else q.latest other n := by
  rw [latest, hj, ht]

/-- After so many jobs each global is what it has been set to, or as it was in the beginning. -/
structure Stands (q : Sequence) (n : Nat) (r : Realm) : Prop where
  realm : q.realm n = some r
  unscripted : r.Unscripted
  kept : ∀ name value, q.latest name n = some value → ∃ v e c,
    (r.obj Realm.globalId).own (Units.ofString name) = some ⟨.data v true, e, c⟩ ∧ r.Keeps value v
  same : ∀ name, q.latest name n = none →
    (r.obj Realm.globalId).own (Units.ofString name) =
      (q.first.obj Realm.globalId).own (Units.ofString name)

/-- Nothing can be assigned under this name: it is blank, or that of a global that cannot be written
to. -/
def Refuses (r : Realm) (name : String) : Prop :=
  Text.isBlankText name = true ∨
    ∃ v e c, (r.obj Realm.globalId).own (Units.ofString name) = some ⟨.data v false, e, c⟩

/-- What comes of a job that sets or gets a global: its result, and the realm that it leaves.

A global that is read leaves all as it is. If it has been set, then what it has been set to last is
the result; if not and there is no such global from the beginning, then there is none.

Where nothing can be assigned, a job that sets a global fails, and new objects are all that it
leaves. Otherwise the global is set, and no other global is another. -/
def Exchanged (q : Sequence) (n : Nat) (r : Realm) : Job → JobResult → Realm → Prop
  | .get name, result, r' => r' = r ∧
      (∀ value, q.latest name n = some value → result = .ok (some value)) ∧
      (q.latest name n = none → q.first.find Realm.globalId (Units.ofString name) = none →
        result = .ok none)
  | .set name value, result, r' =>
      (Refuses r name →
        (∃ f, result = .error f) ∧ r.Grown r' ∧ r'.obj Realm.globalId = r.obj Realm.globalId) ∧
      (¬ Refuses r name → result = .ok (some .null) ∧ r.Sets r' name value)
  | .eval _, _, _ | .scoped _ _ _, _, _ => False

end Sequence

namespace Guest.Realm.Unscripted

variable {r : Realm} {name : String}

/-- The constants are all that cannot be written to. -/
theorem not_writable_iff (h : r.Unscripted) :
    (∃ v e c, (r.obj globalId).own (Units.ofString name) = some ⟨.data v false, e, c⟩) ↔
      Units.ofString name ∈ constants.map Prod.fst := by
  constructor
  · rintro ⟨v, e, c, hown⟩
    by_contra hconstant
    obtain ⟨v', e', c', heq, -⟩ := h.fits _ _ hown hconstant
    cases heq
  · intro hconstant
    obtain ⟨a, ha, hname⟩ := List.mem_map.1 hconstant
    exact ⟨a.2, false, false, hname ▸ h.constant a ha⟩

end Guest.Realm.Unscripted

namespace Sequence

variable {q : Sequence} {n : Nat} {name : String} {r r' : Realm} {value : Json} {j : Job}

/-- A job that ends in an error leaves the globals as they stand. -/
theorem Stands.of_error (h : q.Stands n r) {f : Failure}
    (ht : q.task n = some (.done (.error f, r'))) (hg : r.Grown r') : q.Stands (n + 1) r' := by
  have hobj : r'.obj Realm.globalId = r.obj Realm.globalId := hg.obj h.unscripted.global_lt
  refine ⟨realm_succ_of_done ht, h.unscripted.of_grown hg, ?_, ?_⟩
  · intro name value hlatest
    rw [latest_of_error ht] at hlatest
    obtain ⟨v, e, c, hown, hkeeps⟩ := h.kept name value hlatest
    exact ⟨v, e, c, by rw [hobj, hown], hkeeps.of_keepsOthers hg.keepsOthers⟩
  · intro name hlatest
    rw [latest_of_error ht] at hlatest
    rw [hobj, h.same name hlatest]

/-- A global that has been set is what it has been set to. -/
theorem Stands.of_sets (h : q.Stands n r) {x : Option Json} (hj : q.jobs[n]? = some (.set name value))
    (ht : q.task n = some (.done (.ok x, r'))) (hr : r'.Unscripted) (hs : r.Sets r' name value) :
    q.Stands (n + 1) r' := by
  refine ⟨realm_succ_of_done ht, hr, ?_, ?_⟩
  · intro other value' hlatest
    rw [latest_of_ok hj ht] at hlatest
    split at hlatest
    · rename_i heq
      subst heq
      obtain rfl := Option.some.inj hlatest
      exact hs.found
    · rename_i hne
      obtain ⟨v, e, c, hown, hkeeps⟩ := h.kept other value' hlatest
      refine ⟨v, e, c, ?_, hkeeps.of_keepsOthers hs.others⟩
      rw [hs.own _ fun heq => hne (Units.ofString_injective heq).symm, hown]
  · intro other hlatest
    rw [latest_of_ok hj ht] at hlatest
    split at hlatest
    · cases hlatest
    · rename_i hne
      rw [hs.own _ fun heq => hne (Units.ofString_injective heq).symm, h.same other hlatest]

/-- What is read of a global is what it has been set to last, if it has been set. -/
theorem Stands.get (h : q.Stands n r) (hfirst : q.first.Unscripted)
    (hj : q.jobs[n]? = some (.get name)) :
    ∃ x, q.task n = some (.done (.ok x, r)) ∧ q.Exchanged n r (.get name) (.ok x) r := by
  have htask : ∀ x, getGlobal name r = .done (.ok x, r) → q.task n = some (.done (.ok x, r)) := by
    intro x hx
    rw [task_eq_some h.realm hj]
    show some (GuestTask.answered (getGlobal name r) _) = _
    rw [hx, GuestTask.answered_done]
  cases hfind : r.find Realm.globalId (Units.ofString name) with
  | none =>
    refine ⟨none, htask none (Realm.getGlobal_of_find_none hfind), rfl, ?_, fun _ _ => rfl⟩
    intro value hlatest
    obtain ⟨v, e, c, hown, -⟩ := h.kept name value hlatest
    rw [Realm.find_of_own hown] at hfind
    cases hfind
  | some p =>
    obtain ⟨v, w, e, c, x, rfl, hexported⟩ := h.unscripted.exported_of_find hfind
    refine ⟨some x, htask _ (Realm.getGlobal_of_find hfind hexported), rfl, ?_, ?_⟩
    · intro value hlatest
      obtain ⟨v', e', c', hown, hkeeps⟩ := h.kept name value hlatest
      rw [Realm.find_of_own hown] at hfind
      cases hfind
      rw [hkeeps.exported h.unscripted] at hexported
      cases hexported
      rfl
    · intro hlatest hnone
      have hown : (q.first.obj Realm.globalId).own (Units.ofString name) = none := by
        cases hown : (q.first.obj Realm.globalId).own (Units.ofString name) with
        | none => rfl
        | some p =>
          rw [Realm.find_of_own hown] at hnone
          cases hnone
      rw [hfirst.find_eq hown] at hnone
      rw [h.unscripted.find_eq ((h.same name hlatest).trans hown), hnone] at hfind
      cases hfind

theorem action_set_of_blank (hblank : Text.isBlankText name = true) (value : Json) (r : Realm) :
    (Job.set name value).action r =
      .done (.error (.invalidInput "global name must not be empty"), r) := by
  show (if Text.isBlankText name = true then _ else _ : GuestAction JobResult) r = _
  rw [if_pos hblank]
  rfl

theorem action_set_of_not_blank (hblank : Text.isBlankText name ≠ true) (value : Json) (r : Realm) :
    (Job.set name value).action r =
      (setGlobal name value r).bind fun x => .done (x.1.map fun _ => some .null, x.2) := by
  show (if Text.isBlankText name = true then _ else _ : GuestAction JobResult) r = _
  rw [if_neg hblank]
  rfl

/-- A global is set unless nothing can be assigned there. -/
theorem Stands.set (h : q.Stands n r) (hj : q.jobs[n]? = some (.set name value))
    (hvalue : Json.Portable 100 value) (hname : name ≠ "JSON") :
    ∃ result r', q.task n = some (.done (result, r')) ∧ q.Stands (n + 1) r' ∧
      q.Exchanged n r (.set name value) result r' := by
  have hrefuses : Refuses r name ↔ Text.isBlankText name = true ∨
      Units.ofString name ∈ Realm.constants.map Prod.fst := by
    unfold Refuses
    rw [h.unscripted.not_writable_iff]
  have htask : ∀ result r', (Job.set name value).action r = .done (result, r') →
      q.task n = some (.done (result, r')) := by
    intro result r' hx
    rw [task_eq_some h.realm hj, hx, GuestTask.answered_done]
  by_cases hblank : Text.isBlankText name = true
  · have ht := htask _ _ (action_set_of_blank hblank value r)
    exact ⟨_, r, ht, h.of_error ht (.refl r), fun _ => ⟨⟨_, rfl⟩, .refl r, rfl⟩,
      fun hnot => absurd (.inl hblank) hnot⟩
  · have haction := action_set_of_not_blank hblank value r
    by_cases hconstant : Units.ofString name ∈ Realm.constants.map Prod.fst
    · obtain ⟨f, r', hset, -, hgrown⟩ := h.unscripted.setGlobal_constant value hconstant
      rw [hset] at haction
      have ht := htask _ _ haction
      exact ⟨_, r', ht, h.of_error ht hgrown,
        fun _ => ⟨⟨f, rfl⟩, hgrown, hgrown.obj h.unscripted.global_lt⟩,
        fun hnot => absurd (hrefuses.2 (.inr hconstant)) hnot⟩
    · obtain ⟨r', hset, hr', hsets⟩ := h.unscripted.setGlobal_ok hvalue hname hconstant
      rw [hset] at haction
      have ht := htask _ _ haction
      exact ⟨_, r', ht, h.of_sets hj ht hr' hsets,
        fun hnot => absurd (hrefuses.1 hnot) (not_or.2 ⟨hblank, hconstant⟩), fun _ => ⟨rfl, hsets⟩⟩

/-- A job that sets or gets a global comes to its end, and the globals stand as they should. -/
theorem Stands.exchange (h : q.Stands n r) (hfirst : q.first.Unscripted) (hj : q.jobs[n]? = some j)
    (hex : j.Exchanges) : ∃ result r', q.task n = some (.done (result, r')) ∧ q.Stands (n + 1) r' ∧
      q.Exchanged n r j result r' := by
  cases hex with
  | @get name hname =>
    obtain ⟨x, htask, hx⟩ := h.get hfirst hj
    refine ⟨.ok x, r, htask, ⟨realm_succ_of_done htask, h.unscripted, ?_, ?_⟩, hx⟩
    · intro other value
      rw [latest_of_get hj]
      exact h.kept other value
    · intro other
      rw [latest_of_get hj]
      exact h.same other
  | @set name value hname hvalue => exact h.set hj hvalue (by rintro rfl; exact hname (by decide))

/-- However many globals are set and read, they stand as they should. -/
theorem exists_stands (hfirst : q.first.Unscripted)
    (hjobs : ∀ m < n, ∃ j, q.jobs[m]? = some j ∧ j.Exchanges) : ∃ r, q.Stands n r := by
  induction n with
  | zero => exact ⟨q.first, rfl, hfirst, fun _ _ hnone => (nomatch hnone), fun _ _ => rfl⟩
  | succ n ih =>
    obtain ⟨r, hr⟩ := ih fun m hm => hjobs m (Nat.lt_succ_of_lt hm)
    obtain ⟨j, hj, hex⟩ := hjobs n (Nat.lt_succ_self n)
    obtain ⟨result, r', -, hstands, -⟩ := hr.exchange hfirst hj hex
    exact ⟨r', hstands⟩

/-- A job that sets or gets a global comes to its end if all before it do no more than that. -/
theorem exists_exchanged (hfirst : q.first.Unscripted) (hj : q.jobs[n]? = some j)
    (hjobs : ∀ m ≤ n, ∀ j, q.jobs[m]? = some j → j.Exchanges) :
    ∃ r result r', q.realm n = some r ∧ q.task n = some (.done (result, r')) ∧
      q.realm (n + 1) = some r' ∧ q.Exchanged n r j result r' := by
  have hn : n < q.jobs.length := (List.getElem?_eq_some_iff.1 hj).1
  obtain ⟨r, hr⟩ := exists_stands (n := n) hfirst fun m hm =>
    have hm' := List.getElem?_eq_getElem (Nat.lt_trans hm hn)
    ⟨_, hm', hjobs m (Nat.le_of_lt hm) _ hm'⟩
  obtain ⟨result, r', htask, hstands, hex⟩ := hr.exchange hfirst hj (hjobs n (Nat.le_refl n) j hj)
  exact ⟨r, result, r', hr.realm, htask, hstands.realm, hex⟩

end Sequence

namespace Service

variable {t : Service} {first : Realm}

/-- With each move of the worker one more job has ended, as long as there are any. -/
theorem outcomes_run_work (ht : t.InOrder first) (hfirst : first.Unscripted)
    (hjobs : ∀ j ∈ t.jobs, j.Exchanges) {n : Nat}
    (hn : t.sandbox.worker.outcomes.length + n = t.jobs.length) :
    (t.run (List.replicate n (.sandbox .work))).InOrder first ∧
      (t.run (List.replicate n (.sandbox .work))).jobs = t.jobs ∧
      (t.run (List.replicate n (.sandbox .work))).sandbox.worker.outcomes.length =
        t.jobs.length := by
  induction n generalizing t with
  | zero => exact ⟨ht, rfl, hn⟩
  | succ n ih =>
    have hlt : t.sandbox.worker.outcomes.length < t.jobs.length := by omega
    obtain ⟨r, result, r', -, htask, -⟩ := Sequence.exists_exchanged (q := t.sequence first) hfirst
      (List.getElem?_eq_getElem hlt) fun m _ j hj => hjobs j (List.mem_of_getElem? hj)
    obtain ⟨w', hstep, hlength⟩ := ht.follows.step_of_done htask hlt t.sandbox.host
    have hjobs' : (t.apply (.sandbox .work)).jobs = t.jobs := List.append_nil _
    have hworker : (t.apply (.sandbox .work)).sandbox.worker = w' := by
      show (t.sandbox.work.getD t.sandbox).worker = w'
      unfold Sandbox.work
      rw [hstep]
      rfl
    have hrest := ih (t := t.apply (.sandbox .work)) (ht.apply _) (by rw [hjobs']; exact hjobs) (by
      rw [hjobs', hworker, hlength]
      omega)
    rw [hjobs'] at hrest
    exact hrest

/-- Values survive the trip through a guest in which no script has run. However calls, looks, the
worker, the host, cancellations and closes follow each other, and whatever the settings:

* a job that sets or gets a global, like all those before it, comes to its end. A global that has
  been set is read as exactly what it has been set to last, a name that has never been set and stands
  for nothing from the beginning as none, and a global that cannot be set is as it was, like all
  others;
* this is the result that the worker notes for the job, and what its caller is told unless all work
  is cancelled or the caller's time is over before;
* where there are no other jobs, the worker has done all of them after as many moves as are left. -/
theorem globals_round_trip {canRun : Bool} {settings : Settings} {surroundings : Surroundings}
    {rehearsal : Rehearsal} {s₀ : Sandbox}
    (h₀ : Sandbox.create canRun settings surroundings rehearsal = .ok s₀) (events : List Event) :
    let t := (of s₀).run events
    let q := t.sequence s₀.worker.realm
    (∀ (n : Ticket) (j : Job), t.jobs[n]? = some j →
      (∀ m ≤ n, ∀ j, t.jobs[m]? = some j → j.Exchanges) →
      ∃ r result r', q.realm n = some r ∧ q.task n = some (.done (result, r')) ∧
        q.realm (n + 1) = some r' ∧ q.Exchanged n r j result r' ∧
        (∀ o ∈ t.sandbox.worker.outcomes, o.ticket = n → o.result = result) ∧
        ∀ (k : Nat) (c : Caller) (a : Awaited) (m : Nat) (told : JobResult),
          t.callers[k]? = some c → c.place = .returned a m told → a.ticket = n →
          told = result ∨ told = .error Sandbox.closedMeanwhile ∨
            ∃ d, a.deadline = some d ∧ told = .error (.timedOut d.limit)) ∧
    ((∀ j ∈ t.jobs, j.Exchanges) →
      let done := t.run (List.replicate (t.jobs.length - t.sandbox.worker.outcomes.length)
        (.sandbox .work))
      done.jobs = t.jobs ∧
        ∀ n < t.jobs.length, ∃ o ∈ done.sandbox.worker.outcomes, o.ticket = n) := by
  intro t q
  have ht : t.InOrder s₀.worker.realm := (inOrder_of_create h₀).run events
  have hfirst : s₀.worker.realm.Unscripted := Sandbox.unscripted_of_create h₀
  refine ⟨fun n j hj hjobs => ?_, fun hjobs => ?_⟩
  · obtain ⟨r, result, r', hr, htask, hr', hex⟩ := Sequence.exists_exchanged (q := q) hfirst hj hjobs
    have hresult : ∀ o ∈ t.sandbox.worker.outcomes, o.ticket = n → o.result = result := by
      intro o ho hticket
      obtain ⟨realm, hended⟩ := ht.follows.keeps.ended o ho
      rw [hticket] at hended
      exact congrArg Prod.fst (GuestTask.done.inj (Option.some.inj (hended.symm.trans htask)))
    refine ⟨r, result, r', hr, htask, hr', hex, hresult, fun k c a m told hk hc hticket => ?_⟩
    rcases ht.told k c a m told hk hc with hclosed | hlate | ⟨o, ho, hsame, rfl⟩
    · exact .inr (.inl hclosed)
    · exact .inr (.inr hlate)
    · exact .inl (hresult o ho (hsame.trans hticket))
  · have hle : t.sandbox.worker.outcomes.length ≤ t.jobs.length :=
      Nat.le_trans (Nat.le_add_right ..) ht.follows.keeps.length_le
    obtain ⟨hdone, hsame, hlength⟩ := outcomes_run_work ht hfirst hjobs (Nat.add_sub_cancel' hle)
    exact ⟨hsame, fun n hn => hdone.follows.keeps.exists_ended (by rw [hlength]; exact hn)⟩

def sentValue : Json := .obj [("a", .arr [.num (.int (-2)), .str "é"])]

/-- A value is set, then a blank name, and then two names are read; the callers look when all is
done. -/
def setAndGet : List Event :=
  [.call (.set "x" sentValue) none, .step 0, .step 0, .call (.set " " .null) none, .step 1, .step 1,
    .call (.get "x") none, .step 2, .step 2, .call (.get "y") none, .step 3, .step 3,
    .sandbox .work, .sandbox .work, .sandbox .work, .sandbox .work]

theorem globals_round_trip_setAndGet :
    ∃ s₀ : Sandbox, Sandbox.create true {} { files := ⟨[]⟩ } {} = .ok s₀ ∧
      let t := (of s₀).run setAndGet
      t.jobs = [.set "x" sentValue, .set " " .null, .get "x", .get "y"] ∧
        (∀ j ∈ t.jobs, j.Exchanges) ∧
        (∃ o ∈ t.sandbox.worker.outcomes, o.ticket = 1 ∧ ∃ f, o.result = .error f) ∧
        (∃ o ∈ t.sandbox.worker.outcomes, o.ticket = 2 ∧ o.result = .ok (some sentValue)) ∧
        ∃ o ∈ t.sandbox.worker.outcomes, o.ticket = 3 ∧ o.result = .ok none := by
  have run : Sandbox.passes (Sandbox.create true {} { files := ⟨[]⟩ } {}) (fun s =>
      let t := (of s).run setAndGet
      let q := t.sequence s.worker.realm
      decide (t.sandbox.worker.outcomes.map Outcome.ticket = [3, 2, 1, 0]) &&
        (s.worker.realm.find Realm.globalId (Units.ofString "y")).isNone &&
        (q.latest "y" 3).isNone &&
        decide (t.jobs = [.set "x" sentValue, .set " " .null, .get "x", .get "y"]) &&
        decide (q.latest "x" 2 = some sentValue)) = true := by decide +kernel
  obtain ⟨s₀, h, hchecked⟩ := Sandbox.exists_of_passes run
  obtain ⟨⟨⟨⟨houtcomes, hy⟩, hlatesty⟩, hjobs⟩, hlatestx⟩ := by
    simpa only [Bool.and_eq_true, decide_eq_true_eq, Option.isNone_iff_eq_none] using hchecked
  have hvalue : Json.Portable 100 sentValue := by
    refine ⟨List.pairwise_singleton .., fun f hf => ?_⟩
    obtain rfl := List.mem_singleton.1 hf
    show ∀ j ∈ [_, _], Json.Portable 98 j
    simp [Json.Portable]
  have hexchanges : ∀ j ∈ ((of s₀).run setAndGet).jobs, j.Exchanges := by
    rw [hjobs]
    intro j hj
    simp only [List.mem_cons, List.not_mem_nil, or_false] at hj
    rcases hj with rfl | rfl | rfl | rfl
    · exact .set (by decide) hvalue
    · exact .set (by decide) trivial
    · exact .get (by decide)
    · exact .get (by decide)
  have hended : ∀ n ∈ [3, 2, 1, 0], ∃ o ∈ ((of s₀).run setAndGet).sandbox.worker.outcomes,
      o.ticket = n := by
    rw [← houtcomes]
    exact fun n hn => List.mem_map.1 hn
  obtain ⟨hall, -⟩ := globals_round_trip h setAndGet
  have hjob := fun n j hj => hall n j hj fun m _ j hj => hexchanges j (List.mem_of_getElem? hj)
  refine ⟨s₀, h, hjobs, hexchanges, ?_, ?_, ?_⟩
  · obtain ⟨o, ho, hticket⟩ := hended 1 (by decide)
    obtain ⟨r, result, r', -, -, -, hex, hresult, -⟩ := hjob 1 _ (by rw [hjobs]; rfl)
    obtain ⟨f, hf⟩ := (hex.1 (.inl (by decide))).1
    exact ⟨o, ho, hticket, f, (hresult o ho hticket).trans hf⟩
  · obtain ⟨o, ho, hticket⟩ := hended 2 (by decide)
    obtain ⟨r, result, r', -, -, -, hex, hresult, -⟩ := hjob 2 _ (by rw [hjobs]; rfl)
    exact ⟨o, ho, hticket, (hresult o ho hticket).trans (hex.2.1 _ hlatestx)⟩
  · obtain ⟨o, ho, hticket⟩ := hended 3 (by decide)
    obtain ⟨r, result, r', -, -, -, hex, hresult, -⟩ := hjob 3 _ (by rw [hjobs]; rfl)
    exact ⟨o, ho, hticket, (hresult o ho hticket).trans (hex.2.2 hlatesty hy)⟩

end Service

end ScriptSandbox
