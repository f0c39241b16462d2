import Mathlib.Logic.Function.Basic
import ScriptSandbox.Sandbox.Service

/-!
# Jobs one after the other

What jobs come to when nothing else is there: each begins on the realm that the one before it has
left, goes on with what it hears from the host, and leaves a realm to the next. There is no line
here, nobody waits, and nothing has a time.
-/

namespace ScriptSandbox

open Guest

namespace Guest.Realm

/-- Makes the methods of a session, which have the numbers from `first` on. -/
def methodsFrom (r : Realm) (first : HostId) :
    List SessionMethod → Realm × List (Units × Property)
  | [] => (r, [])
  | m :: rest =>
    let (v, r) := r.makeHost first m.name m.arity false
    let (r, props) := r.methodsFrom (first + 1) rest
    (r, (Units.ofString m.name, .hidden v) :: props)

/-- The realm after it has got to hear of an answer, and the value that the answer is there. -/
def receive (r : Realm) : HostReply → Realm × Value
  | .json j =>
    let (v, r) := r.bringIn j
    (r, v)
  | .session label first =>
    let (r, methods) := r.methodsFrom first SessionMethod.all
    let id : Units × Property :=
      (Units.ofString "id", ⟨.data (.ofString label) false, true, false⟩)
    let (o, r) := r.alloc { proto := some Intrinsic.objectProto.id, props := id :: methods }
    (r, .object o)

end Guest.Realm

namespace HostSide

variable {h : HostSide} {r : Realm}

theorem makeMethods_snd (s : SessionId) (ms : List SessionMethod) :
    (h.makeMethods r (ms.map fun m => (.method s m, m.name, m.arity))).2 =
      r.methodsFrom h.callees.size ms := by
  induction ms generalizing h r with
  | nil => rfl
  | cons m ms ih =>
    have := ih (h := (h.enlist (.method s m)).2)
      (r := (r.makeHost h.callees.size m.name m.arity false).2)
    rw [show (h.enlist (.method s m)).2.callees.size = h.callees.size + 1 from
      Array.size_push ..] at this
    simp only [List.map_cons, makeMethods, Realm.methodsFrom, enlist] at this ⊢
    rw [← this]

/-- All that a guest gets of an answer is what it hears. -/
theorem deliver_snd (a : Answer) : (h.deliver r a).2 = r.receive (h.replyOf a) := by
  cases a with
  | json j => rfl
  | session s =>
    have := makeMethods_snd (h := h) (r := r) s SessionMethod.all
    simp only [deliver, Realm.receive, replyOf]
    rw [← this]

end HostSide

namespace Guest.GuestTask

variable {α : Type}

/-- A task that waits for an answer goes on with it. -/
def hear : GuestTask α → HostReply → GuestTask α
  | .call _ _ realm next, reply => next (realm.receive reply).2 (realm.receive reply).1
  | t, _ => t

/-- What is left of a task when it has heard all this. -/
def answered (t : GuestTask α) (replies : List HostReply) : GuestTask α := replies.foldl hear t

theorem answered_append (t : GuestTask α) (replies : List HostReply) (reply : HostReply) :
    t.answered (replies ++ [reply]) = (t.answered replies).hear reply := by
  simp [answered]

/-- A task that goes on without the host after another one has heard what that one has. -/
theorem answered_bind_done {β : Type} (t : GuestTask α) (g : α → β) (replies : List HostReply) :
    (t.bind fun a => .done (g a)).answered replies =
      (t.answered replies).bind fun a => .done (g a) := by
  induction replies generalizing t with
  | nil => rfl
  | cons reply replies ih =>
    have hhear : (t.bind fun a => .done (g a)).hear reply =
        (t.hear reply).bind fun a => .done (g a) := by
      cases t <;> rfl
    show ((t.bind fun a => .done (g a)).hear reply).answered replies = _
    rw [hhear, ih]
    rfl

theorem answered_done (a : α) (replies : List HostReply) :
    (GuestTask.done a).answered replies = .done a := by
  induction replies with
  | nil => rfl
  | cons reply replies ih => exact ih

/-- A task that ends has a first part that ends. -/
theorem bind_eq_done {β : Type} {t : GuestTask α} {f : α → GuestTask β} {b : β}
    (h : t.bind f = .done b) : ∃ a, t = .done a ∧ f a = .done b := by
  cases t with
  | done a => exact ⟨a, rfl, h⟩
  | call | endless => cases h

end Guest.GuestTask

/-- Jobs, and what each of them hears from the host. -/
structure Sequence where
  first : Realm
  jobs : List Job
  replies : Ticket → List HostReply

namespace Sequence

/-- What is left of a job that has begun on this realm. -/
def taskOn (q : Sequence) (n : Ticket) (r : Realm) : Option (GuestTask (JobResult × Realm)) :=
  q.jobs[n]?.map fun j => GuestTask.answered (j.action r) (q.replies n)

/-- The realm that a job leaves, if it has come to its end. -/
def realmLeft : GuestTask (JobResult × Realm) → Option Realm
  | .done (_, r) => some r
  | _ => none

/-- The realm on which a job begins, once all before it have come to their ends. -/
def realm (q : Sequence) : Ticket → Option Realm
  | 0 => some q.first
  | n + 1 => ((q.realm n).bind (q.taskOn n)).bind realmLeft

/-- What is left of a job. -/
def task (q : Sequence) (n : Ticket) : Option (GuestTask (JobResult × Realm)) :=
  (q.realm n).bind (q.taskOn n)

variable {q q' : Sequence} {m n : Nat} {j : Job}

theorem realm_succ : q.realm (n + 1) = (q.task n).bind realmLeft := rfl

theorem realm_succ_of_done {result : JobResult} {r : Realm}
    (h : q.task n = some (.done (result, r))) : q.realm (n + 1) = some r := by
  rw [realm_succ, h]
  rfl

theorem task_eq_some {r : Realm} (hr : q.realm n = some r) (hj : q.jobs[n]? = some j) :
    q.task n = some (GuestTask.answered (j.action r) (q.replies n)) := by
  rw [task, hr, Option.bind_some, taskOn, hj, Option.map_some]

/-- The first jobs, and what they have heard, are the same. -/
structure AgreeBelow (q q' : Sequence) (n : Nat) : Prop where
  first : q.first = q'.first
  jobs : ∀ m < n, q.jobs[m]? = q'.jobs[m]?
  replies : ∀ m < n, q.replies m = q'.replies m

theorem AgreeBelow.mono (h : AgreeBelow q q' n) (hm : m ≤ n) : AgreeBelow q q' m where
  first := h.first
  jobs k hk := h.jobs k (by omega)
  replies k hk := h.replies k (by omega)

theorem AgreeBelow.taskOn (h : AgreeBelow q q' n) (hm : m < n) : q.taskOn m = q'.taskOn m := by
  funext r
  rw [Sequence.taskOn, Sequence.taskOn, h.jobs m hm, h.replies m hm]

theorem AgreeBelow.realm (h : AgreeBelow q q' n) : q.realm n = q'.realm n := by
  induction n with
  | zero => exact congrArg some h.first
  | succ n ih =>
    rw [Sequence.realm, Sequence.realm, ih (h.mono (Nat.le_succ n)), h.taskOn (Nat.lt_succ_self n)]

theorem AgreeBelow.task (h : AgreeBelow q q' n) (hm : m < n) : q.task m = q'.task m := by
  rw [Sequence.task, Sequence.task, (h.mono (Nat.le_of_lt hm)).realm, h.taskOn hm]

/-! ## More jobs, more replies -/

/-- One more job is there. -/
def add (q : Sequence) (j : Job) : Sequence := { q with jobs := q.jobs ++ [j] }

/-- A job hears one thing more. -/
def hear (q : Sequence) (n : Ticket) (reply : HostReply) : Sequence :=
  { q with replies := Function.update q.replies n (q.replies n ++ [reply]) }

@[simp] theorem hear_replies_self (n : Ticket) (reply : HostReply) :
    (q.hear n reply).replies n = q.replies n ++ [reply] := Function.update_self ..

theorem hear_replies_of_ne (reply : HostReply) (hm : m ≠ n) :
    (q.hear n reply).replies m = q.replies m := Function.update_of_ne hm ..

theorem agreeBelow_add (j : Job) : AgreeBelow q (q.add j) q.jobs.length where
  first := rfl
  jobs _ hm := (List.getElem?_append_left hm).symm
  replies _ _ := rfl

theorem agreeBelow_hear (n : Ticket) (reply : HostReply) : AgreeBelow q (q.hear n reply) n where
  first := rfl
  jobs _ _ := rfl
  replies _ hm := (hear_replies_of_ne reply (Nat.ne_of_lt hm)).symm

/-- The job that hears something goes on with it. -/
theorem task_hear {t : GuestTask (JobResult × Realm)} (h : q.task n = some t)
    (reply : HostReply) : (q.hear n reply).task n = some (t.hear reply) := by
  unfold task at h ⊢
  rw [← (agreeBelow_hear n reply).realm]
  obtain ⟨r, hr, ht⟩ := Option.bind_eq_some_iff.1 h
  obtain ⟨j, hj, rfl⟩ := Option.map_eq_some_iff.1 ht
  rw [hr, Option.bind_some, taskOn]
  show (q.jobs[n]?.map _) = _
  rw [hj, Option.map_some, hear_replies_self, GuestTask.answered_append]

end Sequence

end ScriptSandbox
