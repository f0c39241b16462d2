import ScriptSandbox.Proofs.Sandbox.Browser

/-!
# Calls of a guest once all work has been cancelled

Scripts go on when their sandbox has been cancelled, also those that were still in the line. But
nothing that they call has an effect any more: a call that begins is answered at once with a
failure, and one that is under way ends with the failure of the cancelled scope, whatever it has
come to meanwhile (`no_effect_of_isCancelled`).
-/

namespace ScriptSandbox

open Guest

namespace HostSide

variable {h h₁ h' : HostSide} {r : Realm}

/-- Files, surroundings, browser and clock are as they were. A task may have been abandoned. -/
structure LeavesAlone (h h' : HostSide) : Prop where
  files : h'.stage.files = h.stage.files
  surroundings : h'.surroundings = h.surroundings
  asked : h'.stage.scene.asked = h.stage.scene.asked
  pages : h'.stage.scene.pages = h.stage.scene.pages
  sessions : h'.stage.scene.sessions.length = h.stage.scene.sessions.length
  tasks : h'.stage.scene.tasks.length = h.stage.scene.tasks.length
  now : h'.now = h.now

theorem LeavesAlone.refl : LeavesAlone h h := ⟨rfl, rfl, rfl, rfl, rfl, rfl, rfl⟩

theorem LeavesAlone.trans (hl : LeavesAlone h h₁) (hl' : LeavesAlone h₁ h') : LeavesAlone h h' where
  files := hl'.files.trans hl.files
  surroundings := hl'.surroundings.trans hl.surroundings
  asked := hl'.asked.trans hl.asked
  pages := hl'.pages.trans hl.pages
  sessions := hl'.sessions.trans hl.sessions
  tasks := hl'.tasks.trans hl.tasks
  now := hl'.now.trans hl.now

theorem leavesAlone_abandon (u : Underway) : h.LeavesAlone (h.abandon u) := by
  cases u with
  | operation i =>
    show h.LeavesAlone { h with stage := { h.stage with scene := h.stage.scene.abandon i } }
    unfold Scene.abandon
    split
    · exact .refl
    · split
      · exact .refl
      · split
        · exact ⟨rfl, rfl, Scene.withdraw_asked, Scene.withdraw_pages, by simp, by simp,
            Scene.withdraw_now⟩
        · exact ⟨rfl, rfl, rfl, rfl, rfl, by simp, rfl⟩
  | answered | later | never => exact .refl

theorem leavesAlone_makeMethods (methods : List (Callee × String × Nat)) :
    h.LeavesAlone (h.makeMethods r methods).1 := by
  induction methods generalizing h r with
  | nil => exact .refl
  | cons m methods ih =>
    obtain ⟨c, name, arity⟩ := m
    have first : h.LeavesAlone (h.enlist c).2 := ⟨rfl, rfl, rfl, rfl, rfl, rfl, rfl⟩
    exact first.trans ih

theorem leavesAlone_deliver (a : Answer) : h.LeavesAlone (h.deliver r a).1 := by
  cases a with
  | json j => exact .refl
  | session s =>
    unfold deliver
    exact leavesAlone_makeMethods _

/-! ## Calls -/

/-- A call under way ends with the failure of the cancelled scope. -/
theorem poll_of_isCancelled (hc : h.isCancelled = true) {u : Underway}
    (hu : ∀ a, u ≠ .answered a) :
    h.poll u = (h.abandon u, some (.json cancelledFailure.toJson)) := by
  cases u with
  | answered a => exact absurd rfl (hu a)
  | later | operation | never => simp only [poll, hc, if_true]

theorem leavesAlone_poll (hc : h.isCancelled = true) (u : Underway) :
    h.LeavesAlone (h.poll u).1 := by
  by_cases hu : ∃ a, u = .answered a
  · obtain ⟨a, rfl⟩ := hu
    exact .refl
  · rw [poll_of_isCancelled hc fun a ha => hu ⟨a, ha⟩]
    exact leavesAlone_abandon u

theorem code_of_sessionTime {args : Arguments} {f : Failure}
    (hf : h.sessionTime args = .error f) : f.code = .invalidInput := by
  unfold sessionTime at hf
  cases ho : args.optionalObject 0 "options" with
  | error e =>
    have hcode : e.code = .invalidInput := by
      unfold Arguments.optionalObject at ho
      split at ho
      · simp at ho
      · simp at ho
      · obtain rfl : _ = e := by simpa using ho
        rfl
    rw [ho] at hf
    obtain rfl : e = f := by simpa [bind, Except.bind] using hf
    exact hcode
  | ok fields =>
    simp only [ho, bind, Except.bind, pure, Except.pure] at hf
    split at hf
    · simp at hf
    · split at hf
      · simp at hf
      · simp at hf
      · split at hf
        · obtain rfl : _ = f := by simpa using hf
          rfl
        · simp at hf
      · obtain rfl : _ = f := by simpa using hf
        rfl

/-- The failure of a call that begins when the scope has been cancelled. A session that is asked for
in a wrong way is refused for this reason. -/
def Refuses (c : Callee) (f : Failure) : Prop :=
  match c with
  | .newSession => f.code = .cancelled ∨ f.code = .invalidInput
  | _ => f = cancelledFailure

/-- A call that begins then is answered at once, and nothing has happened. -/
theorem begin_of_isCancelled (hc : h.isCancelled = true) {f : HostId} {c : Callee}
    (hf : h.callees[f]? = some c) (args : Arguments) :
    ∃ failure, Refuses c failure ∧ h.begin f args = (h, .answered (.json failure.toJson)) := by
  cases c with
  | newSession =>
    cases ht : h.sessionTime args with
    | error e =>
      refine ⟨e, .inr (code_of_sessionTime ht), ?_⟩
      simp only [begin, hf, openSession, ht, failed]
    | ok lifetime =>
      refine ⟨cancelledFailure, .inl rfl, ?_⟩
      simp only [begin, hf, openSession, ht, hc, if_true, failed]
  | function | method | custom =>
    refine ⟨cancelledFailure, rfl, ?_⟩
    simp only [begin, hf, hc, if_true, failed]

theorem leavesAlone_begin (hc : h.isCancelled = true) (f : HostId) (args : Arguments) :
    h.LeavesAlone (h.begin f args).1 := by
  cases hf : h.callees[f]? with
  | none =>
    unfold begin
    rw [hf]
    exact .refl
  | some c =>
    obtain ⟨failure, -, hb⟩ := begin_of_isCancelled hc hf args
    rw [hb]
    exact .refl

end HostSide

namespace Worker

variable {w w' : Worker} {h h' : HostSide} {ticket : Ticket}
variable {task : GuestTask (JobResult × Realm)}

theorem leavesAlone_of_ready (hc : h.isCancelled = true)
    (hr : w.ready h = some (h', w', ticket, task)) : h.LeavesAlone h' := by
  unfold ready at hr
  split at hr
  · split at hr
    · simp at hr
    · obtain ⟨rfl, -⟩ : h = h' ∧ _ := by simpa using hr
      exact .refl
  · rename_i ticket u next _
    have hp := HostSide.leavesAlone_poll hc u
    split at hr
    · rename_i h₁ a hp'
      rw [hp'] at hp
      obtain ⟨rfl, -⟩ : (h₁.deliver w.realm a).1 = h' ∧ _ := by simpa using hr
      exact hp.trans (HostSide.leavesAlone_deliver a)
    · simp at hr
  · simp at hr

theorem leavesAlone_takeUp (hc : h.isCancelled = true) :
    h.LeavesAlone (w.takeUp h ticket task).1 := by
  cases task with
  | done r => exact .refl
  | call f args realm next => exact HostSide.leavesAlone_begin hc f args
  | endless => exact .refl

/-- The job at hand goes on with the failure of the cancelled scope. -/
theorem ready_of_isCancelled (hc : h.isCancelled = true) {u : Underway}
    {next : Value → Realm → GuestTask (JobResult × Realm)}
    (ha : w.activity = .calling ticket u next) (hu : ∀ a, u ≠ .answered a) :
    w.ready h = some (h.abandon u, w, ticket,
      next (w.realm.bringIn HostSide.cancelledFailure.toJson).1
        (w.realm.bringIn HostSide.cancelledFailure.toJson).2) := by
  simp only [ready, ha, HostSide.poll_of_isCancelled hc hu, HostSide.deliver]

/-- The job at hand waits for a call that is answered at a later moment. -/
def isPutOff (w : Worker) : Bool :=
  match w.activity with
  | .calling _ (.later _ _) _ => true
  | _ => false

theorem activity_of_isPutOff (hw : w.isPutOff = true) :
    ∃ ticket a due next, w.activity = .calling ticket (.later a due) next := by
  unfold isPutOff at hw
  split at hw
  · rename_i ticket a due next ha
    exact ⟨ticket, a, due, next, ha⟩
  · simp at hw

end Worker

namespace Sandbox

theorem isCancelled_follow {s : Sandbox} (hc : s.host.isCancelled = true) (later : List Event) :
    (s.follow later).host.isCancelled = true := (leads_follow s later).isCancelled hc

/-- Once the scope of a sandbox has been cancelled, whatever happens then:

* it stays cancelled;
* no move of the worker touches files, surroundings, browser or clock;
* the job at hand, if it waits for a call, can go on, and the call has failed as cancelled, whatever
  the call has come to itself;
* a call that a job begins is answered at once with a failure, as cancelled unless it asks for a
  session in a wrong way;
* and what a call has been answered with is what the job goes on with. -/
theorem no_effect_of_isCancelled (s : Sandbox) (hc : s.host.isCancelled = true)
    (later : List Event) :
    let t := s.follow later
    t.host.isCancelled = true ∧
    (∀ t', t.work = some t' → t.host.LeavesAlone t'.host) ∧
    (∀ ticket u next, t.worker.activity = .calling ticket u next → (∀ a, u ≠ .answered a) →
      let told := t.worker.realm.bringIn HostSide.cancelledFailure.toJson
      t.worker.ready t.host =
        some (t.host.abandon u, t.worker, ticket, next told.1 told.2)) ∧
    (∀ h w ticket f args realm next,
      t.worker.ready t.host = some (h, w, ticket, .call f args realm next) →
      ∀ c, h.callees[f]? = some c → ∃ failure, HostSide.Refuses c failure ∧
        t.work = some { t with
          host := h
          worker := { w with
            realm, activity := .calling ticket (.answered (.json failure.toJson)) next } }) ∧
    (∀ ticket j next, t.worker.activity = .calling ticket (.answered (.json j)) next →
      let told := t.worker.realm.bringIn j
      t.worker.ready t.host = some (t.host, t.worker, ticket, next told.1 told.2)) ∧
    HostSide.cancelledFailure.toJson =
      .object [("success", .bool false), ("error", .str "sandbox closed"),
        ("code", .str "CANCELLED")] := by
  intro t
  have ht : t.host.isCancelled = true := isCancelled_follow hc later
  refine ⟨ht, fun t' hwork => ?_, fun ticket u next ha hu => ?_, ?_,
    fun ticket j next ha => ?_, rfl⟩
  · obtain ⟨⟨h', w'⟩, hstep, rfl⟩ := Option.map_eq_some_iff.1 hwork
    obtain ⟨⟨h, w, ticket, task⟩, hready, htake⟩ := Option.map_eq_some_iff.1 hstep
    have hh : h.isCancelled = true := (Worker.movesTo_of_ready hready).leads.isCancelled ht
    have halone : h.LeavesAlone (w.takeUp h ticket task).1 := Worker.leavesAlone_takeUp hh
    rw [show w.takeUp h ticket task = (h', w') from htake] at halone
    exact (Worker.leavesAlone_of_ready ht hready).trans halone
  · exact Worker.ready_of_isCancelled ht ha hu
  · intro h w ticket f args realm next hready c hf
    have hh : h.isCancelled = true := (Worker.movesTo_of_ready hready).leads.isCancelled ht
    obtain ⟨failure, hrefuses, hbegin⟩ := HostSide.begin_of_isCancelled hh hf args
    refine ⟨failure, hrefuses, ?_⟩
    simp only [work, Worker.step, hready, Option.map_some, Worker.takeUp, hbegin]
  · simp only [Worker.ready, ha, HostSide.poll, HostSide.deliver]

/-- Scripts that wait for the clock, a file, an image or a response, each when it is cut short. -/
def cutShort (s : Sandbox) : List Sandbox :=
  ["sleep(10)", "writeFile('a', 'b')", "imageInfo('a')", "httpGet('http://a/')"].map fun source =>
    s.follow [.submit (.eval source), .work, .cancel]

/-- A script that sleeps is woken up by the cancellation, and one that waits for something else does
not hear what has become of it. -/
theorem no_effect_of_isCancelled_asleep :
    ∃ s₀ : Sandbox, create true {} { files := ⟨[]⟩ } {} = .ok s₀ ∧ ∀ t ∈ s₀.cutShort,
      let told := t.worker.realm.bringIn HostSide.cancelledFailure.toJson
      t.host.isCancelled = true ∧ ∃ ticket a due next,
        t.worker.activity = .calling ticket (.later a due) next ∧
        t.worker.ready t.host = some (t.host, t.worker, ticket, next told.1 told.2) := by
  have run : passes (create true {} { files := ⟨[]⟩ } {}) (fun s =>
      s.cutShort.all fun t => t.host.isCancelled && t.worker.isPutOff) = true := by decide +kernel
  obtain ⟨s₀, h, hchecked⟩ := exists_of_passes run
  refine ⟨s₀, h, fun t ht => ?_⟩
  obtain ⟨hc, hput⟩ : t.host.isCancelled = true ∧ t.worker.isPutOff = true := by
    simpa only [Bool.and_eq_true] using List.all_eq_true.1 hchecked t ht
  obtain ⟨-, -, hpending, -⟩ := no_effect_of_isCancelled t hc []
  obtain ⟨ticket, a, due, next, ha⟩ := Worker.activity_of_isPutOff hput
  exact ⟨hc, ticket, a, due, next, ha, hpending ticket _ next ha (by simp)⟩

end Sandbox

end ScriptSandbox
