import ScriptSandbox.Proofs.Guest.BringIn
import ScriptSandbox.Proofs.Guest.Held
import ScriptSandbox.Proofs.Guest.Store
import ScriptSandbox.Proofs.Sandbox.JobSequence

/-!
# Scripts with variables leave no trace

The scratch is a global while a script with variables is evaluated, and only then. Whatever the
evaluation does with the realm, all that is done around it is to put one global in place and to take
it away again (`Scratch.ends_of_answered`), so all other globals are what the evaluation has made of
them (`Service.scoped_leaves_no_trace`).
-/

namespace ScriptSandbox

open Guest

namespace Scratch

variable {slot source : String} {vars : List (String × Json)} {r r₁ : Realm}
variable {evaluate : String → GuestAction (Except Failure Json)}

/-! ## Names -/

/-- A scratch has a name that is no index and not the length of something. -/
theorem named_slotName (label : String) : Named (Units.ofString (slotName label)) := by
  have hlist : (slotName label).toList = '_' :: ("_scriptbox_scratch_".toList ++
      label.toList.filter (· != '-')) := by
    unfold slotName
    simp only [String.toList_append, String.toList_ofList]
    rfl
  constructor
  · intro h
    have hname : slotName label = "length" := Units.ofString_injective h
    rw [hname] at hlist
    cases hlist
  · unfold naturalOf? Units.ofString
    rw [Units.chars_ofChars, hlist]
    show digitsIn 10 ('_' :: _) = none
    unfold digitsIn
    rw [if_pos (by rw [List.any_cons]; rfl)]

theorem isUsable_sourceKey : isUsable sourceKey = false := by decide

/-- The script is in the scratch. -/
theorem content_source (source : String) (vars : List (String × Json)) :
    (content source vars).field? sourceKey = some (.str source) := Json.lookup_insertField_self

/-- The variables are in the scratch beside the script. -/
theorem content_of_usable {name : String} (h : isUsable name = true) (source : String)
    (vars : List (String × Json)) : (content source vars).field? name = vars.lookup name := by
  refine Json.lookup_insertField_of_ne ?_
  rintro rfl
  rw [isUsable_sourceKey] at h
  cases h

/-! ## Putting the scratch in place -/

/-- The scratch is one new global, and what it holds is new. -/
theorem keepsAllBut_place (hglobal : Realm.globalId < r.objects.size)
    (hn : Named (Units.ofString slot)) (h : place slot source vars r = .ok r₁) :
    r.KeepsAllBut (Units.ofString slot) r₁ ∧
      ∃ lo hi v, r.objects.size ≤ lo ∧ r₁.Holds (content source vars) lo hi v ∧
        (r₁.obj Realm.globalId).own (Units.ofString slot) = some (.plain v) := by
  have hgrown := Realm.grown_bringIn (content source vars) r
  have hholds := Realm.holds_bringIn (content source vars) r
  unfold place at h
  generalize r.bringIn (content source vars) = brought at h hgrown hholds
  obtain ⟨v, r'⟩ := brought
  obtain rfl := Realm.eq_of_defineGlobal h
  have hlt : Realm.globalId < r'.objects.size := Nat.lt_of_lt_of_le hglobal hgrown.size_le
  have hobj : (r'.put Realm.globalId (Units.ofString slot) (.plain v)).obj Realm.globalId =
      { r.obj Realm.globalId with
        props := putProperty (Units.ofString slot) (.plain v) (r.obj Realm.globalId).props } := by
    rw [Realm.put, Realm.obj_setObj_self hlt, hn.put, hgrown.obj hglobal]
  have hother : ∀ o ≠ Realm.globalId,
      (r'.put Realm.globalId (Units.ofString slot) (.plain v)).obj o = r'.obj o :=
    fun o ho => Realm.obj_setObj_of_ne ho _
  constructor
  · exact
      { size_le := Nat.le_trans hgrown.size_le (Nat.le_of_eq (Realm.size_setObj ..).symm)
        objects := fun o ho hne => (hother o hne).trans (hgrown.obj ho)
        global := by
          rw [hobj]
          unfold Obj.without
          rw [dropProperty_putProperty]
        scopes := by obtain ⟨more, rfl⟩ := hgrown; rfl
        microtasks := by obtain ⟨more, rfl⟩ := hgrown; rfl
        symbols := by obtain ⟨more, rfl⟩ := hgrown; rfl }
  · refine ⟨_, _, v, Nat.le_refl _, hholds.frame fun o ho _ => hother o ?_, ?_⟩
    · exact Nat.ne_of_gt (Nat.lt_of_lt_of_le hglobal ho)
    · rw [hn.own, hobj]
      exact (lookup_putProperty ..).trans (if_pos rfl)

/-- A scratch that finds no place is not there, or cannot be taken away. -/
theorem configurable_of_place {e : Mistake} (hglobal : Realm.globalId < r.objects.size)
    (h : place slot source vars r = .error e) {p : Property}
    (hp : (r.obj Realm.globalId).own (Units.ofString slot) = some p) : p.configurable = false := by
  have hgrown := Realm.grown_bringIn (content source vars) r
  refine Realm.configurable_of_defineGlobal (r := (r.bringIn (content source vars)).2) h ?_
  rwa [hgrown.obj hglobal]

/-- There is a place for a scratch as long as there is one for any global. -/
theorem exists_place (hglobal : Realm.globalId < r.objects.size)
    (hext : (r.obj Realm.globalId).extensible = true)
    (hnone : (r.obj Realm.globalId).own (Units.ofString slot) = none) :
    ∃ r₁, place slot source vars r = .ok r₁ := by
  have hgrown := Realm.grown_bringIn (content source vars) r
  rw [← hgrown.obj hglobal] at hext hnone
  exact ⟨_, Realm.defineGlobal_of_extensible hnone hext _⟩

/-! ## Evaluation -/

/-- How a script with variables ends on a realm, and which realm is left. -/
inductive Ends (evaluate : String → GuestAction (Except Failure Json)) (slot source : String)
    (vars : List (String × Json)) (replies : List HostReply) (r : Realm) :
    Except Failure Json → Realm → Prop
  /-- A variable has a name that none can have. -/
  | refused {name : String} {value : Json} (hmem : (name, value) ∈ vars)
      (hname : isUsable name = false) :
      Ends evaluate slot source vars replies r (.error (unusable name)) r
  /-- There is no place for the scratch. -/
  | unplaced {e : Mistake} (hnames : ∀ a ∈ vars, isUsable a.1 = true)
      (hplace : place slot source vars r = .error e) :
      Ends evaluate slot source vars replies r (.error (guestFailure e.display)) r
  /-- The wrapper has been evaluated with the scratch in place. -/
  | evaluated {r₁ r₂ : Realm} {result : Except Failure Json}
      (hnames : ∀ a ∈ vars, isUsable a.1 = true) (hplace : place slot source vars r = .ok r₁)
      (heval : (evaluate (wrapper slot vars) r₁).answered replies = .done (result, r₂)) :
      Ends evaluate slot source vars replies r result (r₂.dropGlobal slot)

/-- Where a name is not usable, nothing is evaluated. -/
theorem evaluateWith_of_unusable (h : ∃ a ∈ vars, isUsable a.1 = false) :
    ∃ name value, (name, value) ∈ vars ∧ isUsable name = false ∧
      ∀ evaluate slot source r,
        evaluateWith evaluate slot source vars r = .done (.error (unusable name), r) := by
  cases hfind : vars.find? (!isUsable ·.1) with
  | none =>
    obtain ⟨a, ha, hname⟩ := h
    exact absurd hname (by simpa using List.find?_eq_none.1 hfind a ha)
  | some a =>
    obtain ⟨name, value⟩ := a
    refine ⟨name, value, List.mem_of_find?_eq_some hfind, by simpa using List.find?_some hfind, ?_⟩
    intro evaluate slot source r
    unfold evaluateWith
    rw [hfind]
    rfl

theorem find?_of_usable (hnames : ∀ a ∈ vars, isUsable a.1 = true) :
    vars.find? (!isUsable ·.1) = none :=
  List.find?_eq_none.2 fun a ha => by simp [hnames a ha]

/-- Where all names can be used, a scratch is made, and it goes when the script has ended. -/
theorem evaluateWith_of_usable (hnames : ∀ a ∈ vars, isUsable a.1 = true) :
    evaluateWith evaluate slot source vars r =
      match place slot source vars r with
      | .error e => .done (.error (guestFailure e.display), r)
      | .ok r₁ => (evaluate (wrapper slot vars) r₁).bind fun x =>
          .done (x.1, x.2.dropGlobal slot) := by
  have hget : (get : GuestAction Realm) r = .done (r, r) := rfl
  unfold evaluateWith
  rw [find?_of_usable hnames]
  dsimp only [bind, StateT.bind]
  rw [hget]
  dsimp only [GuestTask.bind]
  cases place slot source vars r <;> rfl

theorem evaluateWith_of_place_error {e : Mistake} (hnames : ∀ a ∈ vars, isUsable a.1 = true)
    (hplace : place slot source vars r = .error e) :
    evaluateWith evaluate slot source vars r = .done (.error (guestFailure e.display), r) := by
  rw [evaluateWith_of_usable hnames, hplace]

theorem evaluateWith_of_place_ok (hnames : ∀ a ∈ vars, isUsable a.1 = true)
    (hplace : place slot source vars r = .ok r₁) :
    evaluateWith evaluate slot source vars r =
      (evaluate (wrapper slot vars) r₁).bind fun x => .done (x.1, x.2.dropGlobal slot) := by
  rw [evaluateWith_of_usable hnames, hplace]

/-- A script with variables ends in one of these ways. -/
theorem ends_of_answered {replies : List HostReply} {result : Except Failure Json} {r' : Realm}
    (h : (evaluateWith evaluate slot source vars r).answered replies = .done (result, r')) :
    Ends evaluate slot source vars replies r result r' := by
  by_cases hnames : ∀ a ∈ vars, isUsable a.1 = true
  · cases hplace : place slot source vars r with
    | error e =>
      rw [evaluateWith_of_place_error hnames hplace, GuestTask.answered_done] at h
      cases h
      exact .unplaced hnames hplace
    | ok r₁ =>
      rw [evaluateWith_of_place_ok hnames hplace, GuestTask.answered_bind_done] at h
      obtain ⟨⟨result', r₂⟩, heval, hdone⟩ := GuestTask.bind_eq_done h
      cases hdone
      exact .evaluated hnames hplace heval
  · have hbad : ∃ a ∈ vars, isUsable a.1 = false := by
      simpa only [not_forall, Bool.not_eq_true, exists_prop] using hnames
    obtain ⟨name, value, hmem, hname, hall⟩ := evaluateWith_of_unusable hbad
    rw [hall, GuestTask.answered_done] at h
    cases h
    exact .refused hmem hname

end Scratch

namespace Service

open Scratch

/-- A script with variables leaves no trace of what has been put in place for it. Whatever evaluates
it, on any realm with a global object:

* if a variable has a name that none can have, the input is invalid: nothing is evaluated and the
  realm is as it was;
* otherwise one global is put in place beside those that are there, unless there is no room for any,
  and holds the script and the variables, none of which stands for another;
* when the evaluation has ended the script has ended with its result. If the scratch can still be
  deleted, then it is gone, and all else in the realm is what the evaluation has made of it;
* there is no other way in which the script ends.

So it is for every job of this kind in a sandbox, however its callers wait or stop waiting. -/
theorem scoped_leaves_no_trace {canRun : Bool} {settings : Settings} {surroundings : Surroundings}
    {rehearsal : Rehearsal} {s₀ : Sandbox}
    (h₀ : Sandbox.create canRun settings surroundings rehearsal = .ok s₀) (events : List Event)
    (label source : String) (vars : List (String × Json)) :
    let slot := slotName label
    let key := Units.ofString slot
    let t := (of s₀).run events
    let q := t.sequence s₀.worker.realm
    (∀ (evaluate : String → GuestAction (Except Failure Json)) (r : Realm),
      let job := evaluateWith evaluate slot source vars r
      ((∃ a ∈ vars, isUsable a.1 = false) → ∃ name value, (name, value) ∈ vars ∧
        isUsable name = false ∧ job = .done (.error (unusable name), r) ∧
        (unusable name).code = .invalidInput) ∧
      ((∀ a ∈ vars, isUsable a.1 = true) → Realm.globalId < r.objects.size →
        ((r.obj Realm.globalId).extensible = true → (r.obj Realm.globalId).own key = none →
          ∃ r₁, place slot source vars r = .ok r₁) ∧
        (∀ e, place slot source vars r = .error e →
          job = .done (.error (guestFailure e.display), r) ∧
          ∀ p, (r.obj Realm.globalId).own key = some p → p.configurable = false) ∧
        ∀ r₁, place slot source vars r = .ok r₁ →
          (r.KeepsAllBut key r₁ ∧ ∃ lo hi v, r.objects.size ≤ lo ∧
            r₁.Holds (content source vars) lo hi v ∧
            (r₁.obj Realm.globalId).own key = some (.plain v)) ∧
          ∀ replies result r₂,
            (evaluate (wrapper slot vars) r₁).answered replies = .done (result, r₂) →
            ∃ r', job.answered replies = .done (result, r') ∧
              ((∀ p, (r₂.obj Realm.globalId).own key = some p → p.configurable = true) →
                (r'.obj Realm.globalId).own key = none ∧ r₂.KeepsAllBut key r' ∧
                ∀ k ≠ key, (r'.obj Realm.globalId).own k = (r₂.obj Realm.globalId).own k)) ∧
      ∀ replies result r', job.answered replies = .done (result, r') →
        Ends evaluate slot source vars replies r result r') ∧
    ((content source vars).field? sourceKey = some (.str source) ∧ isUsable sourceKey = false ∧
      ∀ name, isUsable name = true → (content source vars).field? name = vars.lookup name) ∧
    (∀ o ∈ t.sandbox.worker.outcomes, t.jobs[o.ticket]? = some (.scoped source vars slot) →
      ∃ r r' result, q.realm o.ticket = some r ∧ q.realm (o.ticket + 1) = some r' ∧
        o.result = result.map some ∧
        (evaluateWith evaluate slot source vars r).answered (q.replies o.ticket) =
          .done (result, r')) := by
  intro slot key t q
  have hn : Named key := named_slotName label
  refine ⟨fun evaluate r => ⟨fun hbad => ?_, fun hnames hglobal => ⟨?_, ?_, fun r₁ hplace => ⟨?_, ?_⟩⟩,
    fun replies result r' => ends_of_answered⟩, ⟨?_, ?_, ?_⟩, fun o ho hjob => ?_⟩
  · obtain ⟨name, value, hmem, hname, hall⟩ := evaluateWith_of_unusable hbad
    exact ⟨name, value, hmem, hname, hall .., rfl⟩
  · exact exists_place hglobal
  · intro e hplace
    exact ⟨evaluateWith_of_place_error hnames hplace,
      fun p hp => configurable_of_place hglobal hplace hp⟩
  · exact keepsAllBut_place hglobal hn hplace
  · intro replies result r₂ heval
    refine ⟨r₂.dropGlobal slot, ?_, fun hp => ?_⟩
    · rw [evaluateWith_of_place_ok hnames hplace, GuestTask.answered_bind_done, heval]
      rfl
    · obtain ⟨hgone, hkeeps⟩ := Realm.keepsAllBut_dropGlobal hn hp
      exact ⟨hgone, hkeeps, fun k hk => hkeeps.own hk⟩
  · exact content_source source vars
  · exact isUsable_sourceKey
  · exact fun name hname => content_of_usable hname source vars
  · have ht : t.InOrder s₀.worker.realm := (inOrder_of_create h₀).run events
    obtain ⟨r', htask⟩ := ht.follows.keeps.ended o ho
    obtain ⟨r, hr, hon⟩ := Option.bind_eq_some_iff.1 htask
    obtain ⟨j, hj, hdone⟩ := Option.map_eq_some_iff.1 hon
    obtain rfl : j = .scoped source vars slot := Option.some.inj (hj.symm.trans hjob)
    have haction : (Job.scoped source vars slot).action r =
        (evaluateWith Guest.evaluate slot source vars r).bind fun x => .done (x.1.map some, x.2) := rfl
    rw [haction, GuestTask.answered_bind_done] at hdone
    obtain ⟨⟨result, r''⟩, heval, hlast⟩ := GuestTask.bind_eq_done hdone
    obtain ⟨hresult, hrealm⟩ := Prod.mk.inj (GuestTask.done.inj hlast)
    obtain rfl : r'' = r' := hrealm
    exact ⟨r, r'', result, hr, Sequence.realm_succ_of_done htask, hresult.symm, heval⟩

/-- The caller's time is over long before the script throws. -/
def lateThrow : List Event :=
  [.call (.scoped "sleep(10); throw x" [("x", .nat 7)] (slotName "a-b")) (some 5), .step 0, .step 0,
    .sandbox .work, .sandbox (.pass 5), .look 0, .sandbox (.pass 5), .sandbox .work]

theorem scoped_leaves_no_trace_lateThrow :
    ∃ s₀ : Sandbox, Sandbox.create true {} { files := ⟨[]⟩ } {} = .ok s₀ ∧
      let t := (of s₀).run lateThrow
      let q := t.sequence s₀.worker.realm
      let vars := [("x", Json.nat 7)]
      t.callers.map (·.place.told?) = [some (5, .error (.timedOut 5))] ∧
      ∃ o r r' result, t.jobs[0]? = some (.scoped "sleep(10); throw x" vars (slotName "a-b")) ∧
        t.sandbox.worker.outcomes = [o] ∧ o.moment = 10 ∧
        q.realm 0 = some r ∧ q.realm 1 = some r' ∧ o.result = result.map some ∧
        Ends evaluate (slotName "a-b") "sleep(10); throw x" vars (q.replies 0) r result r' ∧
        (t.sandbox.worker.realm.obj Realm.globalId).own (Units.ofString (slotName "a-b")) = none := by
  have run : Sandbox.passes (Sandbox.create true {} { files := ⟨[]⟩ } {}) (fun s =>
      let t := (of s).run lateThrow
      decide (t.callers.map (·.place.told?) = [some (5, .error (.timedOut 5))]) &&
        decide (t.sandbox.worker.outcomes.map (fun o => (o.ticket, o.moment)) = [(0, 10)]) &&
        ((t.sandbox.worker.realm.obj Realm.globalId).own
          (Units.ofString (slotName "a-b"))).isNone &&
        decide (t.jobs[0]? = some (.scoped "sleep(10); throw x" [("x", .nat 7)] (slotName "a-b")))) =
      true := by decide +kernel
  obtain ⟨s₀, h, hchecked⟩ := Sandbox.exists_of_passes run
  obtain ⟨⟨⟨hcallers, houtcomes⟩, hgone⟩, hjobs⟩ := by
    simpa only [Bool.and_eq_true, decide_eq_true_eq, Option.isNone_iff_eq_none] using hchecked
  obtain ⟨o, rest, hmem, ho, hrest⟩ := List.map_eq_cons_iff.1 houtcomes
  obtain rfl : rest = [] := List.map_eq_nil_iff.1 hrest
  obtain ⟨hticket, hmoment⟩ := Prod.mk.inj ho
  obtain ⟨hany, -, hjobs'⟩ :=
    scoped_leaves_no_trace h lateThrow "a-b" "sleep(10); throw x" [("x", .nat 7)]
  obtain ⟨r, r', result, hr, hr', hresult, hend⟩ :=
    hjobs' o (by rw [hmem]; exact List.mem_singleton_self o) (by rw [hticket]; exact hjobs)
  rw [hticket] at hr hr' hend
  exact ⟨s₀, h, hcallers, o, r, r', result, hjobs, hmem, hmoment, hr, hr', hresult,
    (hany _ r).2.2 _ _ _ hend, hgone⟩

end Service

end ScriptSandbox
