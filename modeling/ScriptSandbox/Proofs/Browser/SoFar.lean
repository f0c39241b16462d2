import Mathlib.Data.List.Infix
import ScriptSandbox.Proofs.Browser.Talk

/-!
# What an operation has said so far

An operation can be broken off or abandoned at any moment, or just not be at its end yet. What it
has said to its page by then is the beginning of what it says in some course of its work; and unless
it was broken off, it ends as this course does, with all of it said (`said_so_far`).
-/

namespace ScriptSandbox

/-- A page at which every call fails. -/
def PageBehaviour.broken : PageBehaviour := fun _ _ => (0, .error .sessionClosed)

theorem PageTask.exists_tells (t : Rest) (now : Nat) :
    ∃ r ms, PageTask.Tells False r t now ms := by
  obtain ⟨xs, f, r, h, -⟩ := PageTask.exists_course PageBehaviour.broken t 0 now
  exact ⟨r, _, xs, f, h.imp False.elim, rfl⟩

/-- The operation has been broken off, because its session was closed or its time was over. -/
def BrokenOff (r : Except Failure Report) : Prop :=
  r = .error .sessionClosed ∨ ∃ session : Session, r = .error session.lifetimeFailure

namespace Scene

variable {w w' : Scene} {e : Event} {i : TaskId} {s : SessionId} {p : Progress}
  {session₀ session : Session} {r : Except Failure Report}

/-! ## From every place there is an end -/

theorem exists_tells (session₀ : Session) (now : Nat) (p : Progress) :
    ∃ r ms, p.Tells False r session₀ now ms := by
  cases p with
  | queued op | acquiring op | opening op =>
    obtain ⟨r, ms, h⟩ := PageTask.exists_tells (op.work session₀.options).run now
    exact ⟨r, ms, fun _ => .inr ⟨now, Nat.le_refl _, h⟩⟩
  | acting page rest =>
    obtain ⟨r, ms, h⟩ := PageTask.exists_tells rest now
    cases page with
    | none => exact ⟨r, ms, trivial⟩
    | some page => exact ⟨r, ms, h⟩
  | asking page c next =>
    obtain ⟨r, ms, h⟩ := PageTask.exists_tells (next (.error .sessionClosed)) now
    exact ⟨r, _, now, _, ms, Nat.le_refl _, rfl, h⟩
  | askingUntil deadline page c next =>
    obtain ⟨r, ms, h⟩ := PageTask.exists_tells (next none) now
    exact ⟨r, _, now, none, ms, Nat.le_refl _, False.elim, rfl, h⟩
  | pausing deadline page rest =>
    obtain ⟨r, ms, h⟩ := PageTask.exists_tells rest (max now deadline)
    cases page with
    | none => exact ⟨r, ms, trivial⟩
    | some page =>
      exact ⟨r, ms, _, Nat.le_max_left .., Nat.le_max_right .., False.elim, h⟩
  | saving page path content next =>
    obtain ⟨r, ms, h⟩ := PageTask.exists_tells (next (.ok 0)) now
    cases page with
    | none => exact ⟨r, ms, trivial⟩
    | some page => exact ⟨r, ms, now, _, Nat.le_refl _, h⟩
  | done r => exact ⟨r, [], rfl, rfl⟩

/-- Where an answer comes in, there is an end after it. -/
theorem exists_tells_hears (session₀ : Session) (now : Nat) (answers : Answers) (p : Progress) :
    ∃ r ms, p.Tells False r session₀ now ms ∧ (Task.operation s p).hears now answers <+: ms := by
  cases p with
  | asking page c next =>
    obtain ⟨r, ms, h⟩ := PageTask.exists_tells (next (answers (.page page c))) now
    exact ⟨r, _, ⟨now, _, ms, Nat.le_refl _, rfl, h⟩, List.prefix_append [_] ms⟩
  | askingUntil deadline page c next =>
    obtain ⟨r, ms, h⟩ := PageTask.exists_tells (next (some (answers (.page page c)))) now
    exact ⟨r, _, ⟨now, some (answers (.page page c)), ms, Nat.le_refl _, False.elim, rfl, h⟩,
      List.prefix_append [_] ms⟩
  | queued | acquiring | opening | acting | pausing | saving | done =>
    obtain ⟨r, ms, h⟩ := exists_tells session₀ now _
    exact ⟨r, ms, h, List.nil_prefix⟩

/-! ## Nothing more is said -/

/-- A task that does not move and takes no answer says nothing and hears nothing. -/
theorem marks_of_still {task : Task} (hi : w.tasks[i]? = some task) (hstill : w.apply (.step i) = w)
    (hdeaf : ∀ answers, task.hears w.now answers = []) : w.marks i e = [] := by
  cases e with
  | step j =>
    by_cases hj : j = i
    · subst hj
      rw [marks, if_pos rfl, hstill, newCalls_of_same rfl, List.map_nil]
    · exact if_neg hj
  | answer j answers =>
    by_cases hj : j = i
    · subst hj
      rw [marks, if_pos rfl, task_eq_of_getElem? hi, hdeaf]
    · exact if_neg hj
  | _ => rfl

theorem marks_of_done (hi : w.tasks[i]? = some (.operation s (.done r))) : w.marks i e = [] :=
  marks_of_still hi (still_of_done hi rfl) fun _ => rfl

theorem marks_of_gone (hi : w.tasks[i]? = some .gone) : w.marks i e = [] := by
  refine marks_of_still hi ?_ fun _ => rfl
  simp only [apply, step, hi, Option.getD_none]

theorem talk_eq_nil {P : Scene → Prop} (stay : ∀ w, P w → ∀ e, P (w.apply e))
    (still : ∀ w, P w → ∀ e, w.marks i e = []) (hw : P w) (later : List Event) :
    w.talk i later = [] := by
  induction later generalizing w with
  | nil => rfl
  | cons e later ih => rw [talk, still w hw e, ih (stay w hw e), List.nil_append]

theorem talk_of_done (hi : w.tasks[i]? = some (.operation s (.done r))) (later : List Event) :
    w.talk i later = [] :=
  talk_eq_nil (P := fun w => w.tasks[i]? = some (.operation s (.done r)))
    (fun _ hi e => done_apply hi e) (fun _ hi _ => marks_of_done hi) hi later

theorem talk_of_gone (hi : w.tasks[i]? = some .gone) (later : List Event) : w.talk i later = [] :=
  talk_eq_nil (P := fun w => w.tasks[i]? = some .gone) (fun _ hi e => gone_apply hi e)
    (fun _ hi _ => marks_of_gone hi) hi later

/-! ## All that is said -/

/-- What a place can say and end with, against what has been said and come of it. -/
def SaysSoFar (session₀ : Session) (now : Nat) (p : Progress) (said : List Mark)
    (ended : Except Failure Report → Prop) : Prop :=
  ∃ r ms, p.Tells False r session₀ now ms ∧ said <+: ms ∧
    ∀ r', ended r' → r' = r ∧ said = ms ∨ BrokenOff r'

/-- An operation that is broken off says nothing more. -/
theorem saysSoFar_of_interrupted (hi : w.tasks[i]? = some (.operation s p))
    (hint : w.interrupted s i p = some w') (he : e.IsOwn i) (later : List Event) :
    SaysSoFar session₀ w.now p (w.talk i (e :: later)) ((w.run (e :: later)).Ended s i) := by
  have happly := apply_own_of_interrupted hi hint he
  obtain ⟨-, session, session', f, hsess, hf, rfl⟩ := interrupted_eq_some hint
  have hended : (w.apply e).Ended s i (.error f) := by
    rw [happly, Ended, finish_tasks, putSession_tasks,
      List.getElem?_set_self (lt_length_of_getElem? hi)]
  have hbroken : BrokenOff (.error f) := by
    unfold Session.interruption at hf
    split_ifs at hf
    · exact .inl (by rw [(Prod.mk.inj (Option.some.inj hf)).2])
    · exact .inr ⟨session, by rw [(Prod.mk.inj (Option.some.inj hf)).2]⟩
  have hall : ∀ r', (w.run (e :: later)).Ended s i r' → BrokenOff r' := by
    intro r' hr'
    rwa [(hended.run later).unique hr'] at hbroken
  have htalk : w.talk i (e :: later) = w.marks i e := by
    rw [talk, talk_of_done hended, List.append_nil]
  rw [htalk]
  cases e with
  | step j =>
    obtain rfl : j = i := he
    have hnothing : w.marks j (.step j) = [] := by
      rw [marks, if_pos rfl, happly, newCalls_of_same (by simp), List.map_nil]
    obtain ⟨r, ms, h⟩ := exists_tells session₀ w.now p
    rw [hnothing]
    exact ⟨r, ms, h, List.nil_prefix, fun r' hr' => .inr (hall r' hr')⟩
  | answer j answers =>
    obtain rfl : j = i := he
    obtain ⟨r, ms, h, hprefix⟩ := exists_tells_hears (s := s) session₀ w.now answers p
    rw [marks, if_pos rfl, task_eq_of_getElem? hi]
    exact ⟨r, ms, h, hprefix, fun r' hr' => .inr (hall r' hr')⟩
  | _ => exact he.elim

theorem says_so_far (ho : SessionOrder w) (hk : w.Keeps s session₀)
    (hi : w.tasks[i]? = some (.operation s p)) (later : List Event) :
    SaysSoFar session₀ w.now p (w.talk i later) ((w.run later).Ended s i) := by
  induction later generalizing w p with
  | nil =>
    obtain ⟨r, ms, h⟩ := exists_tells session₀ w.now p
    refine ⟨r, ms, h, List.nil_prefix, fun r' hr' => .inl ?_⟩
    obtain rfl : p = .done r' := by simpa [Ended, run, hi] using hr'
    exact ⟨h.2.symm, h.1.symm⟩
  | cons e later ih =>
    by_cases hbroken : e.IsOwn i ∧ w.interrupted s i p ≠ none
    · obtain ⟨w', hint⟩ := Option.ne_none_iff_exists'.1 hbroken.2
      exact saysSoFar_of_interrupted hi hint hbroken.1 later
    · have hint (he : e.IsOwn i) : w.interrupted s i p = none :=
        not_not.1 fun h => hbroken ⟨he, h⟩
      -- the place that comes next does not depend on the end, which is only known from there
      have next (r : Except Failure Report) :
          LeadsOn False r session₀ s i w.now p (w.marks i e) (w.apply e) ∨
            e = .abandon i ∧ (w.apply e).tasks[i]? = some .gone :=
        leadsOn_apply ho hint hk hi False.elim
      rcases next (.ok .nothing) with ⟨p', hi', -⟩ | ⟨rfl, hgone⟩
      · obtain ⟨r, ms, h, hprefix, hend⟩ := ih (ho.apply e) (hk.apply ho e) hi'
        rcases next r with ⟨p'', hi'', hlead⟩ | ⟨-, hgone⟩
        · obtain rfl : p' = p'' := by
            rw [hi'] at hi''
            simpa using hi''
          refine ⟨r, _, hlead ms h, (List.prefix_append_right_inj _).2 hprefix, fun r' hr' => ?_⟩
          exact (hend r' hr').imp_left (And.imp_right fun hms => by rw [talk, hms])
        · rw [hi'] at hgone
          cases hgone
      · obtain ⟨r, ms, h⟩ := exists_tells session₀ w.now p
        have hsilent : w.talk i (.abandon i :: later) = [] := talk_of_gone hgone later
        rw [hsilent]
        refine ⟨r, ms, h, List.nil_prefix, fun r' hr' => ?_⟩
        rw [show w.run (.abandon i :: later) = (w.apply (.abandon i)).run later from rfl, Ended,
          gone_run hgone later] at hr'
        cases hr'

/-- An operation that begins now, and what it has said to its page at some later moment: the
beginning of what it says in a course of its work. If it has come to its end by then, it has ended
as this course does, or it has never got a page, or it has been broken off. -/
theorem said_so_far {op : Operation} (ho : SessionOrder w) (hsess : w.sessions[s]? = some session)
    (he : e.StartsOperation s) (hop : e.operation = .ok (some op)) (hneeds : op.needsPage = true)
    (later : List Event) :
    ∃ t xs f r, (op.work session.options).Course False t xs f r ∧
      (w.apply e).talk w.tasks.length later <+: xs.flatMap Exchange.marks ∧
      ∀ r', (w.run (e :: later)).Ended s w.tasks.length r' →
        r' = r ∧ (w.apply e).talk w.tasks.length later = xs.flatMap Exchange.marks ∨
          (w.apply e).talk w.tasks.length later = [] ∧ (∃ f, r' = .error f) ∨ BrokenOff r' := by
  obtain ⟨r₀, -, xs₀, f₀, h₀, -⟩ := PageTask.exists_tells (op.work session.options).run 0
  by_cases hover : session.IsOver w.pool w.now
  · have hdone : (w.apply e).Ended s w.tasks.length (.error .sessionClosed) := by
      rw [he.apply ⟨session, hsess, hover⟩]
      simp [Ended, refuse]
    rw [talk_of_done hdone]
    refine ⟨0, xs₀, f₀, r₀, h₀, List.nil_prefix, fun r' hr' => .inr (.inr (.inl ?_))⟩
    exact hr'.unique (hdone.run later)
  · have hkeeps : w.Keeps s session := ⟨session, hsess, rfl, id⟩
    rcases he.begins hsess hover with ⟨op', hop', hi⟩ | ⟨f, hf, -⟩
    · obtain rfl : op = op' := by
        rw [hop] at hop'
        simpa using hop'
      obtain ⟨r, ms, htells, hprefix, hend⟩ :=
        says_so_far (ho.apply e) (hkeeps.apply ho e) hi later
      rcases htells hneeds with ⟨-, rfl, hfails⟩ | ⟨t, -, xs, f, h, rfl⟩
      · have hnothing := List.prefix_nil.1 hprefix
        rw [hnothing]
        refine ⟨0, xs₀, f₀, r₀, h₀, List.nil_prefix, fun r' hr' => .inr ?_⟩
        refine (hend r' hr').imp_left ?_
        rintro ⟨rfl, -⟩
        exact ⟨rfl, hfails⟩
      · exact ⟨t, xs, f, r, h, hprefix, fun r' hr' => (hend r' hr').imp_right .inr⟩
    · rw [hop] at hf
      simp at hf

end Scene

end ScriptSandbox
