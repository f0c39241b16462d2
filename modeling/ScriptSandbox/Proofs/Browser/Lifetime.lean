import ScriptSandbox.Proofs.Browser.OwnResult

/-!
# Lifetime and cancellation

At each instant an operation has its turn once, after all that others do at this instant, and then
goes as far as it can. If its session has been cancelled by then, or its time is over, the operation
ends with this turn; only otherwise can it end with its own result (`operation_outcome`).
-/

namespace ScriptSandbox.Scene

variable {w w' : Scene} {e : Event} {i : TaskId} {s : SessionId} {p : Progress}
variable {session session₀ : Session} {op : Operation}

/-! ## Instants -/

/-- An instant, as an operation sees it: what others do before its turn, and what is done in it. -/
structure Instant where
  others : List Event := []
  moves : List Event

def Instant.turn (w : Scene) (x : Instant) : Scene := w.run x.others

def Instant.after (w : Scene) (x : Instant) : Scene := (x.turn w).run x.moves

/-- The scene after some instants. -/
def through (w : Scene) (xs : List Instant) : Scene := xs.foldl Instant.after w

def isCancelled (w : Scene) (s : SessionId) : Bool := w.sessions[s]?.any (·.isCancelled w.pool)

/-- The events are moves of the operation, or what others do meanwhile. No time passes, and nobody
but the operation itself cancels the session: whoever does so later counts for the next turn. -/
def Undisturbed (s : SessionId) (i : TaskId) : Scene → List Event → Prop
  | _, [] => True
  | w, e :: rest =>
    (e.IsOwn i ∨
      e.mover ≠ some i ∧ e.IsTimeless ∧ (w.apply e).isCancelled s = w.isCancelled s) ∧
    Undisturbed s i (w.apply e) rest

/-- The operation has its turn: it does not move before, and does not stop before it has to wait. -/
structure Instant.Fair (s : SessionId) (i : TaskId) (w : Scene) (x : Instant) : Prop where
  others : ∀ e ∈ x.others, e.mover ≠ some i
  undisturbed : Undisturbed s i (x.turn w) x.moves
  waits : (x.after w).step i = none

/-- The operation has its turn at each of these instants. -/
def Fair (s : SessionId) (i : TaskId) : Scene → List Instant → Prop
  | _, [] => True
  | w, x :: rest => x.Fair s i w ∧ Fair s i (x.after w) rest

theorem fair_append {xs ys : List Instant} :
    Fair s i w (xs ++ ys) ↔ Fair s i w xs ∧ Fair s i (w.through xs) ys := by
  induction xs generalizing w with
  | nil => simp [Fair, through]
  | cons x xs ih => simp only [List.cons_append, Fair, ih, and_assoc, through, List.foldl_cons]

/-! ## What breaks operations off -/

/-- The session with this number has been opened as the given one was. -/
def HasTerms (w : Scene) (s : SessionId) (session₀ : Session) : Prop :=
  ∃ session, w.sessions[s]? = some session ∧ session.label = session₀.label ∧
    session.options = session₀.options ∧ session.deadline = session₀.deadline

theorem HasTerms.apply (h : w.HasTerms s session₀) (ho : SessionOrder w) (e : Event) :
    (w.apply e).HasTerms s session₀ := by
  obtain ⟨session, hsess, hl, hopt, hd⟩ := h
  obtain ⟨session', hsess', hnext⟩ := apply_next ho.orderly e hsess
  exact ⟨session', hsess', hnext.label_eq.trans hl, hnext.options_eq.trans hopt,
    hnext.deadline_eq.trans hd⟩

theorem HasTerms.run (h : w.HasTerms s session₀) (ho : SessionOrder w) (later : List Event) :
    (w.run later).HasTerms s session₀ :=
  ho.run_induction (P := fun t => t.HasTerms s session₀) h fun _ ho h e _ => h.apply ho e

/-- What breaks off the operations of a session at this moment. -/
def breach (w : Scene) (s : SessionId) (session₀ : Session) : Option Failure :=
  if w.isCancelled s then some .sessionClosed
  else if session₀.deadline ≤ w.now then some session₀.lifetimeFailure
  else none

theorem isCancelled_eq (hsess : w.sessions[s]? = some session) :
    w.isCancelled s = session.isCancelled w.pool := by
  rw [isCancelled, hsess]
  rfl

theorem HasTerms.interruption (h : w.HasTerms s session₀)
    (hsess : w.sessions[s]? = some session) :
    (session.interruption w.pool w.now).map Prod.snd = w.breach s session₀ := by
  obtain ⟨session', hsess', hl, -, hd⟩ := h
  obtain rfl : session = session' := Option.some.inj (hsess.symm.trans hsess')
  unfold Session.interruption breach
  rw [isCancelled_eq hsess, ← hd]
  split
  · rfl
  · split
    · simp [Session.lifetimeFailure, hl]
    · rfl

theorem HasTerms.running (h : w.HasTerms s session₀) (hb : w.breach s session₀ = none) :
    w.Running s := by
  obtain ⟨session, hsess, -⟩ := id h
  refine ⟨session, hsess, ?_⟩
  have := h.interruption hsess
  rw [hb] at this
  simpa using this

/-- An operation that waits ends with the failure that breaks it off, and its session is closed. -/
theorem HasTerms.broken_off {f : Failure} (h : w.HasTerms s session₀)
    (hi : w.tasks[i]? = some (.operation s p)) (hw : p.waits = true)
    (hb : w.breach s session₀ = some f) :
    ∃ w', w.interrupted s i p = some w' ∧ w'.Ended s i (.error f) ∧ w'.Shut s := by
  obtain ⟨session, hsess, -⟩ := id h
  have hint := h.interruption hsess
  rw [hb, Option.map_eq_some_iff] at hint
  obtain ⟨⟨session', f'⟩, hint, rfl⟩ := hint
  have hlt := (List.getElem?_eq_some_iff.1 hsess).1
  refine ⟨(w.putSession s session').finish s i (.error f'), ?_, ?_, session'.leave i, ?_, ?_⟩
  · simp only [interrupted, hw, Bool.not_true, Bool.false_eq_true, if_false, hsess, hint]
  · rw [Ended, finish_tasks, putSession_tasks, List.getElem?_set_self (lt_length_of_getElem? hi)]
  · have hsess' : (w.putSession s session').sessions[s]? = some session' := by
      rw [putSession_sessions, List.getElem?_set_self hlt]
    rw [finish_sessions, modify_of_getElem? _ hsess', List.getElem?_set_self (by simpa using hlt)]
  · rw [finish_pool]
    show session'.isClosed w.pool = true
    unfold Session.interruption at hint
    split at hint
    · rename_i hc
      obtain ⟨rfl, -⟩ : session = session' ∧ _ := by simpa using hint
      rw [Session.isClosed, hc, Bool.or_true]
    · split at hint
      · obtain ⟨rfl, -⟩ : session.expire = session' ∧ _ := by simpa using hint
        rfl
      · simp at hint

theorem apply_own_of_interrupted (hi : w.tasks[i]? = some (.operation s p))
    (hint : w.interrupted s i p = some w') (he : e.IsOwn i) : w.apply e = w' := by
  cases e with
  | step j =>
    obtain rfl : j = i := he
    simp only [apply, step, hi, stepOperation, hint, Option.getD_some]
  | answer j answers =>
    obtain rfl : j = i := he
    simp only [apply, answer, hi, answerOperation, hint]
  | _ => exact he.elim

/-! ## Turns -/

theorem getElem?_run_of_ne {t : Task} {events : List Event} (hi : w.tasks[i]? = some t)
    (he : ∀ e ∈ events, e.mover ≠ some i) : (w.run events).tasks[i]? = some t :=
  run_induction (P := fun w => w.tasks[i]? = some t) hi fun _ hi e hmem =>
    getElem?_apply_of_ne hi (he e hmem)

theorem breach_apply (hn : e.IsTimeless) (hc : (w.apply e).isCancelled s = w.isCancelled s) :
    (w.apply e).breach s session₀ = w.breach s session₀ := by
  rw [breach, hc, now_apply hn, breach]

/-- The turn of an operation that is to be broken off. -/
theorem HasTerms.broken_turn {f : Failure} {moves : List Event} (h : w.HasTerms s session₀)
    (ho : SessionOrder w) (hi : w.tasks[i]? = some (.operation s p)) (hw : p.waits = true)
    (hb : w.breach s session₀ = some f) (hmoves : Undisturbed s i w moves)
    (hend : (w.run moves).step i = none) :
    (w.run moves).Ended s i (.error f) ∧ (w.run moves).Shut s := by
  induction moves generalizing w with
  | nil =>
    obtain ⟨w', hint, -⟩ := h.broken_off hi hw hb
    have hstep : w.step i = some w' := by simp only [step, hi, stepOperation, hint]
    rw [show w.run [] = w from rfl, hstep] at hend
    simp at hend
  | cons e rest ih =>
    obtain ⟨hfirst, hrest⟩ := hmoves
    rcases hfirst with hown | ⟨hne, hn, hc⟩
    · obtain ⟨w', hint, hended, hshut⟩ := h.broken_off hi hw hb
      show ((w.apply e).run rest).Ended s i (.error f) ∧ ((w.apply e).run rest).Shut s
      have ho' := ho.apply e
      rw [apply_own_of_interrupted hi hint hown] at ho' ⊢
      exact ⟨hended.run rest, hshut.run ho'.orderly rest⟩
    · exact ih (h.apply ho e) (ho.apply e) (getElem?_apply_of_ne hi hne)
        ((breach_apply hn hc).trans hb) hrest hend

/-- Among these moves is one with which the operation ends with this result of its own. -/
def YieldsWithin (w : Scene) (s : SessionId) (i : TaskId) (op : Operation) (o : SessionOptions)
    (moves : List Event) (r : Except Failure Report) : Prop :=
  ∃ before e later p, moves = before ++ e :: later ∧
    (w.run before).tasks[i]? = some (.operation s p) ∧ p.Of op o ∧ p.Yields op o i e r

theorem YieldsWithin.cons {o : SessionOptions} {moves : List Event} {r : Except Failure Report}
    (h : (w.apply e).YieldsWithin s i op o moves r) : w.YieldsWithin s i op o (e :: moves) r := by
  obtain ⟨before, e', later, p, rfl, hi, hp, hy⟩ := h
  exact ⟨e :: before, e', later, p, rfl, hi, hp, hy⟩

/-- The turn of an operation that nothing breaks off. -/
theorem HasTerms.running_turn {moves : List Event} (h : w.HasTerms s session₀)
    (ho : SessionOrder w) (hi : w.tasks[i]? = some (.operation s p))
    (hp : p.Of op session₀.options) (hb : w.breach s session₀ = none)
    (hmoves : Undisturbed s i w moves) :
    (w.run moves).GoesOn s i op session₀.options fun r =>
      w.Ended s i r ∨ w.YieldsWithin s i op session₀.options moves r := by
  induction moves generalizing w p with
  | nil =>
    refine ⟨p, hi, hp, fun r hr => .inl ?_⟩
    rw [Ended, hi, hr]
  | cons e rest ih =>
    obtain ⟨hfirst, hrest⟩ := hmoves
    rcases hfirst with hown | ⟨hne, hn, hc⟩
    · obtain ⟨session, hsess, -, hopt, -⟩ := id h
      obtain ⟨hr', q, hq, hqof, hqend⟩ :=
        (h.running hb).own_move ho hi hp hsess hopt hown
      have hb' : (w.apply e).breach s session₀ = none := by
        obtain ⟨session', hsess', -⟩ := id (h.apply ho e)
        rw [← (h.apply ho e).interruption hsess', hr'.of_session hsess', Option.map_none]
      obtain ⟨q', hq', hqof', hqend'⟩ := ih (h.apply ho e) (ho.apply e) hq hqof hb' hrest
      refine ⟨q', hq', hqof', fun r hr => ?_⟩
      rcases hqend' r hr with hended | hwithin
      · have : q = .done r := by
          rw [Ended, hq] at hended
          simpa using hended
        rcases hqend r this with hended | hyields
        · exact .inl hended
        · exact .inr ⟨[], e, rest, p, rfl, hi, hp, hyields⟩
      · exact .inr hwithin.cons
    · obtain ⟨q, hq, hqof, hqend⟩ := ih (h.apply ho e) (ho.apply e)
        (getElem?_apply_of_ne hi hne) hp ((breach_apply hn hc).trans hb) hrest
      refine ⟨q, hq, hqof, fun r hr => ?_⟩
      rcases hqend r hr with hended | hwithin
      · refine .inl ?_
        rw [Ended, getElem?_apply_of_ne hi hne] at hended
        rwa [Ended, hi]
      · exact .inr hwithin.cons

/-- What does not move by itself waits, or has come to its end. -/
theorem waits_of_step_eq_none (hi : w.tasks[i]? = some (.operation s p))
    (hstep : w.step i = none) : p.waits = true ∨ ∃ r, p = .done r := by
  by_cases hw : p.waits = true
  · exact .inl hw
  · have hint : w.interrupted s i p = none := interrupted_of_not_waits (by simpa using hw)
    cases p with
    | done r => exact .inr ⟨r, rfl⟩
    | acting page rest => simp [step, hi, stepOperation, hint] at hstep
    | acquiring op a =>
      by_cases hd : ∃ r, a = .done r
      · obtain ⟨f | process, rfl⟩ := hd <;> simp [step, hi, stepOperation, hint] at hstep
      · obtain ⟨m, hm, hlt⟩ := Acquire.exists_step (by simpa [Progress.waits] using hw)
          (fun r hr => hd ⟨r, hr⟩) i w.pool
        -- the step has changed nothing, and yet it has brought the task nearer to a wait
        have hsame : w = (w.takePoolMove m).put i (.operation s (.acquiring op m.place)) := by
          rw [← apply_step_acquiring hi hint hm, apply, hstep, Option.getD_none]
        have hplace : w.tasks[i]? = some (.operation s (.acquiring op m.place)) := by
          rw [hsame, put_tasks, takePoolMove_tasks,
            List.getElem?_set_self (lt_length_of_getElem? hi)]
        obtain rfl : a = m.place := by
          rw [hi] at hplace
          simpa using hplace
        omega
    | _ => simp [Progress.waits] at hw

/-! ## The life of an operation -/

/-- The operation is under way or has come to its end, at a place where it does not move by
itself. -/
structure Standing (w : Scene) (s : SessionId) (i : TaskId) (op : Operation) (session₀ : Session) :
    Prop where
  order : SessionOrder w
  terms : w.HasTerms s session₀
  task : ∃ p, w.tasks[i]? = some (.operation s p) ∧ p.Of op session₀.options ∧
    (p.waits = true ∨ ∃ r, p = .done r)

/-- From now on the session is closed, and refuses every operation as closed. -/
def ClosedForGood (w : Scene) (s : SessionId) : Prop :=
  ∀ later, (w.run later).sessionState s = .closed ∧
    ∀ e : Event, e.StartsOperation s →
      ((w.run later).apply e).Refused s (w.run later).tasks.length

theorem Shut.closedForGood (h : w.Shut s) (ho : SessionOrder w) : w.ClosedForGood s := by
  intro later
  obtain hshut := h.run ho.orderly later
  refine ⟨hshut.sessionState, fun e he => refused_of_getElem? ?_⟩
  obtain ⟨session, hsess, hc⟩ := hshut
  rw [he.apply ⟨session, hsess, .inl hc⟩]
  simp [refuse]

/-- How an operation ends that ends with this turn. -/
structure Outcome (u z : Scene) (s : SessionId) (i : TaskId) (op : Operation) (session₀ : Session)
    (moves : List Event) (r : Except Failure Report) : Prop where
  cancelled : u.isCancelled s = true → r = .error .sessionClosed ∧ z.ClosedForGood s
  expired : u.isCancelled s = false → session₀.deadline ≤ u.now →
    r = .error session₀.lifetimeFailure ∧ z.ClosedForGood s
  own : u.isCancelled s = false → u.now < session₀.deadline →
    u.YieldsWithin s i op session₀.options moves r

theorem Standing.turn {x : Instant} (h : w.Standing s i op session₀) (hx : x.Fair s i w) :
    (x.turn w).Standing s i op session₀ := by
  obtain ⟨p, hi, hp⟩ := h.task
  exact ⟨h.order.run x.others, h.terms.run h.order x.others, p, getElem?_run_of_ne hi hx.others, hp⟩

theorem Ended.unique {r r' : Except Failure Report} (h : w.Ended s i r) (h' : w.Ended s i r') :
    r = r' := by
  unfold Ended at h h'
  rw [h] at h'
  simpa using h'

theorem breach_eq_none :
    w.breach s session₀ = none ↔ w.isCancelled s = false ∧ w.now < session₀.deadline := by
  unfold breach
  cases w.isCancelled s with
  | true => simp
  | false => simp

/-- An operation that is broken off ends with what has broken it off. -/
theorem outcome_of_breach {u z : Scene} {f : Failure} {moves : List Event}
    (hb : u.breach s session₀ = some f) (hz : z.ClosedForGood s) :
    Outcome u z s i op session₀ moves (.error f) := by
  unfold breach at hb
  refine ⟨fun hc => ?_, fun hc hd => ?_, fun hc hd => ?_⟩
  · rw [if_pos hc] at hb
    exact ⟨congrArg Except.error (Option.some.inj hb).symm, hz⟩
  · rw [if_neg (by simp [hc]), if_pos hd] at hb
    exact ⟨congrArg Except.error (Option.some.inj hb).symm, hz⟩
  · rw [if_neg (by simp [hc]), if_neg (by omega)] at hb
    simp at hb

/-- What one instant brings an operation. -/
theorem Standing.after {x : Instant} (h : w.Standing s i op session₀) (hx : x.Fair s i w) :
    (x.after w).Standing s i op session₀ ∧
      ((x.turn w).breach s session₀ ≠ none → ∃ r, (x.after w).Ended s i r) ∧
      ∀ r, (x.after w).Ended s i r → (∀ r', ¬ w.Ended s i r') →
        Outcome (x.turn w) (x.after w) s i op session₀ x.moves r := by
  obtain ⟨p, hi, hp, hplace⟩ := h.task
  have hu := h.turn hx
  have hiu : (x.turn w).tasks[i]? = some (.operation s p) := getElem?_run_of_ne hi hx.others
  have hz : SessionOrder (x.after w) := hu.order.run x.moves
  have terms : (x.after w).HasTerms s session₀ := hu.terms.run hu.order x.moves
  -- an operation that has ended has nothing to show any more
  have ended {r : Except Failure Report} (hend : (x.after w).Ended s i r) :
      (x.after w).Standing s i op session₀ := ⟨hz, terms, .done r, hend, trivial, .inr ⟨r, rfl⟩⟩
  rcases hplace with hw | ⟨r, rfl⟩
  · cases hb : (x.turn w).breach s session₀ with
    | none =>
      obtain ⟨q, hq, hqof, hqend⟩ := hu.terms.running_turn hu.order hiu hp hb hx.undisturbed
      refine ⟨⟨hz, terms, q, hq, hqof, waits_of_step_eq_none hq hx.waits⟩, by simp, ?_⟩
      intro r hr hnot
      obtain rfl : q = .done r := by
        rw [Ended, show (x.after w).tasks[i]? = _ from hq] at hr
        simpa using hr
      obtain ⟨hc, hd⟩ := breach_eq_none.1 hb
      refine ⟨by simp [hc], fun _ => by omega, fun _ _ => ?_⟩
      refine (hqend r rfl).resolve_left fun hu' => hnot r ?_
      rwa [Ended, hi, ← hiu]
    | some f =>
      obtain ⟨hend, hshut⟩ := hu.terms.broken_turn hu.order hiu hw hb hx.undisturbed hx.waits
      refine ⟨ended hend, fun _ => ⟨_, hend⟩, fun r hr _ => ?_⟩
      obtain rfl := hend.unique hr
      exact outcome_of_breach hb (hshut.closedForGood hz)
  · have hend : (x.after w).Ended s i r := Ended.run hiu x.moves
    exact ⟨ended hend, fun _ => ⟨r, hend⟩, fun _ _ hnot => absurd hi (hnot r)⟩

theorem Standing.through {xs : List Instant} (h : w.Standing s i op session₀)
    (hxs : Fair s i w xs) : (w.through xs).Standing s i op session₀ := by
  induction xs generalizing w with
  | nil => exact h
  | cons x xs ih => exact ih (h.after hxs.1).1 hxs.2

theorem Ended.through {r : Except Failure Report} (h : w.Ended s i r) (xs : List Instant) :
    (w.through xs).Ended s i r := by
  induction xs generalizing w with
  | nil => exact h
  | cons x xs ih => exact ih ((h.run x.others).run x.moves)

/-! ## The beginning -/

/-- The operation that begins with this event, where its arguments are in order. -/
def Event.operation : Event → Except Failure (Option Operation)
  | .call _ c => c.operation.map some
  | .dispatch _ m args => Operation.ofMethod m args
  | _ => .ok none

theorem ensureOpen_of_not_isOver (hsess : w.sessions[s]? = some session)
    (hopen : ¬ session.IsOver w.pool w.now) : w.ensureOpen s = (w, .ok ()) := by
  unfold ensureOpen
  rw [hsess]
  simp only [Session.ensureOpen_of_not_isOver hopen, putSession_self hsess]

theorem enter_of_not_isOver (hsess : w.sessions[s]? = some session)
    (hopen : ¬ session.IsOver w.pool w.now) (op : Operation) :
    w.enter s op = (w.joinLine s).start (.operation s (.queued op)) := by
  unfold enter
  rw [ensureOpen_of_not_isOver hsess hopen]

/-- A call of an open session comes to what its arguments are like. -/
theorem beginCall_of_not_isOver (hsess : w.sessions[s]? = some session)
    (hopen : ¬ session.IsOver w.pool w.now) (c : SessionCall) :
    w.beginCall s c =
      match c.operation with
      | .error f => w.refuse s f
      | .ok op => w.enter s op := by
  unfold beginCall
  cases c.looksFirst with
  | true =>
    rw [if_pos rfl]
    unfold beginOperation
    rw [ensureOpen_of_not_isOver hsess hopen]
    cases c.operation <;> rfl
  | false => rfl

theorem ofMethod_ne_none {m : SessionMethod} (hm : m ≠ .close) (args : Arguments) :
    SessionCall.ofMethod m args ≠ .ok none := by
  intro h
  unfold SessionCall.ofMethod at h
  simp only [bind, Except.bind, pure, Except.pure] at h
  cases m with
  | close => exact hm rfl
  | submit | getHtml | getUrl => simp at h
  | navigate | wait | click | clear | evaluate | screenshot =>
    dsimp only at h
    split at h <;> simp at h
  | fill | waitForUrl | waitForText =>
    dsimp only at h
    split at h
    · simp at h
    · split at h <;> simp at h

/-- An operation that begins while its session is open gets into the line, or ends with what is
wrong with its arguments. -/
theorem Event.StartsOperation.begins (he : e.StartsOperation s)
    (hsess : w.sessions[s]? = some session) (hopen : ¬ session.IsOver w.pool w.now) :
    (∃ op, e.operation = .ok (some op) ∧
      (w.apply e).tasks[w.tasks.length]? = some (.operation s (.queued op))) ∨
    ∃ f, e.operation = .error f ∧ (w.apply e).Ended s w.tasks.length (.error f) := by
  have refused (f : Failure) : (w.refuse s f).1.Ended s w.tasks.length (.error f) := by
    simp [Ended, refuse]
  have entered (op : Operation) :
      (w.enter s op).1.tasks[w.tasks.length]? = some (.operation s (.queued op)) := by
    rw [enter_of_not_isOver hsess hopen, start_tasks, joinLine_eq hsess]
    simp
  have called (c : SessionCall) :
      (∃ op, c.operation = .ok op ∧
        (w.beginCall s c).1.tasks[w.tasks.length]? = some (.operation s (.queued op))) ∨
      ∃ f, c.operation = .error f ∧ (w.beginCall s c).1.Ended s w.tasks.length (.error f) := by
    rw [beginCall_of_not_isOver hsess hopen]
    cases hop : c.operation with
    | ok op => exact .inl ⟨op, rfl, entered op⟩
    | error f => exact .inr ⟨f, rfl, refused f⟩
  cases e with
  | call s' c =>
    obtain rfl : s' = s := he
    rcases called c with ⟨op, hop, hq⟩ | ⟨f, hf, hq⟩
    · exact .inl ⟨op, by rw [Event.operation, hop]; rfl, hq⟩
    · exact .inr ⟨f, by rw [Event.operation, hf]; rfl, hq⟩
  | dispatch s' m args =>
    obtain ⟨rfl, hm⟩ : s' = s ∧ m ≠ .close := he
    have happ : w.apply (.dispatch s' m args) = (w.dispatch s' m args).1 := rfl
    rw [happ, Event.operation, Operation.ofMethod, Scene.dispatch, if_neg hm,
      ensureOpen_of_not_isOver hsess hopen]
    cases hc : SessionCall.ofMethod m args with
    | error f => exact .inr ⟨f, rfl, refused f⟩
    | ok c =>
      cases c with
      | none => exact absurd hc (ofMethod_ne_none hm args)
      | some c =>
        rcases called c with ⟨op, hop, hq⟩ | ⟨f, hf, hq⟩
        · exact .inl ⟨op, by simp [hop, bind, Except.bind]; rfl, hq⟩
        · exact .inr ⟨f, by simp [hf, bind, Except.bind], hq⟩
  | _ => exact he.elim

/-! ## All together -/

/-- An operation begins while its session is open, and from then on has its turn at each instant:

* it gets into the line, or ends at once with what is wrong with its arguments;
* when it has its turn and the session has been cancelled or its time is over, it ends;
* once it has ended it has this one result for ever;
* what it ends with is that the session is closed, if the session has been cancelled by its turn,
  and otherwise that the lifetime is over, if the deadline has come; in both cases the session is
  closed for good. Only otherwise it is the operation's own result, which its moves have brought
  about at this instant. -/
theorem operation_outcome (options : LaunchOptions) (before : List Event) (s : SessionId) :
    let w := (fresh options).run before
    let i := w.tasks.length
    ∀ (session : Session) (e : Event), w.sessions[s]? = some session →
    ¬ session.IsOver w.pool w.now → e.StartsOperation s →
    ((∃ op, e.operation = .ok (some op) ∧
        (w.apply e).tasks[i]? = some (.operation s (.queued op))) ∨
      ∃ f, e.operation = .error f ∧ (w.apply e).Ended s i (.error f)) ∧
    session.lifetimeFailure.code = .timeout ∧
    ∀ (xs : List Instant) (x : Instant), Fair s i (w.apply e) (xs ++ [x]) →
      let v := (w.apply e).through xs
      let u := x.turn v
      let z := x.after v
      (u.isCancelled s = true ∨ session.deadline ≤ u.now → ∃ r, z.Ended s i r) ∧
      (∀ r, z.Ended s i r → ∀ later, (z.run later).Ended s i r) ∧
      (∀ r, z.Ended s i r → (∀ r', ¬ v.Ended s i r') →
        ∃ op, e.operation = .ok (some op) ∧ Outcome u z s i op session x.moves r) := by
  intro w i session e hsess hopen he
  have ho : SessionOrder w := sessionOrder_run options before
  have hbegins := he.begins hsess hopen
  refine ⟨hbegins, rfl, fun xs x hfair => ?_⟩
  intro v u z
  obtain ⟨hxs, hx, -⟩ := fair_append.1 hfair
  rcases hbegins with ⟨op, hop, hi⟩ | ⟨f, hf, hend⟩
  · have hterms : w.HasTerms s session := ⟨session, hsess, rfl, rfl, rfl⟩
    have hbegun : (w.apply e).Standing s i op session :=
      ⟨ho.apply e, hterms.apply ho e, .queued op, hi, rfl, .inl rfl⟩
    obtain ⟨-, hends, hout⟩ := (hbegun.through hxs).after hx
    refine ⟨fun hbreach => hends ?_, fun r hr later => hr.run later, fun r hr hnot => ?_⟩
    · intro hnone
      obtain ⟨hc, hd⟩ := breach_eq_none.1 hnone
      rcases hbreach with hcancelled | hexpired
      · rw [hc] at hcancelled
        simp at hcancelled
      · exact absurd hexpired (Nat.not_le_of_lt hd)
    · exact ⟨op, hop, hout r hr hnot⟩
  · have hv : v.Ended s i (.error f) := hend.through xs
    have hz : z.Ended s i (.error f) := (hv.run x.others).run x.moves
    exact ⟨fun _ => ⟨_, hz⟩, fun r hr later => hr.run later, fun r _ hnot => absurd hv (hnot _)⟩

/-- A browser that never comes up keeps its caller waiting for no longer than the session lasts. -/
theorem operation_outcome_noLaunch :
    let w := (fresh default).run [.openSession "a" { lifetime := 10 }]
    let v := (w.apply (.call 0 .getUrl)).through [⟨[], List.replicate 7 (.step 0)⟩]
    let z := Instant.after v ⟨[.pass 10], [.step 0]⟩
    v.tasks[0]?.map Task.isDone = some false ∧
      z.Ended 0 0 (.error (Session.opened "a" { lifetime := 10 } 0).lifetimeFailure) ∧
      z.ClosedForGood 0 := by
  intro w v z
  have hfair : Fair 0 0 (w.apply (.call 0 .getUrl))
      ([⟨[], List.replicate 7 (.step 0)⟩] ++ [⟨[.pass 10], [.step 0]⟩]) := by
    refine ⟨⟨by simp, by simp [Undisturbed, Event.IsOwn], ?_⟩,
      ⟨by simp [Event.mover], by simp [Undisturbed, Event.IsOwn], ?_⟩, trivial⟩
    · exact Option.isNone_iff_eq_none.1 (by decide +kernel)
    · exact Option.isNone_iff_eq_none.1 (by decide +kernel)
  obtain ⟨-, -, hrun⟩ := operation_outcome default [.openSession "a" { lifetime := 10 }] 0
    (Session.opened "a" { lifetime := 10 } 0) (.call 0 .getUrl) rfl (by decide) rfl
  obtain ⟨hends, -, hout⟩ := hrun _ _ hfair
  obtain ⟨r, hr⟩ := hends (.inr (by decide +kernel))
  have hv : v.tasks[0]?.map Task.isDone = some false := by decide +kernel
  obtain ⟨op, -, houtcome⟩ := hout r hr fun r' h => by
    rw [show v.tasks[0]? = _ from h] at hv
    simp [Task.isDone] at hv
  obtain ⟨rfl, hgood⟩ := houtcome.expired (by decide +kernel) (by decide +kernel)
  exact ⟨hv, hr, hgood⟩

end ScriptSandbox.Scene
