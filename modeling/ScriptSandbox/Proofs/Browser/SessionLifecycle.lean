import ScriptSandbox.Proofs.Browser.PageOrder
import ScriptSandbox.Proofs.Browser.TaskChange

/-!
# The life of a session

A session goes on from being created to being active, with its one page, and to being closed, and
never back (`session_lifecycle`). After a close has returned nothing is left of it that could do
anything (`Scene.Emptied`).
-/

namespace ScriptSandbox

open Function

/-- Whether an operation has the turn in the line of its session. Only then does it get hold of a
process, open a page or call one. -/
def Progress.hasTurn : Progress → Bool
  | .queued _ | .done _ => false
  | _ => true

theorem Progress.standing_of_hasTurn {p : Progress} (s : SessionId) (h : p.hasTurn = true) :
    (p.turn s).standing s = .holding := by
  cases p with
  | queued | done => simp [hasTurn] at h
  | _ => simp [turn, Turn.standing]

theorem Session.Sound.state_eq_active_iff {session : Session} {p : Pool} (h : session.Sound)
    (hs : session.state p ≠ .closed) : session.state p = .active ↔ session.page ≠ none := by
  unfold Session.state at hs ⊢
  by_cases hc : session.isClosed p = true
  · simp [hc] at hs
  · have hclosed : session.closed = false := by
      rw [Bool.not_eq_true, Session.isClosed, Bool.or_eq_false_iff] at hc
      exact hc.1
    rw [if_neg hc]
    by_cases ha : session.active = true
    · refine iff_of_true (by rw [if_pos ha]) fun hpage => ?_
      have := h.closed_of_active ha hpage
      rw [hclosed] at this
      simp at this
    · refine iff_of_false (by rw [if_neg ha]; simp) fun hpage => ha (h.active_of_page hpage)

namespace Scene

variable {w w' : Scene} {e : Event} {i j : TaskId} {s : SessionId} {session session' : Session}
variable {p q : PageId}

/-- A task with this number is an operation of the session and has the turn in its line. -/
def HasTurn (w : Scene) (s : SessionId) (i : TaskId) : Prop :=
  ∃ x : Progress, w.tasks[i]? = some (.operation s x) ∧ x.hasTurn = true

theorem hasTurn_iff : w.HasTurn s i ↔ (w.turn i).standing s = .holding := by
  constructor
  · rintro ⟨x, hi, hx⟩
    rw [turn_eq_of_getElem? hi]
    exact Progress.standing_of_hasTurn s hx
  · intro h
    rcases hi : w.tasks[i]? with _ | t
    · rw [turn, task, hi] at h
      simp [Task.turn, Turn.standing] at h
    · rw [turn_eq_of_getElem? hi] at h
      cases t with
      | operation s' x =>
        have hturn := Turn.cases_of_holding h
        cases x with
        | queued | done => simp [Task.turn, Progress.turn] at hturn
        | _ =>
          obtain rfl : s' = s := by
            simp [Task.turn, Progress.turn] at hturn
            exact hturn
          exact ⟨_, hi, rfl⟩
      | close s' c =>
        have hturn := Turn.cases_of_holding h
        cases c <;> simp [Task.turn] at hturn
      | acquire | teardown | watch | gone =>
        have hturn := Turn.cases_of_holding h
        simp [Task.turn] at hturn

/-- Only an operation that has the turn asks something of a page, and only of the one that its
session stores. -/
theorem SessionOrder.caller (h : SessionOrder w) {c : PageCall} (hc : c ≠ .close)
    (hlt : w.calls q c < (w.apply e).calls q c) :
    ∃ s i, e.mover = some i ∧ w.HasTurn s i ∧ w.Stores s q := by
  have quiet {call : Option (PageId × PageCall)} (ha : Calls w (w.apply e) call)
      (hcall : call ≠ some (q, c)) : False := by
    have := ha.calls q c
    rw [if_neg hcall] at this
    omega
  cases (apply_sessionStep h.orderly e).change with
  | rest _ _ _ ha | opened _ _ _ _ _ ha | expired _ _ _ _ _ _ ha
  | joined _ _ _ _ _ _ _ _ _ ha | closing _ _ _ _ _ _ _ _ ha
  | turned _ _ _ _ _ _ _ _ _ _ _ _ ha | paged _ _ _ _ _ _ _ _ _ ha
  | left _ _ _ _ _ _ _ _ _ _ ha => exact (quiet ha (by simp)).elim
  | taken _ _ session _ _ _ _ _ _ ha =>
    refine (quiet ha ?_).elim
    cases session.page <;> simp [Ne.symm hc]
  | called s i page c' hi hc' hs ht hp ha hm =>
    by_cases hq : page = q
    · subst hq
      have hlt := h.orderly.housed i s (by rw [hi]; rfl)
      have hsess := List.getElem?_eq_getElem hlt
      have hturn : w.HasTurn s i := hasTurn_iff.2 (by rw [hi]; simp [Turn.standing])
      obtain ⟨x, htask, -⟩ := id hturn
      exact ⟨s, i, mover_of_task_ne htask hm, hturn, _, hsess,
        (h.inOrder s _ hsess).fits_of_turn hi rfl⟩
    · exact (quiet ha (by simp [hq])).elim

/-! ## One session -/

/-- What can become of a session. -/
inductive SessionNext (w : Scene) (s : SessionId) (session session' : Session) : Prop
  | kept (hpage : session'.page = session.page) (hactive : session'.active = session.active)
      (hclosed : session.closed = true → session'.closed = true)
      (hcancelled : session.cancelled = true → session'.cancelled = true)
      (hdeadline : session'.deadline = session.deadline) (hlabel : session'.label = session.label)
      (hoptions : session'.options = session.options)
  | paged (i : TaskId) (hi : w.turn i = .opening s) (hopen : session.isCancelled w.pool = false)
      (h : session' = { session with page := some w.pages, active := true })
  | taken (i : TaskId) (hi : w.turn i = .closing s)
      (h : session' = { session.leave i with page := none })

theorem SessionNext.refl : SessionNext w s session session := .kept rfl rfl id id rfl rfl rfl

theorem SessionChange.next (hc : SessionChange w w') (hsess : w.sessions[s]? = some session) :
    ∃ session', w'.sessions[s]? = some session' ∧ SessionNext w s session session' := by
  have stay (hs : w'.sessions = w.sessions) :
      ∃ session', w'.sessions[s]? = some session' ∧ SessionNext w s session session' :=
    ⟨session, hs ▸ hsess, .refl⟩
  -- another session may have been put in its place
  have put {s₀ : SessionId} {session₀ session₁ : Session}
      (hsess₀ : w.sessions[s₀]? = some session₀) (hs : w'.sessions = w.sessions.set s₀ session₁)
      (h : SessionNext w s₀ session₀ session₁) :
      ∃ session', w'.sessions[s]? = some session' ∧ SessionNext w s session session' := by
    by_cases hne : s = s₀
    · subst hne
      obtain rfl : session₀ = session := Option.some.inj (hsess₀.symm.trans hsess)
      have hlt := (List.getElem?_eq_some_iff.1 hsess).1
      exact ⟨session₁, by rw [hs, List.getElem?_set_self hlt], h⟩
    · exact ⟨session, by rw [hs, List.getElem?_set_ne (Ne.symm hne), hsess], .refl⟩
  cases hc with
  | rest hs | called _ _ _ _ _ _ hs | turned _ _ _ _ _ _ _ _ _ hs => exact stay hs
  | opened label options hs ht hp ha =>
    have hlt := (List.getElem?_eq_some_iff.1 hsess).1
    exact ⟨session, by rw [hs, List.getElem?_append_left hlt, hsess], .refl⟩
  | expired s₀ session₀ hsess₀ hs ht hp ha =>
    exact put hsess₀ hs (.kept rfl rfl (fun _ => rfl) (fun _ => rfl) rfl rfl rfl)
  | joined s₀ i session₀ hi hsess₀ hopen hs ht hp ha =>
    exact put hsess₀ hs (.kept rfl rfl id id rfl rfl rfl)
  | closing s₀ i session₀ hi hsess₀ hs ht hp ha =>
    exact put hsess₀ hs (.kept rfl rfl (fun _ => rfl) (fun _ => rfl) rfl rfl rfl)
  | paged s₀ i session₀ hi hsess₀ hopen hs ht hp ha =>
    exact put hsess₀ hs (.paged i hi hopen rfl)
  | taken s₀ i session₀ hi hsess₀ hserves hs ht hp ha => exact put hsess₀ hs (.taken i hi rfl)
  | left s₀ i session₀ session₁ hi hsess₀ hs' hs ht hp ha =>
    rcases hs' with rfl | rfl
    · exact put hsess₀ hs (.kept rfl rfl id id rfl rfl rfl)
    · exact put hsess₀ hs (.kept rfl rfl (fun _ => rfl) (fun _ => rfl) rfl rfl rfl)

theorem apply_next (ho : w.Orderly) (e : Event) (hsess : w.sessions[s]? = some session) :
    ∃ session', (w.apply e).sessions[s]? = some session' ∧ SessionNext w s session session' :=
  (apply_sessionStep ho e).change.next hsess

/-! ## Its one page -/

/-- A session without a page that is closed gets none any more. -/
theorem SessionNext.without_page (h : SessionNext w s session session')
    (hin : session.InOrder w.turn s) (hclosed : session.closed = true)
    (hpage : session.page = none) : session'.closed = true ∧ session'.page = none := by
  cases h with
  | kept hp ha hc => exact ⟨hc hclosed, hp.trans hpage⟩
  | paged i hi hopen h =>
    have := hin.sound.cancelled_of_closed hclosed
    simp [Session.isCancelled, this] at hopen
  | taken i hi h =>
    subst h
    exact ⟨hclosed, rfl⟩

/-- A session that has had a page has this one still, or it is closed and has none. -/
theorem SessionNext.with_page (h : SessionNext w s session session')
    (hin : session.InOrder w.turn s) (hpage : session.page = some p) :
    session'.page = some p ∨ session'.closed = true ∧ session'.page = none := by
  cases h with
  | kept hp => exact .inl (hp.trans hpage)
  | paged i hi hopen h =>
    have := (hin.fits_of_turn hi rfl).1
    rw [hpage] at this
    simp at this
  | taken i hi h =>
    subst h
    exact .inr ⟨hin.fits_of_turn hi rfl, rfl⟩

theorem page_run (h : SessionOrder w) (hsess : w.sessions[s]? = some session)
    (hpage : session.page = some p) (later : List Event) :
    ∃ session', (w.run later).sessions[s]? = some session' ∧
      (session'.page = some p ∨ session'.closed = true ∧ session'.page = none) := by
  refine h.run_induction (P := fun t => ∃ session', t.sessions[s]? = some session' ∧
    (session'.page = some p ∨ session'.closed = true ∧ session'.page = none))
    ⟨session, hsess, .inl hpage⟩ ?_
  rintro t ht ⟨session₁, hsess₁, hp⟩ e -
  obtain ⟨session₂, hsess₂, hnext⟩ := apply_next ht.orderly e hsess₁
  have hin := ht.inOrder s session₁ hsess₁
  refine ⟨session₂, hsess₂, ?_⟩
  rcases hp with hp | ⟨hc, hp⟩
  · exact hnext.with_page hin hp
  · exact .inr (hnext.without_page hin hc hp)

/-! ## After a close -/

/-- A session has no page and gets none any more, and no operation has its turn or gets it. -/
structure Emptied (w : Scene) (s : SessionId) : Prop where
  session : ∃ session, w.sessions[s]? = some session ∧ session.closed = true ∧ session.page = none
  turn : ∀ j, (w.turn j).standing s ≠ .holding

theorem emptied_of_closed (h : SessionOrder w) (hi : w.turn i = .closed s) : Emptied w s where
  session := by
    have hlt := h.orderly.housed i s (by rw [hi]; rfl)
    have hsess := List.getElem?_eq_getElem hlt
    exact ⟨_, hsess, (h.inOrder s _ hsess).fits_of_turn hi rfl⟩
  turn j := by
    have hlt := h.orderly.housed i s (by rw [hi]; rfl)
    exact (h.inOrder s _ (List.getElem?_eq_getElem hlt)).after i j hi

/-- Nobody gets the turn in the line of a session that is closed. -/
theorem SessionChange.holding_of_closed (hc : SessionChange w w')
    (hsess : w.sessions[s]? = some session) (hclosed : session.closed = true)
    (hj : (w'.turn j).standing s = .holding) : (w.turn j).standing s = .holding := by
  have moved {i : TaskId} {x : Turn} (ht : w'.turn = update w.turn i x)
      (hx : x.standing s = .holding → (w.turn i).standing s = .holding) :
      (w.turn j).standing s = .holding := by
    rw [ht] at hj
    by_cases hji : j = i
    · subst hji
      rw [update_self] at hj
      exact hx hj
    · rwa [update_of_ne hji] at hj
  cases hc with
  | rest hs ht | opened _ _ hs ht | expired _ _ _ hs ht | called _ _ _ _ _ _ hs ht =>
    rwa [ht] at hj
  | joined s₀ i _ hi _ _ hs ht => exact moved ht fun hx => by simpa using Turn.cases_of_holding hx
  | closing s₀ i _ hi _ hs ht => exact moved ht fun hx => by simpa using Turn.cases_of_holding hx
  | taken s₀ i _ hi _ _ hs ht => exact moved ht fun hx => by simpa using Turn.cases_of_holding hx
  | left s₀ i _ _ hi _ _ hs ht => exact moved ht fun hx => by simpa using Turn.cases_of_holding hx
  | paged s₀ i _ hi _ _ hs ht =>
    refine moved ht fun hx => ?_
    rw [hi]
    exact hx
  | turned s₀ i session₀ x hi hsess₀ hserves hopen hx hs ht =>
    refine moved ht fun hhold => ?_
    obtain rfl : s₀ = s := by
      by_contra hne
      rcases hx with ⟨rfl, -⟩ | rfl <;> simp [Turn.standing, hne] at hhold
    obtain rfl : session₀ = session := Option.some.inj (hsess₀.symm.trans hsess)
    simp [Session.isClosed, hclosed] at hopen

theorem Emptied.apply (h : Emptied w s) (ho : SessionOrder w) (e : Event) :
    Emptied (w.apply e) s := by
  obtain ⟨session, hsess, hclosed, hpage⟩ := h.session
  obtain ⟨session', hsess', hnext⟩ := apply_next ho.orderly e hsess
  refine ⟨⟨session', hsess', hnext.without_page (ho.inOrder s session hsess) hclosed hpage⟩, ?_⟩
  exact fun j hj => h.turn j
    ((apply_sessionStep ho.orderly e).change.holding_of_closed hsess hclosed hj)

theorem Emptied.run (h : Emptied w s) (ho : SessionOrder w) (later : List Event) :
    Emptied (w.run later) s :=
  ho.run_induction (P := (Emptied · s)) h fun _ ho h e _ => h.apply ho e

/-- A task leaves the outside alone: whatever it does, it asks for nothing and opens no page. -/
def IsQuiet (w : Scene) (j : TaskId) : Prop :=
  ((w.apply (.step j)).asked = w.asked ∧ (w.apply (.step j)).pages = w.pages) ∧
    ∀ answers, (w.apply (.answer j answers)).asked = w.asked ∧
      (w.apply (.answer j answers)).pages = w.pages

theorem interrupted_quiet {x : Progress} (h : w.interrupted s j x = some w') :
    w'.asked = w.asked ∧ w'.pages = w.pages := by
  obtain ⟨-, session, session', f, -, -, rfl⟩ := interrupted_eq_some h
  exact ⟨finish_asked _, finish_pages _⟩

theorem Emptied.isQuiet {x : Progress} (h : Emptied w s)
    (hj : w.tasks[j]? = some (.operation s x)) : w.IsQuiet j := by
  obtain ⟨session, hsess, hclosed, -⟩ := h.session
  have hturn : x.hasTurn = false :=
    Bool.eq_false_iff.2 fun hx => h.turn j (hasTurn_iff.1 ⟨x, hj, hx⟩)
  cases x with
  | queued op =>
    -- the session is closed, so the operation is refused when its turn comes
    have hensure : session.ensureOpen w.pool w.now = (session, .error .sessionClosed) := by
      simp [Session.ensureOpen, Session.isClosed, hclosed]
    refine ⟨?_, fun answers => ?_⟩
    · cases hint : w.interrupted s j (.queued op) with
      | some w' =>
        simp only [Scene.apply, step, hj, stepOperation, hint, Option.getD_some]
        exact interrupted_quiet hint
      | none =>
        simp only [Scene.apply, step, hj, stepOperation, hint, hsess, hensure]
        split
        · exact ⟨rfl, rfl⟩
        · exact ⟨finish_asked _, finish_pages _⟩
    · cases hint : w.interrupted s j (.queued op) with
      | some w' =>
        simp only [Scene.apply, answer, hj, answerOperation, hint]
        exact interrupted_quiet hint
      | none =>
        simp only [Scene.apply, answer, hj, answerOperation, hint, and_self]
  | done r =>
    refine ⟨?_, fun answers => ?_⟩
    · rw [step_of_done hj]
      exact ⟨rfl, rfl⟩
    · rw [answer_of_done hj answers]
      exact ⟨rfl, rfl⟩
  | _ => simp [Progress.hasTurn] at hturn

/-! ## All together -/

/-- In every run, of each session:

* one operation at most has the turn at a time, and only a move of this one asks anything of the
  page that the session stores, until a close asks the page to close;
* no other page than the first is ever stored;
* while it is not closed, it is active exactly when it has a page;
* no page is asked to close twice;
* once a close has returned, it has no page and gets none, and none of its operations gets the turn
  or asks for anything any more. -/
theorem session_lifecycle (options : LaunchOptions) (before : List Event) (s : SessionId) :
    let w := (fresh options).run before
    (∀ i j, w.HasTurn s i → w.HasTurn s j → i = j) ∧
    (∀ (e : Event) (q : PageId) (c : PageCall), c ≠ .close →
      w.calls q c < (w.apply e).calls q c →
      ∃ s' i, e.mover = some i ∧ w.HasTurn s' i ∧ w.Stores s' q) ∧
    (∀ later p q, w.Stores s p → (w.run later).Stores s q → q = p) ∧
    (∀ session, w.sessions[s]? = some session → w.sessionState s ≠ .closed →
      (w.sessionState s = .active ↔ ∃ q, w.Stores s q)) ∧
    (∀ q, w.closes q ≤ 1) ∧
    (∀ i : TaskId, w.tasks[i]? = some (.close s .done) → ∀ later,
      let t := w.run later
      (∀ q, ¬ t.Stores s q) ∧ (∀ j, ¬ t.HasTurn s j) ∧
      ∀ (j : TaskId) (x : Progress), t.tasks[j]? = some (.operation s x) → t.IsQuiet j) := by
  intro w
  have h : SessionOrder w := sessionOrder_run options before
  refine ⟨?_, fun e q c hc hlt => h.caller hc hlt, ?_, ?_, (pageOrder_run options before).once, ?_⟩
  · intro i j hi hj
    obtain ⟨x, htask, hx⟩ := hi
    have hlt := h.orderly.housed i s (by
      rw [turn_eq_of_getElem? htask]
      cases x with
      | queued | done => simp [Progress.hasTurn] at hx
      | _ => rfl)
    exact (h.inOrder s _ (List.getElem?_eq_getElem hlt)).kept.holding_unique
      (hasTurn_iff.1 ⟨x, htask, hx⟩) (hasTurn_iff.1 hj)
  · rintro later p q ⟨session, hsess, hp⟩ ⟨session', hsess', hq⟩
    obtain ⟨session₁, hsess₁, h₁⟩ := page_run h hsess hp later
    obtain rfl : session₁ = session' := Option.some.inj (hsess₁.symm.trans hsess')
    rcases h₁ with hp' | ⟨-, hp'⟩
    · exact Option.some.inj (hq.symm.trans hp')
    · rw [hp'] at hq; simp at hq
  · intro session hsess hstate
    unfold sessionState at hstate ⊢
    rw [hsess] at hstate ⊢
    rw [(h.inOrder s session hsess).sound.state_eq_active_iff hstate, Option.ne_none_iff_exists']
    constructor
    · rintro ⟨q, hq⟩
      exact ⟨q, session, hsess, hq⟩
    · rintro ⟨q, session', hsess', hq⟩
      obtain rfl : session = session' := Option.some.inj (hsess.symm.trans hsess')
      exact ⟨q, hq⟩
  · intro i hi later t
    have hE : Emptied t s := (emptied_of_closed h (turn_eq_of_getElem? hi)).run h later
    refine ⟨?_, fun j hj => hE.turn j (hasTurn_iff.1 hj), fun j x hj => hE.isQuiet hj⟩
    rintro q ⟨session, hsess, hq⟩
    obtain ⟨session', hsess', -, hpage⟩ := hE.session
    obtain rfl : session = session' := Option.some.inj (hsess.symm.trans hsess')
    rw [hpage] at hq
    simp at hq

end Scene

end ScriptSandbox
