import ScriptSandbox.Proofs.Browser.LineOrder
import ScriptSandbox.Proofs.Browser.SessionChange

/-!
# The order of the sessions

What keeps a session in order through every run (`sessionOrder_run`): its line is kept, the turn of
a task says what the session is like meanwhile (`Turn.Fits`), and no operation has its turn any more
once a close has had its own.
-/

namespace ScriptSandbox

open Function

namespace Turn

/-- Where a task stands in the line of a session. -/
def standing (s : SessionId) : Turn → Standing
  | .waiting s' | .closing s' => if s' = s then .waiting else .out
  | .opening s' | .working s' _ => if s' = s then .holding else .out
  | .away | .closed _ => .out

/-- What a session is like while a task has this turn. -/
def Fits (session : Session) : Turn → Prop
  | .closing _ => session.closed = true
  | .opening _ => session.page = none ∧ session.active = false
  | .working _ page => session.page = page
  | .closed _ => session.closed = true ∧ session.page = none
  | .away | .waiting _ => True

variable {s : SessionId} {x : Turn}

theorem standing_of_session_ne (h : x.session? ≠ some s) : x.standing s = .out := by
  cases x with
  | away | closed => rfl
  | waiting s' | closing s' | opening s' | working s' =>
    exact if_neg fun hs => h (congrArg some hs)

theorem cases_of_holding (h : x.standing s = .holding) :
    x = .opening s ∨ ∃ page, x = .working s page := by
  cases x with
  | away | closed => simp [standing] at h
  | waiting s' | closing s' => simp only [standing] at h; split at h <;> simp at h
  | opening s' | working s' page =>
    obtain rfl : s' = s := by
      by_contra hs
      simp [standing, hs] at h
    simp

end Turn

namespace Session

variable {session : Session} {turn : TaskId → Turn} {s : SessionId} {i : TaskId} {x : Turn}

/-- What the parts of a session have to do with each other. -/
structure Sound (session : Session) : Prop where
  cancelled_of_closed : session.closed = true → session.cancelled = true
  active_of_page : session.page ≠ none → session.active = true
  closed_of_active : session.active = true → session.page = none → session.closed = true

/-- A session, with the turns of all tasks, is in order. -/
structure InOrder (turn : TaskId → Turn) (s : SessionId) (session : Session) : Prop where
  sound : session.Sound
  kept : session.line.Kept fun i => (turn i).standing s
  fits : ∀ i, (turn i).session? = some s → (turn i).Fits session
  after : ∀ i j, turn i = .closed s → (turn j).standing s ≠ .holding

theorem InOrder.fits_of_turn (h : session.InOrder turn s) (hi : turn i = x)
    (hx : x.session? = some s) : x.Fits session := by
  subst hi
  exact h.fits i hx

theorem standing_update (turn : TaskId → Turn) (s : SessionId) (i : TaskId) (x : Turn) :
    (fun j => (update turn i x j).standing s) =
      update (fun j => (turn j).standing s) i (x.standing s) := by
  funext j
  by_cases hj : j = i
  · subst hj; simp
  · simp [hj]

/-- One task gets another turn, and the session changes with it. -/
theorem InOrder.update {session' : Session} (h : session.InOrder turn s)
    (hsound : session'.Sound)
    (hkept : session'.line.Kept (update (fun j => (turn j).standing s) i (x.standing s)))
    (hx : x.session? = some s → x.Fits session')
    (hrest : ∀ j, j ≠ i → (turn j).session? = some s → (turn j).Fits session')
    (hclosed : x = .closed s → ∀ j, j ≠ i → (turn j).standing s ≠ .holding)
    (hholding : x.standing s = .holding → ∀ j, j ≠ i → turn j ≠ .closed s) :
    session'.InOrder (update turn i x) s where
  sound := hsound
  kept := by rw [standing_update]; exact hkept
  fits j hj := by
    by_cases hji : j = i
    · subst hji
      rw [update_self] at hj ⊢
      exact hx hj
    · rw [update_of_ne hji] at hj ⊢
      exact hrest j hji hj
  after j k hj := by
    by_cases hji : j = i <;> by_cases hki : k = i
    · subst hji; subst hki
      rw [update_self] at hj ⊢
      rw [hj]
      simp [Turn.standing]
    · subst hji
      rw [update_self] at hj
      rw [update_of_ne hki]
      exact hclosed hj k hki
    · subst hki
      rw [update_of_ne hji] at hj
      rw [update_self]
      exact fun hh => hholding hh j hji hj
    · rw [update_of_ne hji] at hj
      rw [update_of_ne hki]
      exact h.after j k hj

/-- What a task of another session does is of no concern. -/
theorem InOrder.other (h : session.InOrder turn s) (hi : (turn i).session? ≠ some s)
    (hx : x.session? ≠ some s) : session.InOrder (Function.update turn i x) s := by
  have hout := Turn.standing_of_session_ne hx
  refine h.update h.sound ?_ (fun hs => absurd hs hx) (fun j _ hj => h.fits j hj) ?_ ?_
  · rw [hout]
    exact h.kept.stay (Turn.standing_of_session_ne hi)
  · rintro rfl
    exact absurd rfl hx
  · rw [hout]
    simp

theorem Sound.expire (h : session.Sound) : session.expire.Sound :=
  ⟨fun _ => rfl, h.active_of_page, fun _ _ => rfl⟩

theorem InOrder.expire (h : session.InOrder turn s) : session.expire.InOrder turn s where
  sound := h.sound.expire
  kept := h.kept
  fits i hi := by
    have := h.fits i hi
    cases hx : turn i with
    | closed s' => rw [hx] at this; exact ⟨rfl, this.2⟩
    | closing s' => exact rfl
    | away | waiting s' | opening s' | working s' page => rw [hx] at this; exact this
  after := h.after

/-- A task gets into the line. -/
theorem InOrder.join (h : session.InOrder turn s) (hi : turn i = .away)
    (hx : x.standing s = .waiting) (hfits : x.Fits session) :
    { session with line := session.line.join i }.InOrder (Function.update turn i x) s := by
  refine h.update ⟨h.sound.1, h.sound.2, h.sound.3⟩ ?_ (fun _ => ?_) (fun j _ hj => ?_) ?_ ?_
  · rw [hx]
    exact h.kept.join (by rw [hi]; rfl)
  · cases x <;> exact hfits
  · have := h.fits j hj
    cases hturn : turn j <;> rw [hturn] at this <;> exact this
  · rintro rfl
    simp [Turn.standing] at hx
  · rw [hx]
    simp

/-- An operation takes its turn. No close has had its own before, or the session would be closed. -/
theorem InOrder.turned (h : session.InOrder turn s) (hserves : session.line.serves i = true)
    (hopen : session.closed = false) (hx : x.standing s = .holding) (hfits : x.Fits session) :
    session.InOrder (Function.update turn i x) s := by
  refine h.update h.sound ?_ (fun _ => hfits) (fun j _ hj => h.fits j hj) ?_ fun _ j _ hj => ?_
  · rw [hx]
    exact h.kept.turn hserves
  · rintro rfl
    simp [Turn.standing] at hx
  · have hclosed := (h.fits_of_turn hj rfl).1
    rw [hopen] at hclosed
    simp at hclosed

/-- An open session is ready for the operation whose turn it is. -/
theorem InOrder.fits_turned (h : session.InOrder turn s) (hopen : session.closed = false)
    (hx : x = .opening s ∧ session.page = none ∨ x = .working s session.page) :
    x.Fits session := by
  rcases hx with ⟨rfl, hpage⟩ | rfl
  · refine ⟨hpage, Bool.eq_false_iff.2 fun hactive => ?_⟩
    have := h.sound.closed_of_active hactive hpage
    rw [hopen] at this
    simp at this
  · exact rfl

/-- The operation that has the turn gets its page. -/
theorem InOrder.paged {page : PageId} (h : session.InOrder turn s) (hi : turn i = .opening s) :
    { session with page := some page, active := true }.InOrder
      (Function.update turn i (.working s (some page))) s := by
  have hst : (turn i).standing s = .holding := by rw [hi]; simp [Turn.standing]
  refine h.update ⟨h.sound.1, fun _ => rfl, fun _ hp => by simp at hp⟩ ?_ (fun _ => rfl)
    (fun j hji hj => ?_) (by simp) fun _ j _ hj => h.after j i hj hst
  · have hw : (Turn.working s (some page)).standing s = .holding := by simp [Turn.standing]
    rw [hw]
    exact h.kept.stay hst
  · have := h.fits j hj
    cases hturn : turn j with
    | away | waiting => trivial
    | closing s' => rw [hturn] at this; exact this
    | closed s' =>
      rw [hturn] at hj
      obtain rfl : s' = s := by simpa [Turn.session?] using hj
      exact absurd hst (h.after j i hturn)
    | opening s' | working s' page =>
      rw [hturn] at hj
      obtain rfl : s' = s := by simpa [Turn.session?] using hj
      refine absurd (h.kept.holding_unique (i := j) (j := i) ?_ hst) hji
      simp [hturn, Turn.standing]

/-- A close has its turn and takes the page away. -/
theorem InOrder.taken (h : session.InOrder turn s) (hi : turn i = .closing s)
    (hserves : session.line.serves i = true) :
    { session.leave i with page := none }.InOrder (Function.update turn i (.closed s)) s := by
  have hclosed : session.closed = true := h.fits_of_turn hi rfl
  -- whoever had the turn would be the first in the line
  have alone : ∀ j, j ≠ i → (turn j).standing s ≠ .holding := fun j hji hj =>
    hji (h.kept.holding_of_serves hserves hj)
  refine h.update ⟨h.sound.1, fun hp => absurd rfl hp, fun _ _ => hclosed⟩ h.kept.leave
    (fun _ => ⟨hclosed, rfl⟩) (fun j hji hj => ?_) (fun _ => alone) ?_
  · have := h.fits j hj
    cases hturn : turn j with
    | away | waiting => trivial
    | closing s' => exact hclosed
    | closed s' => exact ⟨hclosed, rfl⟩
    | opening s' | working s' page =>
      rw [hturn] at hj
      obtain rfl : s' = s := by simpa [Turn.session?] using hj
      exact absurd (by simp [hturn, Turn.standing]) (alone j hji)
  · simp [Turn.standing]

theorem InOrder.left (h : session.InOrder turn s) :
    (session.leave i).InOrder (Function.update turn i .away) s := by
  refine h.update ⟨h.sound.1, h.sound.2, h.sound.3⟩ h.kept.leave (by simp [Turn.session?])
    (fun j _ hj => ?_) (by simp) (by simp [Turn.standing])
  have := h.fits j hj
  cases hturn : turn j <;> rw [hturn] at this <;> exact this

theorem inOrder_opened (label : String) (options : SessionOptions) (now : Nat)
    (h : ∀ i, (turn i).session? ≠ some s) : (Session.opened label options now).InOrder turn s where
  sound := ⟨by simp [Session.opened], by simp [Session.opened], by simp [Session.opened]⟩
  kept := Line.kept_nil fun i => Turn.standing_of_session_ne (h i)
  fits i hi := absurd hi (h i)
  after i j hi := absurd (congrArg Turn.session? hi) (h i)

end Session

namespace Scene

variable {w w' : Scene} {e : Event} {i j : TaskId} {s : SessionId} {session session' : Session}

structure SessionOrder (w : Scene) : Prop where
  orderly : w.Orderly
  inOrder : ∀ (s : SessionId) (session : Session), w.sessions[s]? = some session →
    session.InOrder w.turn s

theorem getElem?_set_cases {α : Type} {l : List α} {k n : Nat} {a b : α}
    (h : (l.set k a)[n]? = some b) : n = k ∧ b = a ∨ n ≠ k ∧ l[n]? = some b := by
  by_cases hn : n = k
  · subst hn
    refine .inl ⟨rfl, ?_⟩
    have hlt : n < l.length := by simpa using (List.getElem?_eq_some_iff.1 h).1
    rw [List.getElem?_set_self hlt] at h
    simpa using h.symm
  · rw [List.getElem?_set_ne (Ne.symm hn)] at h
    exact .inr ⟨hn, h⟩

/-- One session and one task change, and the task has to do with no other session. -/
theorem SessionOrder.of_update {s₀ : SessionId} {x : Turn} {session₀ : Session}
    (h : SessionOrder w) (ho : w'.Orderly) (hs : w'.sessions = w.sessions.set s₀ session₀)
    (ht : w'.turn = update w.turn i x) (hi : ∀ s, (w.turn i).session? = some s → s = s₀)
    (hx : ∀ s, x.session? = some s → s = s₀)
    (hnew : session₀.InOrder (update w.turn i x) s₀) : SessionOrder w' where
  orderly := ho
  inOrder s session hsess := by
    rw [hs] at hsess
    rw [ht]
    rcases getElem?_set_cases hsess with ⟨rfl, rfl⟩ | ⟨hne, hold⟩
    · exact hnew
    · exact (h.inOrder s session hold).other (fun h' => hne (hi s h')) fun h' => hne (hx s h')

theorem SessionOrder.opened {label : String} {options : SessionOptions} (h : SessionOrder w)
    (ho : w'.Orderly) (hs : w'.sessions = w.sessions ++ [.opened label options w.now])
    (ht : w'.turn = w.turn) : SessionOrder w' where
  orderly := ho
  inOrder s session hsess := by
    rw [hs] at hsess
    rw [ht]
    rcases Nat.lt_trichotomy s w.sessions.length with hlt | rfl | hgt
    · exact h.inOrder s session (by rwa [List.getElem?_append_left hlt] at hsess)
    · obtain rfl : _ = session := by simpa using hsess
      refine Session.inOrder_opened label options w.now fun i hi => ?_
      exact Nat.lt_irrefl _ (h.orderly.housed i _ hi)
    · rw [List.getElem?_eq_none (by simp; omega)] at hsess
      simp at hsess

theorem SessionOrder.of_step (h : SessionOrder w) (hw : SessionStep w w') : SessionOrder w' := by
  have ho := hw.orderly
  cases hw.change with
  | rest hs ht | called s i page c hi hc hs ht =>
    refine ⟨ho, fun s session hsess => ?_⟩
    rw [ht]
    exact h.inOrder s session (hs ▸ hsess)
  | opened label options hs ht hp ha => exact h.opened ho hs ht
  | expired s₀ session₀ hsess₀ hs ht hp ha =>
    refine ⟨ho, fun s session hsess => ?_⟩
    rw [hs] at hsess
    rw [ht]
    rcases getElem?_set_cases hsess with ⟨rfl, rfl⟩ | ⟨-, hold⟩
    · exact (h.inOrder s session₀ hsess₀).expire
    · exact h.inOrder s session hold
  | joined s₀ i session₀ hi hsess₀ hopen hs ht hp ha =>
    refine h.of_update ho hs ht (by simp [hi, Turn.session?]) (by simp [Turn.session?]) ?_
    exact (h.inOrder s₀ session₀ hsess₀).join hi (by simp [Turn.standing]) trivial
  | closing s₀ i session₀ hi hsess₀ hs ht hp ha =>
    refine h.of_update ho hs ht (by simp [hi, Turn.session?]) (by simp [Turn.session?]) ?_
    exact (h.inOrder s₀ session₀ hsess₀).expire.join hi (by simp [Turn.standing]) rfl
  | turned s₀ i session₀ x hi hsess₀ hserves hopen hx hs ht hp ha =>
    have hin := h.inOrder s₀ session₀ hsess₀
    have hclosed : session₀.closed = false := by
      simpa [Session.isClosed] using (Bool.or_eq_false_iff.1 hopen).1
    have hst : x.standing s₀ = .holding := by
      rcases hx with ⟨rfl, -⟩ | rfl <;> simp [Turn.standing]
    have hself : w'.sessions = w.sessions.set s₀ session₀ :=
      hs.trans (congrArg sessions (putSession_self hsess₀)).symm
    refine h.of_update ho hself ht (by simp [hi, Turn.session?]) ?_
      (hin.turned hserves hclosed hst (hin.fits_turned hclosed hx))
    rcases hx with ⟨rfl, -⟩ | rfl <;> simp [Turn.session?]
  | paged s₀ i session₀ hi hsess₀ hopen hs ht hp ha =>
    refine h.of_update ho hs ht (by simp [hi, Turn.session?]) (by simp [Turn.session?]) ?_
    exact (h.inOrder s₀ session₀ hsess₀).paged hi
  | taken s₀ i session₀ hi hsess₀ hserves hs ht hp ha =>
    refine h.of_update ho hs ht (by simp [hi, Turn.session?]) (by simp [Turn.session?]) ?_
    exact (h.inOrder s₀ session₀ hsess₀).taken hi hserves
  | left s₀ i session₀ session₁ hi hsess₀ hs' hs ht hp ha =>
    have hin := h.inOrder s₀ session₀ hsess₀
    refine h.of_update ho hs ht (by simp [hi]) (by simp [Turn.session?]) ?_
    rcases hs' with rfl | rfl
    · exact hin.left
    · exact hin.expire.left

theorem sessionOrder_fresh (options : LaunchOptions) : SessionOrder (fresh options) :=
  ⟨orderly_fresh options, fun s session h => by simp [fresh] at h⟩

theorem SessionOrder.apply (h : SessionOrder w) (e : Event) : SessionOrder (w.apply e) :=
  h.of_step (apply_sessionStep h.orderly e)

theorem SessionOrder.run (h : SessionOrder w) (events : List Event) :
    SessionOrder (w.run events) :=
  run_induction (P := SessionOrder) h fun _ h e _ => h.apply e

/-- A run keeps what each event keeps while the sessions are in order. -/
theorem SessionOrder.run_induction {P : Scene → Prop} {events : List Event} (h : SessionOrder w)
    (hw : P w) (keep : ∀ w, SessionOrder w → P w → ∀ e ∈ events, P (w.apply e)) :
    P (w.run events) :=
  run_induction_of_invariant (I := SessionOrder) (fun _ h e => h.apply e) h hw keep

theorem sessionOrder_run (options : LaunchOptions) (events : List Event) :
    SessionOrder ((fresh options).run events) := (sessionOrder_fresh options).run events

end Scene

end ScriptSandbox
