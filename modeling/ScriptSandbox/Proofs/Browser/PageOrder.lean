import ScriptSandbox.Proofs.Browser.SessionOrder

/-!
# The pages of the sessions

Each page is stored by one session at most. It is asked to close once at most, when a close takes it
out of its session, and nobody has it any more afterwards (`pageOrder_run`).
-/

namespace ScriptSandbox

open Function

namespace Scene

variable {w w' : Scene} {e : Event} {s s' : SessionId} {session session' : Session} {q : PageId}

/-- How often something has been asked of a page. -/
def calls (w : Scene) (q : PageId) (c : PageCall) : Nat := w.asked.count (.page q c)

def closes (w : Scene) (q : PageId) : Nat := w.calls q .close

/-- A session stores a page. -/
def Stores (w : Scene) (s : SessionId) (q : PageId) : Prop :=
  ∃ session, w.sessions[s]? = some session ∧ session.page = some q

theorem Calls.calls {call : Option (PageId × PageCall)} (h : Calls w w' call) (q : PageId)
    (c : PageCall) : w'.calls q c = w.calls q c + if call = some (q, c) then 1 else 0 := by
  obtain ⟨others, ho, ha⟩ := h
  have h0 : others.count (.page q c) = 0 := by
    rw [List.count_eq_zero]
    intro hm
    have := ho _ hm
    simp [Request.isPage] at this
  rw [Scene.calls, ha, List.count_append, List.count_append, h0, ← Scene.calls]
  rcases call with _ | ⟨p, d⟩
  · simp
  · by_cases hp : p = q <;> by_cases hd : d = c <;> simp [hp, hd, Nat.add_comm]

theorem Calls.closes {call : Option (PageId × PageCall)} (h : Calls w w' call) (q : PageId) :
    w'.closes q = w.closes q + if call = some (q, .close) then 1 else 0 := h.calls q .close

theorem SessionChange.exists_calls (h : SessionChange w w') : ∃ call, Calls w w' call := by
  cases h with
  | rest _ _ _ ha | opened _ _ _ _ _ ha | expired _ _ _ _ _ _ ha
  | joined _ _ _ _ _ _ _ _ _ ha | closing _ _ _ _ _ _ _ _ ha
  | turned _ _ _ _ _ _ _ _ _ _ _ _ ha | called _ _ _ _ _ _ _ _ _ ha
  | paged _ _ _ _ _ _ _ _ _ ha | taken _ _ _ _ _ _ _ _ _ ha
  | left _ _ _ _ _ _ _ _ _ _ ha => exact ⟨_, ha⟩

/-- What has been asked stays asked. -/
theorem SessionChange.calls_le (h : SessionChange w w') (q : PageId) (c : PageCall) :
    w.calls q c ≤ w'.calls q c := by
  obtain ⟨call, ha⟩ := h.exists_calls
  rw [ha.calls q c]
  exact Nat.le_add_right _ _

structure PageOrder (w : Scene) : Prop where
  lt : ∀ s q, w.Stores s q → q < w.pages
  unique : ∀ s s' q, w.Stores s q → w.Stores s' q → s = s'
  open' : ∀ s q, w.Stores s q → w.closes q = 0
  unborn : ∀ q, w.pages ≤ q → w.closes q = 0
  once : ∀ q, w.closes q ≤ 1

/-- No page is stored anew, and none is closed. -/
theorem PageOrder.of_same (h : PageOrder w) (hs : ∀ s q, w'.Stores s q → w.Stores s q)
    (hp : w'.pages = w.pages) (hc : ∀ q, w'.closes q = w.closes q) : PageOrder w' where
  lt s q hq := hp ▸ h.lt s q (hs s q hq)
  unique s s' q hq hq' := h.unique s s' q (hs s q hq) (hs s' q hq')
  open' s q hq := (hc q).trans (h.open' s q (hs s q hq))
  unborn q hq := (hc q).trans (h.unborn q (hp ▸ hq))
  once q := (hc q).symm ▸ h.once q

theorem closes_of_calls_none (h : Calls w w' none) (q : PageId) : w'.closes q = w.closes q := by
  simpa using h.closes q

/-- The pages that are stored after a session has been put in place of another. -/
theorem stores_of_set {s₀ : SessionId} {session₀ session₁ : Session}
    (hsess : w.sessions[s₀]? = some session₀) (hs : w'.sessions = w.sessions.set s₀ session₁)
    (h : w'.Stores s q) : s = s₀ ∧ session₁.page = some q ∨ s ≠ s₀ ∧ w.Stores s q := by
  obtain ⟨session, hsession, hq⟩ := h
  rw [hs] at hsession
  rcases getElem?_set_cases hsession with ⟨rfl, rfl⟩ | ⟨hne, hold⟩
  · exact .inl ⟨rfl, hq⟩
  · exact .inr ⟨hne, session, hold, hq⟩

theorem PageOrder.of_put {s₀ : SessionId} {session₀ session₁ : Session} (h : PageOrder w)
    (hsess : w.sessions[s₀]? = some session₀) (hs : w'.sessions = w.sessions.set s₀ session₁)
    (hpage : session₁.page = session₀.page) (hp : w'.pages = w.pages) (ha : Calls w w' none) :
    PageOrder w' := by
  refine h.of_same (fun s q hq => ?_) hp (closes_of_calls_none ha)
  rcases stores_of_set hsess hs hq with ⟨rfl, hq⟩ | ⟨-, hq⟩
  · exact ⟨session₀, hsess, hpage ▸ hq⟩
  · exact hq

theorem PageOrder.opened {session₁ : Session} (h : PageOrder w)
    (hs : w'.sessions = w.sessions ++ [session₁]) (hpage : session₁.page = none)
    (hp : w'.pages = w.pages) (ha : Calls w w' none) : PageOrder w' := by
  refine h.of_same ?_ hp (closes_of_calls_none ha)
  rintro s q ⟨session, hsess, hq⟩
  rw [hs] at hsess
  rcases Nat.lt_or_ge s w.sessions.length with hlt | hge
  · exact ⟨session, by rwa [List.getElem?_append_left hlt] at hsess, hq⟩
  · rw [List.getElem?_append_right hge] at hsess
    obtain rfl : session = session₁ := by simpa using List.mem_of_getElem? hsess
    simp [hpage] at hq

/-- A session stores a new page. -/
theorem PageOrder.paged {s₀ : SessionId} {session₀ session₁ : Session} (h : PageOrder w)
    (hsess : w.sessions[s₀]? = some session₀) (hs : w'.sessions = w.sessions.set s₀ session₁)
    (hpage : session₁.page = some w.pages) (hp : w'.pages = w.pages + 1)
    (ha : Calls w w' none) : PageOrder w' := by
  have hc := closes_of_calls_none ha
  have stores {s : SessionId} {q : PageId} (hq : w'.Stores s q) :
      s = s₀ ∧ q = w.pages ∨ w.Stores s q := by
    rcases stores_of_set hsess hs hq with ⟨rfl, hq⟩ | ⟨-, hq⟩
    · exact .inl ⟨rfl, Option.some.inj (hq.symm.trans hpage)⟩
    · exact .inr hq
  exact {
    lt := by
      intro s q hq
      rw [hp]
      rcases stores hq with ⟨-, rfl⟩ | hq
      · exact Nat.lt_succ_self _
      · exact Nat.lt_succ_of_lt (h.lt s q hq)
    unique := by
      -- a page that is stored already is not the new one
      intro s₁ s₂ q h₁ h₂
      rcases stores h₁ with ⟨rfl, rfl⟩ | h₁ <;> rcases stores h₂ with ⟨rfl, h₂⟩ | h₂
      · rfl
      · exact absurd (h.lt _ _ h₂) (Nat.lt_irrefl _)
      · exact absurd (h₂ ▸ h.lt _ _ h₁) (Nat.lt_irrefl _)
      · exact h.unique s₁ s₂ q h₁ h₂
    open' := by
      intro s q hq
      rw [hc]
      rcases stores hq with ⟨-, rfl⟩ | hq
      · exact h.unborn _ (Nat.le_refl _)
      · exact h.open' s q hq
    unborn := by
      intro q hq
      rw [hp] at hq
      rw [hc]
      exact h.unborn q (Nat.le_of_succ_le hq)
    once := fun q => (hc q).symm ▸ h.once q }

/-- A stored page is asked to close, and no session stores it any more. -/
theorem PageOrder.closed (h : PageOrder w) (hq : w.Stores s q)
    (hs : ∀ s' p, w'.Stores s' p → s' ≠ s ∧ w.Stores s' p) (hp : w'.pages = w.pages)
    (ha : Calls w w' (some (q, .close))) : PageOrder w' := by
  have same {p : PageId} (hne : p ≠ q) : w'.closes p = w.closes p := by
    simpa [hne.symm] using ha.closes p
  exact {
    lt := fun s' p hp' => hp ▸ h.lt s' p (hs s' p hp').2
    unique := fun s₁ s₂ p h₁ h₂ => h.unique s₁ s₂ p (hs s₁ p h₁).2 (hs s₂ p h₂).2
    open' := by
      intro s' p hp'
      obtain ⟨hne, hstored⟩ := hs s' p hp'
      rw [same, h.open' s' p hstored]
      rintro rfl
      exact hne (h.unique s' s p hstored hq)
    unborn := by
      intro p hle
      rw [hp] at hle
      rw [same (Nat.ne_of_gt (Nat.lt_of_lt_of_le (h.lt s q hq) hle)), h.unborn p hle]
    once := by
      intro p
      by_cases hpq : p = q
      · subst hpq
        rw [ha.closes, h.open' s p hq]
        simp
      · exact same hpq ▸ h.once p }

/-- A session gives its page up, which is asked to close if there is one. -/
theorem PageOrder.taken {s₀ : SessionId} {session₀ session₁ : Session} (h : PageOrder w)
    (hsess : w.sessions[s₀]? = some session₀) (hs : w'.sessions = w.sessions.set s₀ session₁)
    (hpage : session₁.page = none) (hp : w'.pages = w.pages)
    (ha : Calls w w' (session₀.page.map (·, .close))) : PageOrder w' := by
  have stores (s : SessionId) (q : PageId) (hq : w'.Stores s q) : s ≠ s₀ ∧ w.Stores s q := by
    rcases stores_of_set hsess hs hq with ⟨-, hq⟩ | hq
    · simp [hpage] at hq
    · exact hq
  cases hpage₀ : session₀.page with
  | none =>
    rw [hpage₀] at ha
    exact h.of_same (fun s q hq => (stores s q hq).2) hp (closes_of_calls_none ha)
  | some p =>
    rw [hpage₀] at ha
    exact h.closed ⟨session₀, hsess, hpage₀⟩ stores hp ha

theorem PageOrder.of_change (h : PageOrder w) (hc : SessionChange w w') : PageOrder w' := by
  have same (hs : w'.sessions = w.sessions) : ∀ s q, w'.Stores s q → w.Stores s q := by
    rintro s q ⟨session, hsess, hq⟩
    exact ⟨session, hs ▸ hsess, hq⟩
  cases hc with
  | rest hs ht hp ha => exact h.of_same (same hs) hp (closes_of_calls_none ha)
  | turned s i session x hi hsess hserves hopen hx hs ht hp ha =>
    exact h.of_same (same hs) hp (closes_of_calls_none ha)
  | called s i page c hi hcl hs ht hp ha =>
    exact h.of_same (same hs) hp fun q => by simpa [hcl] using ha.closes q
  | opened label options hs ht hp ha => exact h.opened hs rfl hp ha
  | expired s session hsess hs ht hp ha => exact h.of_put hsess hs rfl hp ha
  | joined s i session hi hsess hopen hs ht hp ha => exact h.of_put hsess hs rfl hp ha
  | closing s i session hi hsess hs ht hp ha => exact h.of_put hsess hs rfl hp ha
  | left s i session session' hi hsess hs' hs ht hp ha =>
    refine h.of_put hsess hs ?_ hp ha
    rcases hs' with rfl | rfl <;> rfl
  | paged s i session hi hsess hopen hs ht hp ha => exact h.paged hsess hs rfl hp ha
  | taken s i session hi hsess hserves hs ht hp ha => exact h.taken hsess hs rfl hp ha

theorem pageOrder_run (options : LaunchOptions) (events : List Event) :
    PageOrder ((fresh options).run events) := by
  have none' (s : SessionId) (q : PageId) : ¬ (fresh options).Stores s q := by
    rintro ⟨session, hsess, -⟩
    simp [fresh] at hsess
  refine (orderly_fresh options).run_induction (P := PageOrder) ?_ ?_
  · exact ⟨fun s q hq => absurd hq (none' s q), fun s s' q hq => absurd hq (none' s q),
      fun s q hq => absurd hq (none' s q), fun _ _ => rfl, fun _ => Nat.zero_le 1⟩
  · intro w ho h e he
    exact h.of_change (apply_sessionStep ho e).change

end Scene

end ScriptSandbox
