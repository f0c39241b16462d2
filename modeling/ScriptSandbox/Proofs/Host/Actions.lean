import ScriptSandbox.World.Surroundings

/-!
# How actions of the host run

What each of the actions comes to that functions of the host are put together from, and with what
they leave the surroundings.
-/

namespace ScriptSandbox.HostAction

variable {α β : Type} {w w' : Surroundings} {x : HostAction α} {f : α → HostAction β}

theorem run_bind (x : HostAction α) (f : α → HostAction β) (w : Surroundings) :
    (x >>= f).run w =
      match x.run w with
      | (.ok a, w') => (f a).run w'
      | (.error e, w') => (.error e, w') := by
  change StateT.run (ExceptT.run (x >>= f)) w = _
  rw [ExceptT.run_bind, StateT.run_bind]
  simp only [StateT.run]
  rcases x.run w with ⟨e | a, w'⟩ <;> rfl

theorem run_bind_of_ok {a : α} (h : x.run w = (.ok a, w')) : (x >>= f).run w = (f a).run w' := by
  rw [run_bind, h]

theorem run_bind_of_error {e : HostError} (h : x.run w = (.error e, w')) :
    (x >>= f).run w = (.error e, w') := by
  rw [run_bind, h]

/-- Whatever comes of an action whose first part is known: it goes on, or it has failed. -/
theorem run_bind_cases (x : HostAction α) (f : α → HostAction β) (w : Surroundings) :
    (∃ a w', x.run w = (.ok a, w') ∧ (x >>= f).run w = (f a).run w') ∨
      ∃ e w', x.run w = (.error e, w') ∧ (x >>= f).run w = (.error e, w') := by
  rcases h : x.run w with ⟨e | a, w'⟩
  · exact .inr ⟨e, w', rfl, run_bind_of_error h⟩
  · exact .inl ⟨a, w', rfl, run_bind_of_ok h⟩

@[simp] theorem run_pure (a : α) : (pure a : HostAction α).run w = (.ok a, w) := rfl

@[simp] theorem run_fail (e : Failure) :
    (fail e : HostAction α).run w = (.error (.failure e), w) := rfl

@[simp] theorem run_throw (e : HostError) : (throw e : HostAction α).run w = (.error e, w) := rfl

theorem run_bind_get (f : Surroundings → HostAction β) : (get >>= f).run w = (f w).run w := rfl

theorem run_bind_modify (g : Surroundings → Surroundings) (f : PUnit → HostAction β) :
    (modify g >>= f).run w = (f ⟨⟩).run (g w) := rfl

theorem run_bind_fail (e : Failure) : (fail e >>= f).run w = (.error (.failure e), w) :=
  run_bind_of_error (run_fail e)

theorem run_bind_ofExcept (r : Except Failure α) (f : α → HostAction β) :
    (ofExcept r >>= f).run w =
      match r with
      | .ok a => (f a).run w
      | .error e => (.error (.failure e), w) := by
  cases r with
  | ok a => rfl
  | error e => exact run_bind_fail e

theorem run_bind_look (query : FileTree → Except FileError α) (f : α → HostAction β) :
    (look query >>= f).run w =
      match query w.files with
      | .ok a => (f a).run w
      | .error e => (.error (.io e.toIo), w) := by
  have h : (look query).run w =
      match query w.files with
      | .ok a => (.ok a, w)
      | .error e => (.error (.io e.toIo), w) := by
    rw [look, run_bind_get]
    cases query w.files <;> rfl
  rw [run_bind, h]
  cases query w.files <;> rfl

theorem run_changePartly (change : FileTree → FileTree × Except FileError Unit) :
    (changePartly change).run w =
      match change w.files with
      | (t, .ok ()) => (.ok (), { w with files := t })
      | (t, .error e) => (.error (.io e.toIo), { w with files := t }) := by
  rw [changePartly, run_bind_get]
  rcases change w.files with ⟨t, e | u⟩ <;> rfl

theorem run_change (change : FileTree → Except FileError FileTree) :
    (HostAction.change change).run w =
      match change w.files with
      | .ok t => (.ok (), { w with files := t })
      | .error e => (.error (.io e.toIo), w) := by
  rw [HostAction.change, run_bind_get]
  cases change w.files <;> rfl

/-! ## Looking -/

/-- The action leaves its surroundings as they are, whatever it comes to. -/
def Looks (x : HostAction α) : Prop := ∀ w, (x.run w).2 = w

theorem looks_pure (a : α) : (pure a : HostAction α).Looks := fun _ => rfl

theorem looks_fail (e : Failure) : (fail e : HostAction α).Looks := fun _ => rfl

theorem looks_throw (e : HostError) : (throw e : HostAction α).Looks := fun _ => rfl

theorem looks_get : (get : HostAction Surroundings).Looks := fun _ => rfl

theorem looks_bind (hx : x.Looks) (hf : ∀ a, (f a).Looks) : (x >>= f).Looks := by
  intro w
  have hw := hx w
  rcases run_bind_cases x f w with ⟨a, w', hrun, h⟩ | ⟨e, w', hrun, h⟩
  · rw [hrun] at hw
    rw [h, ← hw]
    exact hf a w'
  · rw [hrun] at hw
    rw [h]
    exact hw

theorem looks_fail_bind (e : Failure) : (fail e >>= f).Looks := fun w => by rw [run_bind_fail]

theorem looks_ofExcept (r : Except Failure α) : (ofExcept r).Looks := by
  cases r with
  | ok a => exact looks_pure a
  | error e => exact looks_fail e

theorem looks_look (query : FileTree → Except FileError α) : (look query).Looks := by
  refine looks_bind looks_get fun w => ?_
  split
  · exact looks_pure _
  · exact looks_throw _

/-! ## Waiting for nothing -/

/-- The action needs nothing of its surroundings but the moment and chance, and leaves all but chance
as it is. -/
def Prompt (x : HostAction α) : Prop :=
  ∀ w : Surroundings, ∃ r chance, ∀ w' : Surroundings, w'.chance = w.chance → w'.now = w.now →
    x.run w' = (r, { w' with chance })

/-- What is the same in all surroundings, and leaves them as they are. -/
theorem prompt_of_run {r : Except HostError α} (h : ∀ w, x.run w = (r, w)) : x.Prompt := by
  refine fun w => ⟨r, w.chance, fun w' hchance _ => ?_⟩
  rw [h, ← hchance]

theorem prompt_pure (a : α) : (pure a : HostAction α).Prompt := prompt_of_run fun _ => rfl

theorem prompt_fail (e : Failure) : (fail e : HostAction α).Prompt := prompt_of_run fun _ => rfl

theorem prompt_fail_bind (e : Failure) : (fail e >>= f).Prompt :=
  prompt_of_run fun _ => run_bind_fail e

theorem prompt_bind (hx : x.Prompt) (hf : ∀ a, (f a).Prompt) : (x >>= f).Prompt := by
  intro w
  obtain ⟨r, chance, hrun⟩ := hx w
  cases r with
  | error e => exact ⟨.error e, chance, fun w' hc hn => run_bind_of_error (hrun w' hc hn)⟩
  | ok a =>
    obtain ⟨r, chance', hrun'⟩ := hf a { w with chance }
    refine ⟨r, chance', fun w' hc hn => ?_⟩
    rw [run_bind_of_ok (hrun w' hc hn)]
    exact hrun' _ rfl hn

/-- What comes after a check counts only where the check is passed. -/
theorem prompt_ofExcept_bind {r : Except Failure α} (hf : ∀ a, r = .ok a → (f a).Prompt) :
    (ofExcept r >>= f).Prompt := by
  cases r with
  | ok a => exact hf a rfl
  | error e => exact prompt_fail_bind e

theorem prompt_chance (draw : Chance → α × Chance) : (HostAction.chance draw).Prompt := by
  refine fun w => ⟨.ok (draw w.chance).1, (draw w.chance).2, fun w' hc _ => ?_⟩
  rw [← hc]
  rfl

end ScriptSandbox.HostAction
