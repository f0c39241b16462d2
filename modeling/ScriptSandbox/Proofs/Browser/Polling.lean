import ScriptSandbox.Proofs.Browser.Course

/-!
# Waiting by looking again and again

A wait looks, rests and looks again until it finds something or its time is over (`Looks`). Its time
is looked at between two looks and never during one: the last look begins in time, and the wait ends
when that look does.
-/

namespace ScriptSandbox

namespace PageTask

variable {α : Type} {prompt : Prop} {s f interval deadline rounds limit : Nat}
  {probe : PageTask (Option α)} {xs : List Exchange} {r : Option α}

/-! ## What has been seen -/

/-- What holds of one look, and of two that follow each other, holds of a wait. -/
theorem Course.of_lookUntil {P : List Exchange → Option α → Prop}
    (hprobe : ∀ {s xs f r}, Course prompt probe s xs f r → P xs r) (hnil : P [] none)
    (hmore : ∀ {ys zs r}, P ys none → P zs r → P (ys ++ zs) r)
    (h : Course prompt (lookUntil interval deadline probe rounds) s xs f r) : P xs r := by
  induction rounds generalizing s xs with
  | zero =>
    obtain ⟨rfl, rfl, -⟩ := h.of_done
    exact hnil
  | succ rounds ih =>
    obtain ⟨ys, m, found, zs, hlook, hthen, rfl⟩ := h.of_bind
    cases found with
    | some a =>
      obtain ⟨rfl, rfl, -⟩ := hthen.of_done
      rw [List.append_nil]
      exact hprobe hlook
    | none =>
      refine hmore (hprobe hlook) ?_
      obtain ⟨ws, m', now, vs, hnow, hover, rfl⟩ := hthen.of_bind
      obtain ⟨rfl, -⟩ := hnow.of_now
      split at hover
      · obtain ⟨rfl, rfl, -⟩ := hover.of_done
        exact hnil
      · obtain ⟨us, m'', u, vs, hrest, hmore, rfl⟩ := hover.of_bind
        obtain ⟨rfl, -⟩ := hrest.of_rest
        exact ih hmore

theorem Course.of_poll {P : List Exchange → Option α → Prop}
    (hprobe : ∀ {s xs f r}, Course prompt probe s xs f r → P xs r) (hnil : P [] none)
    (hmore : ∀ {ys zs r}, P ys none → P zs r → P (ys ++ zs) r)
    (h : Course prompt (poll interval limit probe) s xs f r) : P xs r := by
  obtain ⟨ws, m, now, zs, hnow, hlooks, rfl⟩ := Course.of_bind h
  obtain ⟨rfl, -⟩ := hnow.of_now
  exact hlooks.of_lookUntil hprobe hnil hmore

/-! ## How long it takes -/

/-- Looks, one after another. All but the last find nothing, and after the deadline nothing is
looked for again. -/
inductive Looks (prompt : Prop) (interval deadline : Nat) (probe : PageTask (Option α)) :
    Nat → List Exchange → Nat → Option α → Prop
  | found {s f : Nat} {xs : List Exchange} (a : α) (h : Course prompt probe s xs f (some a)) :
      Looks prompt interval deadline probe s xs f (some a)
  | late {s f : Nat} {xs : List Exchange} (h : Course prompt probe s xs f none)
      (hd : deadline ≤ f) : Looks prompt interval deadline probe s xs f none
  | again {s m s' f : Nat} {ys zs : List Exchange} {r : Option α}
      (h : Course prompt probe s ys m none) (hd : m < deadline)
      (hs : Follows prompt (m + interval) s')
      (hmore : Looks prompt interval deadline probe s' zs f r) :
      Looks prompt interval deadline probe s (ys ++ zs) f r

/-- There is always a round left for the next look. -/
theorem Course.looks (hi : 0 < interval) (hr : 0 < rounds) (hd : deadline < s + rounds)
    (h : Course prompt (lookUntil interval deadline probe rounds) s xs f r) :
    Looks prompt interval deadline probe s xs f r := by
  induction rounds generalizing s xs with
  | zero => exact absurd hr (Nat.lt_irrefl 0)
  | succ rounds ih =>
    obtain ⟨ys, m, found, zs, hlook, hthen, rfl⟩ := h.of_bind
    cases found with
    | some a =>
      obtain ⟨rfl, rfl, hf⟩ := hthen.of_done
      rw [List.append_nil]
      exact .found _ (hlook.later hf)
    | none =>
      obtain ⟨ws, m', now, vs, hnow, hover, rfl⟩ := hthen.of_bind
      obtain ⟨rfl, hm, hm'⟩ := hnow.of_now
      have hlook' := hlook.later hm
      split at hover
      · rename_i hlate
        obtain ⟨rfl, rfl, hf⟩ := hover.of_done
        rw [List.nil_append, List.append_nil]
        refine .late (hlook'.later (hm'.trans hf)) ?_
        exact Nat.le_trans hlate (Nat.le_trans hm'.1 hf.1)
      · rename_i hlate
        obtain ⟨us, m'', u, vs, hrest, hmore, rfl⟩ := hover.of_bind
        obtain ⟨rfl, hs⟩ := hrest.of_rest
        have hle := hlook'.le
        have hlt : now < deadline := Nat.lt_of_not_le hlate
        have hpause : Follows prompt (now + interval) m'' :=
          ⟨by have := hm'.1; have := hs.1; omega, fun hp => by rw [hs.2 hp, hm'.2 hp]⟩
        refine .again hlook' hlt hpause (ih ?_ ?_ hmore)
        · omega
        · have := hpause.1
          omega

/-- The last look begins at once or before the deadline and one rest more, and with it the wait
ends. -/
theorem Looks.last (h : Looks prompt interval deadline probe s xs f r) :
    ∃ ys l zs, xs = ys ++ zs ∧ s ≤ l ∧ Course prompt probe l zs f r ∧
      (l = s ∨ (prompt → l < deadline + interval)) := by
  induction h with
  | @found s f xs a h => exact ⟨[], s, xs, rfl, Nat.le_refl s, h, .inl rfl⟩
  | @late s f xs h hd => exact ⟨[], s, xs, rfl, Nat.le_refl s, h, .inl rfl⟩
  | @again s m s' f ys zs r h hd hs hmore ih =>
    obtain ⟨vs, l, ws, rfl, hl, hlast, hbegin⟩ := ih
    have hle := h.le
    have hs1 := hs.1
    refine ⟨ys ++ vs, l, ws, by rw [List.append_assoc], by omega, hlast, .inr fun hp => ?_⟩
    rcases hbegin with rfl | hbegin
    · have := hs.2 hp
      omega
    · exact hbegin hp

/-- A wait ends when its last look does, and that look begins no later than the limit and one rest
after the wait has begun. -/
theorem Course.last_look (hi : 0 < interval)
    (h : Course True (poll interval limit probe) s xs f r) :
    ∃ ys l zs, xs = ys ++ zs ∧ s ≤ l ∧ l ≤ s + limit + interval ∧ Course True probe l zs f r := by
  obtain ⟨ws, m, now, vs, hnow, hlooks, rfl⟩ := Course.of_bind h
  obtain ⟨rfl, hs, hm⟩ := hnow.of_now
  obtain rfl := hs.2 trivial
  obtain rfl := hm.2 trivial
  obtain ⟨ys, l, zs, rfl, hl, hlast, hbegin⟩ :=
    (hlooks.looks hi (Nat.succ_pos limit) (by omega)).last
  refine ⟨ys, l, zs, rfl, hl, ?_, hlast⟩
  rcases hbegin with rfl | hbegin
  · omega
  · have := hbegin trivial
    omega

end PageTask

end ScriptSandbox
