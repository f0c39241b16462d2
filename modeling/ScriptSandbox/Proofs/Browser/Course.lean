import ScriptSandbox.Browser.Work

/-!
# Courses of tasks on a page

A course of a task is one way in which it can go from a moment to its end: which calls it makes,
when, and what is answered (`PageTask.Course`). The page may answer at any time and with anything.
What the task does by itself it does at once where it is prompt, and otherwise at any later moment.
A course of two tasks one after the other falls into a course of each (`Course.of_bind`).
-/

namespace ScriptSandbox

/-- A call of a page, with the moments at which it was made and was over, and the answer that came
in between. A call without an answer was given up. -/
structure Exchange where
  call : PageCall
  begun : Nat
  ended : Nat
  answer : Option (Except Failure call.Answer)

/-- How a page behaves: how long it takes to answer its n-th call, and with what. -/
abbrev PageBehaviour := Nat → (c : PageCall) → Nat × Except Failure c.Answer

/-- This is what becomes of these calls at the page, the first of which is its n-th one. A call
that is given up would have been answered later. -/
def PageBehaviour.Answers (d : PageBehaviour) : Nat → List Exchange → Prop
  | _, [] => True
  | n, x :: xs =>
    (x.answer = some (d n x.call).2 ∧ x.ended = x.begun + (d n x.call).1 ∨
      x.answer = none ∧ x.ended < x.begun + (d n x.call).1) ∧ d.Answers (n + 1) xs

/-- What is due at the first moment happens at the second. -/
def Follows (prompt : Prop) (due at' : Nat) : Prop := due ≤ at' ∧ (prompt → at' = due)

theorem Follows.refl (prompt : Prop) (s : Nat) : Follows prompt s s := ⟨Nat.le_refl s, fun _ => rfl⟩

theorem Follows.trans {prompt : Prop} {s m f : Nat} (h : Follows prompt s m)
    (h' : Follows prompt m f) : Follows prompt s f :=
  ⟨Nat.le_trans h.1 h'.1, fun hp => (h'.2 hp).trans (h.2 hp)⟩

theorem Follows.imp {prompt prompt' : Prop} {s f : Nat} (hp : prompt' → prompt)
    (h : Follows prompt s f) : Follows prompt' s f := ⟨h.1, fun h' => h.2 (hp h')⟩

namespace PageTask

variable {α β : Type} {prompt : Prop} {s f : Nat} {xs : List Exchange} {a : α} {b : β}

inductive Course (prompt : Prop) {α : Type} : PageTask α → Nat → List Exchange → Nat → α → Prop
  | done {s f : Nat} (a : α) (hf : Follows prompt s f) : Course prompt (.done a) s [] f a
  | call {s begun ended f : Nat} {xs : List Exchange} {a : α} {c : PageCall}
      {next : Except Failure c.Answer → PageTask α} (r : Except Failure c.Answer)
      (hb : Follows prompt s begun) (he : begun ≤ ended)
      (h : Course prompt (next r) ended xs f a) :
      Course prompt (.call c next) s (⟨c, begun, ended, some r⟩ :: xs) f a
  | callWithin {s begun ended f ms : Nat} {xs : List Exchange} {a : α} {c : PageCall}
      {next : Option (Except Failure c.Answer) → PageTask α}
      (r : Option (Except Failure c.Answer)) (hb : Follows prompt s begun) (he : begun ≤ ended)
      (hw : prompt → ended ≤ begun + ms) (h : Course prompt (next r) ended xs f a) :
      Course prompt (.callWithin ms c next) s (⟨c, begun, ended, r⟩ :: xs) f a
  | pause {s s' f ms : Nat} {xs : List Exchange} {a : α} {next : PageTask α}
      (hs : Follows prompt (s + ms) s') (h : Course prompt next s' xs f a) :
      Course prompt (.pause ms next) s xs f a
  | clock {s now f : Nat} {xs : List Exchange} {a : α} {next : Nat → PageTask α}
      (hs : Follows prompt s now) (h : Course prompt (next now) now xs f a) :
      Course prompt (.clock next) s xs f a
  | save {s s' f : Nat} {xs : List Exchange} {a : α} {path : String} {content : List UInt8}
      {next : Except Failure Nat → PageTask α} (r : Except Failure Nat) (hs : s ≤ s')
      (h : Course prompt (next r) s' xs f a) : Course prompt (.save path content next) s xs f a

/-- What can be done promptly can be done without any hurry. -/
theorem Course.imp {prompt' : Prop} {t : PageTask α} (hp : prompt' → prompt)
    (h : Course prompt t s xs f a) : Course prompt' t s xs f a := by
  induction h with
  | done a hf => exact .done a (hf.imp hp)
  | call r hb he h ih => exact .call r (hb.imp hp) he ih
  | callWithin r hb he hw h ih => exact .callWithin r (hb.imp hp) he (fun h => hw (hp h)) ih
  | pause hs h ih => exact .pause (hs.imp hp) ih
  | clock hs h ih => exact .clock (hs.imp hp) ih
  | save r hs h ih => exact .save r hs ih

theorem Course.le {t : PageTask α} (h : Course prompt t s xs f a) : s ≤ f := by
  induction h with
  | done a hf => exact hf.1
  | call r hb he h ih => exact Nat.le_trans hb.1 (Nat.le_trans he ih)
  | callWithin r hb he hw h ih => exact Nat.le_trans hb.1 (Nat.le_trans he ih)
  | pause hs h ih => exact Nat.le_trans (Nat.le_add_right ..) (Nat.le_trans hs.1 ih)
  | clock hs h ih => exact Nat.le_trans hs.1 ih
  | save r hs h ih => exact Nat.le_trans hs ih

/-- The end of a task is noticed when it is due. -/
theorem Course.later {t : PageTask α} {f' : Nat} (h : Course prompt t s xs f a)
    (hf : Follows prompt f f') : Course prompt t s xs f' a := by
  induction h with
  | done a hf' => exact .done a (hf'.trans hf)
  | call r hb he h ih => exact .call r hb he (ih hf)
  | callWithin r hb he hw h ih => exact .callWithin r hb he hw (ih hf)
  | pause hs h ih => exact .pause hs (ih hf)
  | clock hs h ih => exact .clock hs (ih hf)
  | save r hs h ih => exact .save r hs (ih hf)

/-- A task that is due earlier can still take the same course. -/
theorem Course.earlier {t : PageTask α} {s' : Nat} (h : Course prompt t s' xs f a)
    (hs : Follows prompt s s') : Course prompt t s xs f a := by
  cases h with
  | done a hf => exact .done a (hs.trans hf)
  | call r hb he h => exact .call r (hs.trans hb) he h
  | callWithin r hb he hw h => exact .callWithin r (hs.trans hb) he hw h
  | @pause _ _ _ ms _ _ _ hp h =>
    refine .pause ⟨?_, fun hprompt => ?_⟩ h
    · have := hs.1
      have := hp.1
      omega
    · rw [hp.2 hprompt, hs.2 hprompt]
  | clock hc h => exact .clock (hs.trans hc) h
  | save r hc h => exact .save r (Nat.le_trans hs.1 hc) h

/-- A task after another takes its course from the end of the other's. -/
theorem Course.of_bind {t : PageTask α} {g : α → PageTask β}
    (h : Course prompt (t >>= g) s xs f b) :
    ∃ ys m a zs, Course prompt t s ys m a ∧ Course prompt (g a) m zs f b ∧ xs = ys ++ zs := by
  change Course prompt (t.bind g) s xs f b at h
  induction t generalizing s xs with
  | done a => exact ⟨[], s, a, xs, .done a (.refl prompt s), h, rfl⟩
  | call c next ih =>
    cases h with
    | call r hb he h =>
      obtain ⟨ys, m, a, zs, hy, hz, rfl⟩ := ih r h
      exact ⟨_, m, a, zs, .call r hb he hy, hz, rfl⟩
  | callWithin ms c next ih =>
    cases h with
    | callWithin r hb he hw h =>
      obtain ⟨ys, m, a, zs, hy, hz, rfl⟩ := ih r h
      exact ⟨_, m, a, zs, .callWithin r hb he hw hy, hz, rfl⟩
  | pause ms next ih =>
    cases h with
    | pause hs h =>
      obtain ⟨ys, m, a, zs, hy, hz, rfl⟩ := ih h
      exact ⟨_, m, a, zs, .pause hs hy, hz, rfl⟩
  | clock next ih =>
    cases h with
    | clock hs h =>
      obtain ⟨ys, m, a, zs, hy, hz, rfl⟩ := ih _ h
      exact ⟨_, m, a, zs, .clock hs hy, hz, rfl⟩
  | save path content next ih =>
    cases h with
    | save r hs h =>
      obtain ⟨ys, m, a, zs, hy, hz, rfl⟩ := ih r h
      exact ⟨_, m, a, zs, .save r hs hy, hz, rfl⟩

/-! ## Pages that answer -/

/-- A task comes to its end at every page: it makes its calls at once, and goes on when they have
been answered or are given up. -/
theorem exists_course (d : PageBehaviour) (t : PageTask α) (n s : Nat) :
    ∃ xs f a, Course True t s xs f a ∧ d.Answers n xs := by
  induction t generalizing n s with
  | done a => exact ⟨[], s, a, .done a (.refl _ s), trivial⟩
  | call c next ih =>
    obtain ⟨xs, f, a, h, hxs⟩ := ih (d n c).2 (n + 1) (s + (d n c).1)
    exact ⟨_, f, a, .call (d n c).2 (.refl _ s) (Nat.le_add_right ..) h, .inl ⟨rfl, rfl⟩, hxs⟩
  | callWithin ms c next ih =>
    by_cases hms : (d n c).1 ≤ ms
    · obtain ⟨xs, f, a, h, hxs⟩ := ih (some (d n c).2) (n + 1) (s + (d n c).1)
      exact ⟨_, f, a, .callWithin (some (d n c).2) (.refl _ s) (Nat.le_add_right ..)
        (fun _ => Nat.add_le_add_left hms s) h, .inl ⟨rfl, rfl⟩, hxs⟩
    · obtain ⟨xs, f, a, h, hxs⟩ := ih none (n + 1) (s + ms)
      exact ⟨_, f, a, .callWithin none (.refl _ s) (Nat.le_add_right ..) (fun _ => Nat.le_refl _) h,
        .inr ⟨rfl, Nat.add_lt_add_left (Nat.lt_of_not_le hms) s⟩, hxs⟩
  | pause ms next ih =>
    obtain ⟨xs, f, a, h, hxs⟩ := ih n (s + ms)
    exact ⟨xs, f, a, .pause (.refl _ _) h, hxs⟩
  | clock next ih =>
    obtain ⟨xs, f, a, h, hxs⟩ := ih s n s
    exact ⟨xs, f, a, .clock (.refl _ s) h, hxs⟩
  | save path content next ih =>
    obtain ⟨xs, f, a, h, hxs⟩ := ih (.ok 0) n s
    exact ⟨xs, f, a, .save (.ok 0) (Nat.le_refl s) h, hxs⟩

/-! ## Single steps -/

theorem Course.of_done {a' : α} (h : Course prompt (.done a') s xs f a) :
    xs = [] ∧ a = a' ∧ Follows prompt s f := by
  cases h with
  | done a hf => exact ⟨rfl, rfl, hf⟩

theorem Course.of_attempt {c : PageCall} {r : Except Failure c.Answer}
    (h : Course prompt (attempt c) s xs f r) :
    ∃ begun ended, xs = [⟨c, begun, ended, some r⟩] ∧ Follows prompt s begun ∧ begun ≤ ended ∧
      Follows prompt ended f := by
  cases h with
  | call r hb he h =>
    obtain ⟨rfl, rfl, hf⟩ := h.of_done
    exact ⟨_, _, rfl, hb, he, hf⟩

theorem Course.of_rest {ms : Nat} {u : Unit} (h : Course prompt (rest ms) s xs f u) :
    xs = [] ∧ Follows prompt (s + ms) f := by
  cases h with
  | pause hs h =>
    obtain ⟨rfl, -, hf⟩ := h.of_done
    exact ⟨rfl, hs.trans hf⟩

theorem Course.of_now {now : Nat} (h : Course prompt PageTask.now s xs f now) :
    xs = [] ∧ Follows prompt s now ∧ Follows prompt now f := by
  cases h with
  | clock hs h =>
    obtain ⟨rfl, rfl, hf⟩ := h.of_done
    exact ⟨rfl, hs, hf⟩

end PageTask

namespace PageAction

variable {α β : Type} {prompt : Prop} {s f : Nat} {xs : List Exchange}

/-- A course of a task on a page that may fail. -/
def Course (prompt : Prop) (t : PageAction α) (s : Nat) (xs : List Exchange) (f : Nat)
    (r : Except Failure α) : Prop := PageTask.Course prompt t.run s xs f r

/-- A task that cannot fail is gone through before the next one. -/
theorem Course.of_quietly {t : PageTask α} {g : α → PageAction β} {r : Except Failure β}
    (h : Course prompt (quietly t >>= g) s xs f r) :
    ∃ ys m a zs, t.Course prompt s ys m a ∧ Course prompt (g a) m zs f r ∧ xs = ys ++ zs := by
  obtain ⟨ys, m, q, zs, hlift, hz, rfl⟩ := PageTask.Course.of_bind h
  obtain ⟨vs, m', a, ws, ht, hdone, rfl⟩ := PageTask.Course.of_bind hlift
  obtain ⟨rfl, rfl, hm⟩ := PageTask.Course.of_done hdone
  exact ⟨vs, m, a, zs, ht.later hm, hz, by rw [List.append_nil]⟩

/-- A failure ends a task, and nothing comes after it. -/
theorem Course.of_bind {t : PageAction α} {g : α → PageAction β} {r : Except Failure β}
    (h : Course prompt (t >>= g) s xs f r) :
    ∃ ys m q zs, xs = ys ++ zs ∧ Course prompt t s ys m q ∧
      ((∃ e, q = .error e ∧ zs = [] ∧ r = .error e) ∨
        ∃ a, q = .ok a ∧ Course prompt (g a) m zs f r) := by
  obtain ⟨ys, m, q, zs, ht, hz, rfl⟩ := PageTask.Course.of_bind h
  refine ⟨ys, m, q, zs, rfl, ht, ?_⟩
  cases q with
  | error e =>
    obtain ⟨rfl, rfl, -⟩ := PageTask.Course.of_done hz
    exact .inl ⟨e, rfl, rfl, rfl⟩
  | ok a => exact .inr ⟨a, rfl, hz⟩

theorem Course.of_attempt {c : PageCall} {g : Except Failure c.Answer → PageAction β}
    {r : Except Failure β} (h : Course prompt (attempt c >>= g) s xs f r) :
    ∃ begun ended answer zs, xs = ⟨c, begun, ended, some answer⟩ :: zs ∧
      Follows prompt s begun ∧ begun ≤ ended ∧ Course prompt (g answer) ended zs f r := by
  cases (h : PageTask.Course prompt (.call c fun answer => (g answer).run) s xs f r) with
  | call answer hb he h => exact ⟨_, _, answer, _, rfl, hb, he, h⟩

/-- A call that fails ends the task. -/
theorem Course.of_ask {c : PageCall} {g : c.Answer → PageAction β} {r : Except Failure β}
    (h : Course prompt (ask c >>= g) s xs f r) :
    ∃ begun ended answer zs, xs = ⟨c, begun, ended, some answer⟩ :: zs ∧
      Follows prompt s begun ∧ begun ≤ ended ∧
      ((∃ e, answer = .error e ∧ zs = [] ∧ r = .error e) ∨
        ∃ a, answer = .ok a ∧ Course prompt (g a) ended zs f r) := by
  cases (h : PageTask.Course prompt (.call c (ExceptT.bindCont g)) s xs f r) with
  | call answer hb he h =>
    refine ⟨_, _, answer, _, rfl, hb, he, ?_⟩
    cases answer with
    | error e =>
      obtain ⟨rfl, rfl, -⟩ := h.of_done
      exact .inl ⟨e, rfl, rfl, rfl⟩
    | ok a => exact .inr ⟨a, rfl, h⟩

theorem Course.of_pure {a : α} {r : Except Failure α}
    (h : Course prompt (pure a : PageAction α) s xs f r) : xs = [] ∧ r = .ok a := by
  obtain ⟨hxs, hr, -⟩ := PageTask.Course.of_done h
  exact ⟨hxs, hr⟩

theorem Course.of_fail {e : Failure} {r : Except Failure α}
    (h : Course prompt (fail e : PageAction α) s xs f r) : xs = [] ∧ r = .error e := by
  obtain ⟨hxs, hr, -⟩ := PageTask.Course.of_done h
  exact ⟨hxs, hr⟩

end PageAction

end ScriptSandbox
