import ScriptSandbox.Proofs.Browser.Polling
import Mathlib.Algebra.Order.Floor.Div

/-!
# The pace of a wait

Where every look is answered at once, a wait looks at its beginning and after each rest from then on
(`Course.steady`). It finds what it looks for at the first look that sees it, and gives up with the
first look that does not begin before the deadline: neither earlier nor later
(`Course.paced`).
-/

namespace ScriptSandbox

/-- The call has been over at the moment at which it was made. -/
def Exchange.AtOnce (x : Exchange) : Prop := x.ended = x.begun

/-- What a page answers at a moment. -/
abbrev PageContent := Nat → (c : PageCall) → Except Failure c.Answer

/-- This page has given the answer, and at once. -/
def PageContent.Answers (page : PageContent) (x : Exchange) : Prop :=
  x.AtOnce ∧ x.answer = some (page x.begun x.call)

namespace PageTask

variable {α : Type} {s f t interval deadline limit rounds n : Nat} {probe : PageTask (Option α)}
  {xs : List Exchange} {r : Option α} {ok : Exchange → Prop} {page : PageContent}
  {seen : Nat → Option α}

/-- A probe that takes no time where its calls are all of one kind. -/
def Brief (ok : Exchange → Prop) (probe : PageTask (Option α)) : Prop :=
  ∀ ⦃t xs f r⦄, Course True probe t xs f r → (∀ x ∈ xs, ok x) → f = t

/-- Looks at even distances. All but the last find nothing and begin before the deadline, and the
last one finds something or does not. -/
structure Steady (probe : PageTask (Option α)) (interval deadline start n : Nat)
    (looks : Nat → List Exchange) (r : Option α) : Prop where
  vain : ∀ j < n, Course True probe (start + j * interval) (looks j) (start + j * interval) none ∧
    start + j * interval < deadline
  last : Course True probe (start + n * interval) (looks n) (start + n * interval) r
  late : r = none → deadline ≤ start + n * interval

/-- One look more, in front of the others. -/
theorem Steady.cons {looks : Nat → List Exchange} {ys : List Exchange}
    (hlook : Course True probe s ys s none) (hd : s < deadline)
    (h : Steady probe interval deadline (s + interval) n looks r) :
    Steady probe interval deadline s (n + 1) (fun j => j.casesOn ys looks) r := by
  have hnext (j : Nat) : s + (j + 1) * interval = s + interval + j * interval := by
    rw [Nat.add_one_mul]
    omega
  refine ⟨fun j hj => ?_, ?_, fun hr => ?_⟩
  · cases j with
    | zero => simpa using And.intro hlook hd
    | succ j =>
      rw [hnext]
      exact h.vain j (Nat.lt_of_succ_lt_succ hj)
  · rw [hnext]
    exact h.last
  · rw [hnext]
    exact h.late hr

theorem Looks.steady (hbrief : Brief ok probe) (h : Looks True interval deadline probe s xs f r)
    (hx : ∀ x ∈ xs, ok x) :
    ∃ n looks, Steady probe interval deadline s n looks r ∧ f = s + n * interval ∧
      xs = (List.range (n + 1)).flatMap looks := by
  induction h with
  | @found s f xs a h =>
    obtain rfl := hbrief h hx
    exact ⟨0, fun _ => xs, ⟨by simp, by simpa using h, by simp⟩, by simp, by simp⟩
  | @late s f xs h hd =>
    obtain rfl := hbrief h hx
    exact ⟨0, fun _ => xs, ⟨by simp, by simpa using h, by simpa using hd⟩, by simp, by simp⟩
  | @again s m s' f ys zs r h hd hs hmore ih =>
    obtain ⟨hy, hz⟩ := List.forall_mem_append.1 hx
    obtain rfl := hbrief h hy
    obtain rfl := hs.2 trivial
    obtain ⟨n, looks, hsteady, rfl, rfl⟩ := ih hz
    refine ⟨n + 1, _, hsteady.cons h hd, by rw [Nat.add_one_mul]; omega, ?_⟩
    rw [List.range_succ_eq_map (n := n + 1), List.flatMap_cons, List.flatMap_map]
    rfl

theorem Course.steady (hi : 0 < interval) (hbrief : Brief ok probe)
    (h : Course True (poll interval limit probe) s xs f r) (hx : ∀ x ∈ xs, ok x) :
    ∃ n looks, Steady probe interval (s + limit) s n looks r ∧ f = s + n * interval ∧
      xs = (List.range (n + 1)).flatMap looks := by
  obtain ⟨ws, m, now, vs, hnow, hlooks, rfl⟩ := Course.of_bind h
  obtain ⟨rfl, hs, hm⟩ := hnow.of_now
  obtain rfl := hs.2 trivial
  obtain rfl := hm.2 trivial
  exact (hlooks.looks hi (Nat.succ_pos limit) (by omega)).steady hbrief hx

/-- There are as many looks as fit before the deadline, and one more if none finds anything. -/
theorem Steady.count {looks : Nat → List Exchange} (hi : 0 < interval)
    (h : Steady probe interval (s + limit) s n looks r) :
    n ≤ limit ⌈/⌉ interval ∧ (r = none → n = limit ⌈/⌉ interval) := by
  have hround : limit ≤ limit ⌈/⌉ interval * interval := by
    rw [Nat.mul_comm]
    exact (ceilDiv_le_iff_le_mul hi).1 (Nat.le_refl _)
  have hle : n ≤ limit ⌈/⌉ interval := by
    by_contra hlt
    have := (h.vain (limit ⌈/⌉ interval) (by omega)).2
    omega
  refine ⟨hle, fun hr => Nat.le_antisymm hle ((ceilDiv_le_iff_le_mul hi).2 ?_)⟩
  have := h.late hr
  rw [Nat.mul_comm]
  omega

/-- What is to be seen from some moment before the deadline on is found, and by the first look from
then on. -/
theorem Steady.lasting {looks : Nat → List Exchange} {since : Nat}
    (h : Steady probe interval (s + limit) s n looks r)
    (hvain : ∀ j < n, seen (s + j * interval) = none) (hlast : r = seen (s + n * interval))
    (hsince : since ≤ s + limit) (hseen : ∀ t, since ≤ t → (seen t).isSome) :
    r.isSome ∧ s + n * interval ≤ max since s + interval := by
  refine ⟨?_, ?_⟩
  · cases hcase : r with
    | some a => rfl
    | none =>
      have hlate := h.late hcase
      have := hseen (s + n * interval) (by omega)
      rw [← hlast, hcase] at this
      cases this
  · cases n with
    | zero => omega
    | succ j =>
      -- the look before the last one has found nothing, so it has come too early
      have hearly : s + j * interval < since := by
        by_contra hle
        have := hseen _ (Nat.le_of_not_lt hle)
        rw [hvain j (Nat.lt_succ_self j)] at this
        cases this
      rw [Nat.add_one_mul]
      omega

/-! ## Conditions that come and go -/

/-- Where this page answers at once, a probe that begins at a moment is over at that moment, and
comes to what is to be seen then. -/
def Sees (page : PageContent) (probe : PageTask (Option α)) (seen : Nat → Option α) : Prop :=
  ∀ ⦃t xs f r⦄, Course True probe t xs f r → (∀ x ∈ xs, page.Answers x) → f = t ∧ r = seen t

/-- How a wait goes that begins at this moment, with one look more than `n`: when it looks, when it
is over, and with what. -/
structure Paced (probe : PageTask (Option α)) (seen : Nat → Option α)
    (interval limit start n : Nat) (xs : List Exchange) (f : Nat) (r : Option α) : Prop where
  /-- It looks at its beginning and after each interval, and does nothing else. -/
  looks : ∃ looks, xs = (List.range (n + 1)).flatMap looks ∧ ∀ j ≤ n,
    Course True probe (start + j * interval) (looks j) (start + j * interval)
      (seen (start + j * interval))
  found : ∀ k ≤ limit ⌈/⌉ interval, (∀ j < k, seen (start + j * interval) = none) →
    ∀ a, seen (start + k * interval) = some a → n = k ∧ f = start + k * interval ∧ r = some a
  gaveUp : (∀ k ≤ limit ⌈/⌉ interval, seen (start + k * interval) = none) →
    n = limit ⌈/⌉ interval ∧ f = start + limit ⌈/⌉ interval * interval ∧ r = none
  /-- What is to be seen from some moment before the deadline on is not missed. -/
  lasting : ∀ since ≤ start + limit, (∀ t, since ≤ t → (seen t).isSome) →
    r.isSome ∧ f ≤ max since start + interval
  once : limit = 0 → n = 0

theorem Course.paced (hi : 0 < interval) (hsees : Sees page probe seen)
    (h : Course True (poll interval limit probe) s xs f r) (hx : ∀ x ∈ xs, page.Answers x) :
    ∃ n, Paced probe seen interval limit s n xs f r := by
  obtain ⟨n, looks, hsteady, rfl, rfl⟩ := h.steady hi (fun _ _ _ _ h hx => (hsees h hx).1) hx
  obtain ⟨hn, hlast⟩ := hsteady.count hi
  have hlook {j : Nat} (hj : j ≤ n) : ∀ x ∈ looks j, page.Answers x := fun x hmem =>
    hx x (List.mem_flatMap.2 ⟨j, List.mem_range.2 (Nat.lt_succ_of_le hj), hmem⟩)
  have hvain : ∀ j < n, seen (s + j * interval) = none := fun j hj =>
    (hsees (hsteady.vain j hj).1 (hlook (Nat.le_of_lt hj))).2.symm
  have hr : r = seen (s + n * interval) := (hsees hsteady.last (hlook (Nat.le_refl n))).2
  refine ⟨n, ⟨looks, rfl, fun j hj => ?_⟩, fun k hk hbefore a ha => ?_, fun hnone => ?_,
    fun since hsince hseen => hsteady.lasting hvain hr hsince hseen, fun hzero => ?_⟩
  · rcases Nat.lt_or_eq_of_le hj with hj | rfl
    · rw [hvain j hj]
      exact (hsteady.vain j hj).1
    · rw [← hr]
      exact hsteady.last
  · rcases Nat.lt_trichotomy n k with hlt | rfl | hlt
    · have := hlast (hr.trans (hbefore n hlt))
      omega
    · exact ⟨rfl, rfl, hr.trans ha⟩
    · rw [hvain k hlt] at ha
      cases ha
  · have hnone := hr.trans (hnone n hn)
    rw [← hlast hnone]
    exact ⟨rfl, rfl, hnone⟩
  · rw [hzero, zero_ceilDiv] at hn
    exact Nat.le_zero.1 hn

/-- A task comes to its end at every page that answers at once. -/
theorem exists_course_answers (page : PageContent) (t : PageTask α) (s : Nat) :
    ∃ xs f a, Course True t s xs f a ∧ ∀ x ∈ xs, page.Answers x := by
  induction t generalizing s with
  | done a => exact ⟨[], s, a, .done a (.refl _ s), by simp⟩
  | call c next ih =>
    obtain ⟨xs, f, a, h, hxs⟩ := ih (page s c) s
    exact ⟨_, f, a, .call _ (.refl _ s) (Nat.le_refl s) h, List.forall_mem_cons.2 ⟨⟨rfl, rfl⟩, hxs⟩⟩
  | callWithin ms c next ih =>
    obtain ⟨xs, f, a, h, hxs⟩ := ih (some (page s c)) s
    exact ⟨_, f, a, .callWithin _ (.refl _ s) (Nat.le_refl s) (fun _ => Nat.le_add_right ..) h,
      List.forall_mem_cons.2 ⟨⟨rfl, rfl⟩, hxs⟩⟩
  | pause ms next ih =>
    obtain ⟨xs, f, a, h, hxs⟩ := ih (s + ms)
    exact ⟨xs, f, a, .pause (.refl _ _) h, hxs⟩
  | clock next ih =>
    obtain ⟨xs, f, a, h, hxs⟩ := ih s s
    exact ⟨xs, f, a, .clock (.refl _ s) h, hxs⟩
  | save path content next ih =>
    obtain ⟨xs, f, a, h, hxs⟩ := ih (.ok 0) s
    exact ⟨xs, f, a, .save (.ok 0) (Nat.le_refl s) h, hxs⟩

/-! ## Single looks -/

/-- A probe that makes one call and judges by the answer. -/
def look (c : PageCall) (judge : Except Failure c.Answer → Option α) : PageTask (Option α) :=
  .call c fun r => .done (judge r)

theorem Course.of_look {c : PageCall} {judge : Except Failure c.Answer → Option α} {prompt : Prop}
    (h : Course prompt (look c judge) s xs f r) :
    ∃ begun ended answer, xs = [⟨c, begun, ended, some answer⟩] ∧ Follows prompt s begun ∧
      begun ≤ ended ∧ Follows prompt ended f ∧ r = judge answer := by
  cases h with
  | call answer hb he h =>
    obtain ⟨rfl, rfl, hf⟩ := h.of_done
    exact ⟨_, _, answer, rfl, hb, he, hf, rfl⟩

theorem Course.of_look_prompt {c : PageCall} {judge : Except Failure c.Answer → Option α}
    (h : Course True (look c judge) s xs f r) :
    ∃ answer, xs = [⟨c, s, f, some answer⟩] ∧ r = judge answer := by
  obtain ⟨begun, ended, answer, rfl, hb, -, hf, hr⟩ := h.of_look
  obtain rfl := hb.2 trivial
  obtain rfl := hf.2 trivial
  exact ⟨answer, rfl, hr⟩

/-- Such a probe sees at each moment what it makes of the answer of that moment. -/
theorem sees_look (page : PageContent) (c : PageCall) (judge : Except Failure c.Answer → Option α) :
    Sees page (look c judge) fun t => judge (page t c) := by
  intro t xs f r h hx
  obtain ⟨answer, rfl, rfl⟩ := h.of_look_prompt
  obtain ⟨hend, hanswer⟩ := hx _ (List.mem_singleton_self _)
  exact ⟨hend, congrArg judge (Option.some.inj hanswer)⟩

end PageTask

end ScriptSandbox
