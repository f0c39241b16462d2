import ScriptSandbox.Proofs.Browser.SoFar
import ScriptSandbox.Proofs.Browser.Timeouts

/-!
# Nothing is done to an element that has not been seen

A click, a fill, a clear and the submit of an element look for it first. What they do to it they do
one call after another, once a look has shown it, and until a call fails (`Deeds`, `Touches`).
Whatever the page answers and whatever else happens, the talk of such an operation shows it at every
moment (`element_operation`).
-/

namespace ScriptSandbox

/-! ## Scripts -/

namespace PageScript

namespace Template

variable {t t' : Template} {a b tail tail' : String}

theorem toList_fill :
    (t.fill a).toList = t.before.toList ++ (Json.quote a).toList ++ t.after.toList := by
  rw [fill, String.toList_append, String.toList_append]

/-- The script ends with this text. The end is found on the characters, without going through the
bytes of the whole script. -/
def EndsIn (t : Template) (tail : String) : Prop :=
  ∃ cs, t.after = String.ofList cs ∧ tail.toList <:+ cs

theorem EndsIn.fill (h : t.EndsIn tail) (a : String) : tail.toList <:+ (t.fill a).toList := by
  obtain ⟨cs, hafter, htail⟩ := h
  rw [toList_fill, hafter, String.toList_ofList]
  exact htail.trans (List.suffix_append _ _)

theorem fill_ne_fill (h : t.EndsIn tail) (h' : t'.EndsIn tail')
    (hlen : tail.toList.length = tail'.toList.length) (hne : tail ≠ tail') :
    t.fill a ≠ t'.fill b := by
  intro heq
  have hsuffix := h.fill a
  rw [heq] at hsuffix
  have hall := List.suffix_of_suffix_length_le hsuffix (h'.fill b) (Nat.le_of_eq hlen)
  exact hne (String.toList_injective (hall.eq_of_length hlen))

/-- Scripts around the same literal are the same for every template. -/
theorem fill_congr (h : t.fill a = t.fill b) (t' : Template) : t'.fill a = t'.fill b := by
  have hlist := congrArg String.toList h
  rw [toList_fill, toList_fill, List.append_cancel_right_eq, List.append_cancel_left_eq] at hlist
  rw [Template.fill, String.toList_injective hlist, Template.fill]

end Template

set_option maxRecDepth 4000 in
theorem visibility_endsIn : visibility.EndsIn "rect.height > 0;\n\x7d)()" :=
  ⟨_, rfl, by decide +kernel⟩

set_option maxRecDepth 4000 in
theorem clearing_endsIn : clearing.EndsIn ";\n  return true;\n\x7d)()" :=
  ⟨_, rfl, by decide +kernel⟩

set_option maxRecDepth 4000 in
theorem submitting_endsIn : submitting.EndsIn "\x7d\n  return true;\n\x7d)()" :=
  ⟨_, rfl, by decide +kernel⟩

theorem visibility_ne_clearing (a b : String) : visibility.fill a ≠ clearing.fill b :=
  Template.fill_ne_fill visibility_endsIn clearing_endsIn (by decide) (by decide)

theorem visibility_ne_submitting (a b : String) : visibility.fill a ≠ submitting.fill b :=
  Template.fill_ne_fill visibility_endsIn submitting_endsIn (by decide) (by decide)

theorem clearing_ne_submitting (a b : String) : clearing.fill a ≠ submitting.fill b :=
  Template.fill_ne_fill clearing_endsIn submitting_endsIn (by decide) (by decide)

end PageScript

/-! ## Talks -/

/-- The call that is asked for with a mark. -/
def Mark.call? : Mark → Option PageCall
  | .asked _ c => some c
  | .heard _ _ _ => none

/-- The calls that are asked for in a talk. -/
def callsOf (ms : List Mark) : List PageCall := ms.filterMap Mark.call?

theorem callsOf_marks (xs : List Exchange) :
    callsOf (xs.flatMap Exchange.marks) = xs.map Exchange.call := by
  induction xs with
  | nil => rfl
  | cons x xs ih =>
    rw [List.flatMap_cons, callsOf, List.filterMap_append, ← callsOf, ← callsOf, ih]
    cases x with
    | mk c begun ended answer => cases answer <;> rfl

/-- Before every mark of the second kind stands one of the first. -/
def Precedes (first second : Mark → Prop) (ms : List Mark) : Prop :=
  ∀ front m back, ms = front ++ m :: back → second m → ∃ m' ∈ front, first m'

/-- There are no two that are like this. -/
def AtMostOne (like : PageCall → Prop) (cs : List PageCall) : Prop :=
  cs.Pairwise fun c c' => like c → ¬ like c'

section Marks

variable {first second : Mark → Prop} {like : PageCall → Prop} {ms ns : List Mark}
  {cs ds : List PageCall}

theorem Precedes.of_isPrefix (h : Precedes first second ms) (hns : ns <+: ms) :
    Precedes first second ns := by
  obtain ⟨rest, rfl⟩ := hns
  rintro front m back rfl
  exact h front m (back ++ rest) (by rw [List.append_assoc, List.cons_append])

theorem Precedes.append (h : Precedes first second ms)
    (h' : ∀ m ∈ ns, second m → ∃ m' ∈ ms, first m') : Precedes first second (ms ++ ns) := by
  intro front m back heq hm
  rcases List.append_eq_append_iff.1 heq with ⟨mid, rfl, hns⟩ | ⟨mid, rfl, hback⟩
  · obtain ⟨m', hmem, hm'⟩ := h' m (hns ▸ by simp) hm
    exact ⟨m', List.mem_append_left _ hmem, hm'⟩
  · cases mid with
    | nil =>
      obtain ⟨m', hmem, hm'⟩ := h' m (by rw [List.nil_append] at hback; simp [← hback]) hm
      exact ⟨m', by simpa using hmem, hm'⟩
    | cons m₀ mid =>
      obtain ⟨rfl, -⟩ := List.cons.inj hback
      exact h front m mid rfl hm

theorem precedes_of_none (h : ∀ m ∈ ms, ¬ second m) : Precedes first second ms := by
  rintro front m back rfl hm
  exact absurd hm (h m (by simp))

theorem AtMostOne.of_isPrefix (h : AtMostOne like cs) (hds : ds <+: cs) : AtMostOne like ds :=
  List.Pairwise.sublist hds.sublist h

theorem AtMostOne.append_left (h : AtMostOne like ds) (hcs : ∀ c ∈ cs, ¬ like c) :
    AtMostOne like (cs ++ ds) := by
  refine List.pairwise_append.2 ⟨?_, h, fun c hc _ _ hlike => absurd hlike (hcs c hc)⟩
  exact List.pairwise_of_forall_mem_list fun c hc _ _ hlike => absurd hlike (hcs c hc)

end Marks

/-! ## Looks and deeds -/

namespace Operation

variable {o : SessionOptions} {op : Operation} {selector : String} {prompt : Prop} {s f : Nat}
  {xs : List Exchange} {r : Except Failure Report}

/-- The element that an operation looks for before it does something to it. -/
def target? : Operation → Option String
  | .click selector | .fill selector _ | .clear selector | .submit (some selector) => some selector
  | _ => none

/-- What an operation does to its element. -/
def deeds : Operation → List PageCall
  | .click selector => [.click selector]
  | .fill selector text => [.evaluate (PageScript.clearing.fill selector), .typeText selector text]
  | .clear selector => [.evaluate (PageScript.clearing.fill selector)]
  | .submit (some selector) => [.evaluate (PageScript.submitting.fill selector)]
  | _ => []

/-- A look for an element. -/
abbrev lookFor (selector : String) : PageCall := .evaluate (PageScript.visibility.fill selector)

/-- The looks for an element, the last of which may have shown it. -/
structure ElementLooks (selector : String) (xs : List Exchange) (seen : Option Unit) : Prop where
  looks : ∀ x ∈ xs, x.call = lookFor selector
  seen : seen = some () →
    ∃ begun ended, ⟨lookFor selector, begun, ended, some (.ok (.bool true))⟩ ∈ xs

theorem eq_of_shows {answer : Except Failure Json}
    (h : (elementWait o selector).shows answer = true) : answer = .ok (.bool true) := by
  rcases answer with e | j
  · exact nomatch h
  · cases j with
    | bool b =>
      cases b with
      | true => rfl
      | false => exact nomatch h
    | null | num | str | arr | obj => exact nomatch h

theorem elementLooks_of_probe {seen : Option Unit}
    (h : (visibleProbe selector).Course prompt s xs f seen) : ElementLooks selector xs seen := by
  rw [visibleProbe_eq default] at h
  obtain ⟨begun, ended, answer, rfl, -, -, -, rfl⟩ := h.of_look
  refine ⟨fun x hx => by rw [List.mem_singleton.1 hx]; rfl, fun hseen => ⟨begun, ended, ?_⟩⟩
  have hshows : (elementWait default selector).shows answer = true := by
    by_contra hno
    rw [if_neg hno] at hseen
    exact nomatch hseen
  rw [eq_of_shows hshows]
  exact List.mem_singleton_self _

theorem elementLooks_of_poll {interval limit : Nat} {seen : Option Unit}
    (h : (PageTask.poll interval limit (visibleProbe selector)).Course prompt s xs f seen) :
    ElementLooks selector xs seen := by
  refine h.of_poll (fun hlook => elementLooks_of_probe hlook) ⟨by simp, nofun⟩ ?_
  intro ys zs seen hy hz
  refine ⟨fun x hx => (List.mem_append.1 hx).elim (hy.looks x) (hz.looks x), fun hseen => ?_⟩
  obtain ⟨begun, ended, hmem⟩ := hz.seen hseen
  exact ⟨begun, ended, List.mem_append_right ys hmem⟩

/-- A wait for an element ends with the look that shows it, or fails. -/
theorem elementLooks_of_awaitVisible {q : Except Failure Unit}
    (h : (awaitVisible o selector).Course prompt s xs f q) :
    ElementLooks selector xs (some ()) ∧ q = .ok () ∨
      ElementLooks selector xs none ∧ q = .error (elementWait o selector).failure := by
  obtain ⟨ys, m, seen, zs, hpoll, hfound, rfl⟩ := PageAction.Course.of_quietly h
  have hlooks := elementLooks_of_poll hpoll
  cases seen with
  | none =>
    obtain ⟨rfl, rfl⟩ := PageAction.Course.of_fail hfound
    rw [List.append_nil]
    exact .inr ⟨hlooks, rfl⟩
  | some u =>
    obtain ⟨rfl, rfl⟩ := PageAction.Course.of_pure hfound
    rw [List.append_nil]
    exact .inl ⟨hlooks, rfl⟩

/-- What is done to an element, one call after another until one fails. The last of the calls may
have found that the element is gone. -/
inductive Deeds (selector : String) : List PageCall → List Exchange → Except Failure Report → Prop
  | all : Deeds selector [] [] (.ok .nothing)
  | gone : Deeds selector [] [] (.error (missing selector))
  | failed (c : PageCall) (plan : List PageCall) (begun ended : Nat) (e : Failure) :
      Deeds selector (c :: plan) [⟨c, begun, ended, some (.error e)⟩] (.error e)
  | made {c : PageCall} {plan : List PageCall} {xs : List Exchange} {r : Except Failure Report}
      (begun ended : Nat) (a : c.Answer) (h : Deeds selector plan xs r) :
      Deeds selector (c :: plan) (⟨c, begun, ended, some (.ok a)⟩ :: xs) r

theorem deeds_of_ask {c : PageCall} {g : c.Answer → PageAction Report} {plan : List PageCall}
    (hg : ∀ {a s xs f r}, (g a).Course prompt s xs f r → Deeds selector plan xs r)
    (h : (PageAction.ask c >>= g).Course prompt s xs f r) : Deeds selector (c :: plan) xs r := by
  obtain ⟨begun, ended, answer, zs, rfl, -, -, ⟨e, rfl, rfl, rfl⟩ | ⟨a, rfl, hthen⟩⟩ := h.of_ask
  · exact .failed c plan begun ended e
  · exact .made begun ended a (hg hthen)

theorem deeds_of_return (h : (pure .nothing : PageAction Report).Course prompt s xs f r) :
    Deeds selector [] xs r := by
  obtain ⟨rfl, rfl⟩ := h.of_pure
  exact .all

theorem deeds_of_onElement {script : PageScript.Template}
    (h : (onElement script selector >>= fun _ => pure .nothing).Course prompt s xs f r) :
    Deeds selector [.evaluate (script.fill selector)] xs r := by
  obtain ⟨ys, m, q, zs, rfl, hscript, hthen⟩ := PageAction.Course.of_bind h
  obtain ⟨begun, ended, answer, vs, rfl, -, -, hscript⟩ := PageAction.Course.of_ask hscript
  rcases hscript with ⟨e, rfl, rfl, rfl⟩ | ⟨j, rfl, hanswer⟩
  · rcases hthen with ⟨e', heq, rfl, rfl⟩ | ⟨a, heq, -⟩
    · obtain rfl := Except.error.inj heq
      exact .failed _ _ begun ended e
    · exact nomatch heq
  · split at hanswer
    · obtain ⟨rfl, rfl⟩ := hanswer.of_fail
      rcases hthen with ⟨e', heq, rfl, rfl⟩ | ⟨a, heq, -⟩
      · obtain rfl := Except.error.inj heq
        exact .made begun ended _ .gone
      · exact nomatch heq
    · obtain ⟨rfl, rfl⟩ := hanswer.of_pure
      rcases hthen with ⟨e', heq, -, -⟩ | ⟨a, -, hthen⟩
      · exact nomatch heq
      · obtain ⟨rfl, rfl⟩ := hthen.of_pure
        exact .made begun ended j .all

/-- An operation has looked for its element in vain, or has seen it and then done something to
it. -/
inductive Touches (o : SessionOptions) (selector : String) (plan : List PageCall) :
    List Exchange → Except Failure Report → Prop
  | unseen {xs : List Exchange} (hlooks : ElementLooks selector xs none) :
      Touches o selector plan xs (.error (elementWait o selector).failure)
  | seen {xs ys : List Exchange} {r : Except Failure Report}
      (hlooks : ElementLooks selector xs (some ())) (hdeeds : Deeds selector plan ys r) :
      Touches o selector plan (xs ++ ys) r

theorem touches_of_awaitVisible {g : Unit → PageAction Report} {plan : List PageCall}
    (hg : ∀ {s xs f r}, (g ()).Course prompt s xs f r → Deeds selector plan xs r)
    (h : (awaitVisible o selector >>= g).Course prompt s xs f r) :
    Touches o selector plan xs r := by
  obtain ⟨ys, m, q, zs, rfl, hwait, hthen⟩ := PageAction.Course.of_bind h
  rcases elementLooks_of_awaitVisible hwait with ⟨hlooks, rfl⟩ | ⟨hlooks, rfl⟩
  · rcases hthen with ⟨e, heq, -, -⟩ | ⟨a, -, hthen⟩
    · exact nomatch heq
    · exact .seen hlooks (hg hthen)
  · rcases hthen with ⟨e, heq, rfl, rfl⟩ | ⟨a, heq, -⟩
    · obtain rfl := Except.error.inj heq
      rw [List.append_nil]
      exact .unseen hlooks
    · exact nomatch heq

theorem touches_of_work (htarget : op.target? = some selector)
    (h : (op.work o).Course prompt s xs f r) : Touches o selector op.deeds xs r := by
  cases op with
  | click selector' =>
    obtain rfl := Option.some.inj htarget
    exact touches_of_awaitVisible (fun h => deeds_of_ask deeds_of_return h) h
  | fill selector' text =>
    obtain rfl := Option.some.inj htarget
    exact touches_of_awaitVisible (fun h => deeds_of_ask (deeds_of_ask deeds_of_return) h) h
  | clear selector' =>
    obtain rfl := Option.some.inj htarget
    exact touches_of_awaitVisible deeds_of_onElement h
  | submit selector' =>
    obtain rfl : selector' = some selector := by
      cases selector' with
      | none => exact nomatch htarget
      | some selector' => exact htarget
    exact touches_of_awaitVisible deeds_of_onElement h
  | _ => exact nomatch htarget

theorem Deeds.calls {plan : List PageCall} (h : Deeds selector plan xs r) :
    xs.map Exchange.call <+: plan ∧ ∀ report, r = .ok report → xs.map Exchange.call = plan := by
  induction h with
  | all => exact ⟨⟨_, rfl⟩, fun _ _ => rfl⟩
  | gone => exact ⟨⟨_, rfl⟩, nofun⟩
  | failed c plan => exact ⟨List.prefix_append [c] plan, nofun⟩
  | made begun ended a h ih =>
    refine ⟨(List.prefix_cons_inj _).2 ih.1, fun report hr => ?_⟩
    rw [List.map_cons, ih.2 report hr]

theorem Deeds.failure {plan : List PageCall} {e : Failure} (h : Deeds selector plan xs (.error e)) :
    e = missing selector ∨ ∃ x ∈ xs, x.answer = some (.error e) := by
  obtain ⟨r, hr⟩ : ∃ r : Except Failure Report, r = .error e := ⟨_, rfl⟩
  rw [← hr] at h
  induction h with
  | all => exact nomatch hr
  | gone => exact .inl (Except.error.inj hr).symm
  | failed c plan begun ended e' =>
    obtain rfl := Except.error.inj hr
    exact .inr ⟨_, List.mem_singleton_self _, rfl⟩
  | made begun ended a h ih =>
    refine (ih hr).imp_right ?_
    rintro ⟨x, hx, hanswer⟩
    exact ⟨x, List.mem_cons_of_mem _ hx, hanswer⟩

end Operation

/-! ## What can be seen of it in a talk -/

namespace PageCall

def IsClick : PageCall → Prop
  | .click _ => True
  | _ => False

/-- The call runs a script that clears or submits. -/
def IsScript : PageCall → Prop
  | .evaluate code => ∃ selector,
    code = PageScript.clearing.fill selector ∨ code = PageScript.submitting.fill selector
  | _ => False

def IsTyping : PageCall → Prop
  | .typeText _ _ => True
  | _ => False

def TypesInto (selector : String) : PageCall → Prop
  | .typeText selector' _ => selector' = selector
  | _ => False

/-- The call does something to the element. -/
def ActsOn (selector : String) : PageCall → Prop
  | .click selector' | .typeText selector' _ => selector' = selector
  | .evaluate code =>
    code = PageScript.clearing.fill selector ∨ code = PageScript.submitting.fill selector
  | _ => False

end PageCall

namespace Mark

/-- The mark asks for a call like this. -/
def Asks (like : PageCall → Prop) (m : Mark) : Prop := ∃ t c, m = .asked t c ∧ like c

/-- With the mark the page says that the element is visible. -/
def Shows (selector : String) (m : Mark) : Prop :=
  ∃ t, m = .heard t (Operation.lookFor selector) (.ok (.bool true))

/-- With the mark the page says that the script has run that clears the element. -/
def Clears (selector : String) (m : Mark) : Prop :=
  ∃ t j, m = .heard t (.evaluate (PageScript.clearing.fill selector)) (.ok j)

end Mark

/-- Nothing is done in this talk to an element that has not been seen, nothing is done twice, and
nothing is typed before the old text has been cleared. -/
structure Careful (ms : List Mark) : Prop where
  seen : ∀ selector, Precedes (Mark.Shows selector) (Mark.Asks (PageCall.ActsOn selector)) ms
  click : AtMostOne PageCall.IsClick (callsOf ms)
  script : AtMostOne PageCall.IsScript (callsOf ms)
  typing : AtMostOne PageCall.IsTyping (callsOf ms)
  cleared : ∀ selector, Precedes (Mark.Clears selector) (Mark.Asks (PageCall.TypesInto selector)) ms

theorem Careful.of_isPrefix {ms ns : List Mark} (h : Careful ms) (hns : ns <+: ms) :
    Careful ns where
  seen selector := (h.seen selector).of_isPrefix hns
  click := h.click.of_isPrefix (hns.filterMap _)
  script := h.script.of_isPrefix (hns.filterMap _)
  typing := h.typing.of_isPrefix (hns.filterMap _)
  cleared selector := (h.cleared selector).of_isPrefix hns

namespace Operation

open PageCall

variable {o : SessionOptions} {op : Operation} {selector selector' : String} {c : PageCall}
  {xs : List Exchange} {r : Except Failure Report} {like : PageCall → Prop}

/-! ### Looks do nothing -/

theorem not_actsOn_lookFor : ¬ (lookFor selector).ActsOn selector' := by
  rintro (h | h)
  · exact PageScript.visibility_ne_clearing _ _ h
  · exact PageScript.visibility_ne_submitting _ _ h

theorem not_isScript_lookFor : ¬ (lookFor selector).IsScript := by
  rintro ⟨selector', h⟩
  exact not_actsOn_lookFor h

/-! ### What an operation does once at most -/

theorem visibility_eq_of_actsOn (htarget : op.target? = some selector) (hc : c ∈ op.deeds)
    (h : c.ActsOn selector') :
    PageScript.visibility.fill selector = PageScript.visibility.fill selector' := by
  have clearing (h : PageCall.ActsOn selector' (.evaluate (PageScript.clearing.fill selector))) :
      PageScript.visibility.fill selector = PageScript.visibility.fill selector' := by
    rcases h with h | h
    · exact PageScript.Template.fill_congr h _
    · exact absurd h (PageScript.clearing_ne_submitting _ _)
  have submitting
      (h : PageCall.ActsOn selector' (.evaluate (PageScript.submitting.fill selector))) :
      PageScript.visibility.fill selector = PageScript.visibility.fill selector' := by
    rcases h with h | h
    · exact absurd h.symm (PageScript.clearing_ne_submitting _ _)
    · exact PageScript.Template.fill_congr h _
  cases op with
  | click =>
    obtain rfl := Option.some.inj htarget
    obtain rfl := List.mem_singleton.1 hc
    exact congrArg PageScript.visibility.fill h
  | fill selector₀ text =>
    obtain rfl := Option.some.inj htarget
    rcases List.mem_pair.1 hc with rfl | rfl
    · exact clearing h
    · exact congrArg PageScript.visibility.fill h
  | clear =>
    obtain rfl := Option.some.inj htarget
    obtain rfl := List.mem_singleton.1 hc
    exact clearing h
  | submit selector₀ =>
    obtain rfl : selector₀ = some selector := by
      cases selector₀ with
      | none => exact nomatch htarget
      | some selector₀ => exact htarget
    obtain rfl := List.mem_singleton.1 hc
    exact submitting h
  | _ => exact nomatch htarget

theorem atMostOne_deeds (op : Operation) : AtMostOne IsClick op.deeds ∧
    AtMostOne IsScript op.deeds ∧ AtMostOne IsTyping op.deeds := by
  cases op with
  | fill selector text => simp [deeds, AtMostOne, IsClick, IsScript, IsTyping]
  | submit selector => cases selector <;> simp [deeds, AtMostOne]
  | _ => simp [deeds, AtMostOne]

/-! ### All together -/

theorem exists_call_of_asks {m : Mark} (hm : m ∈ xs.flatMap Exchange.marks) (h : m.Asks like) :
    ∃ x ∈ xs, like x.call := by
  obtain ⟨t, c, rfl, hc⟩ := h
  have hmem : c ∈ callsOf (xs.flatMap Exchange.marks) := List.mem_filterMap.2 ⟨_, hm, rfl⟩
  rw [callsOf_marks, List.mem_map] at hmem
  obtain ⟨x, hx, rfl⟩ := hmem
  exact ⟨x, hx, hc⟩

theorem heard_mem_marks {begun ended : Nat} {answer : Except Failure c.Answer}
    (h : ⟨c, begun, ended, some answer⟩ ∈ xs) :
    Mark.heard ended c answer ∈ xs.flatMap Exchange.marks :=
  List.mem_flatMap.2 ⟨_, h, List.mem_cons_of_mem _ (List.mem_singleton_self _)⟩

/-- A talk of looks alone has nothing of the kind. -/
theorem not_asks_of_looks {seen : Option Unit} (h : ElementLooks selector xs seen)
    (hlike : ¬ like (lookFor selector)) : ∀ m ∈ xs.flatMap Exchange.marks, ¬ m.Asks like := by
  intro m hm hasks
  obtain ⟨x, hx, hcall⟩ := exists_call_of_asks hm hasks
  exact hlike (h.looks x hx ▸ hcall)

theorem atMostOne_of_touches (h : Touches o selector op.deeds xs r)
    (hlike : ¬ like (lookFor selector)) (hdeeds : AtMostOne like op.deeds) :
    AtMostOne like (callsOf (xs.flatMap Exchange.marks)) := by
  have hlooks {xs : List Exchange} {seen : Option Unit} (h : ElementLooks selector xs seen) :
      ∀ c ∈ xs.map Exchange.call, ¬ like c := by
    intro c hc
    obtain ⟨x, hx, rfl⟩ := List.mem_map.1 hc
    exact h.looks x hx ▸ hlike
  rw [callsOf_marks]
  cases h with
  | unseen h =>
    have hnone : AtMostOne like [] := List.Pairwise.nil
    have := hnone.append_left (hlooks h)
    rwa [List.append_nil] at this
  | seen h hd =>
    rw [List.map_append]
    exact (hdeeds.of_isPrefix hd.calls.1).append_left (hlooks h)

theorem asks_mem_of_touches {m : Mark} (h : Touches o selector op.deeds xs r)
    (hlike : ¬ like (lookFor selector)) (hm : m ∈ xs.flatMap Exchange.marks) (hasks : m.Asks like) :
    ∃ c ∈ op.deeds, like c := by
  cases h with
  | unseen h => exact absurd hasks (not_asks_of_looks h hlike m hm)
  | seen h hd =>
    rw [List.flatMap_append, List.mem_append] at hm
    rcases hm with hm | hm
    · exact absurd hasks (not_asks_of_looks h hlike m hm)
    · obtain ⟨x, hx, hcall⟩ := exists_call_of_asks hm hasks
      exact ⟨x.call, hd.calls.1.subset (List.mem_map_of_mem hx), hcall⟩

theorem seen_of_touches (htarget : op.target? = some selector)
    (h : Touches o selector op.deeds xs r) :
    Precedes (Mark.Shows selector') (Mark.Asks (ActsOn selector'))
      (xs.flatMap Exchange.marks) := by
  cases h with
  | unseen h => exact precedes_of_none (not_asks_of_looks h not_actsOn_lookFor)
  | seen h hd =>
    rw [List.flatMap_append]
    refine (precedes_of_none (not_asks_of_looks h not_actsOn_lookFor)).append fun m hm hasks => ?_
    obtain ⟨x, hx, hacts⟩ := exists_call_of_asks hm hasks
    have hscript := visibility_eq_of_actsOn htarget
      (hd.calls.1.subset (List.mem_map_of_mem hx)) hacts
    obtain ⟨begun, ended, hseen⟩ := h.seen rfl
    exact ⟨_, heard_mem_marks hseen, ended,
      congrArg (fun code => Mark.heard ended (.evaluate code) (.ok (.bool true))) hscript⟩

/-- Nothing is done after the first deed before that has been answered well. -/
theorem Deeds.precedes {plan : List PageCall} {before : List Mark}
    (h : Deeds selector (c :: plan) xs r) (hbefore : ∀ m ∈ before, ¬ m.Asks like) (hc : ¬ like c) :
    Precedes (fun m => ∃ t a, m = .heard t c (.ok a)) (Mark.Asks like)
      (before ++ xs.flatMap Exchange.marks) := by
  have first (x : Exchange) (hx : x.call = c) :
      ∀ m ∈ before ++ [x].flatMap Exchange.marks, ¬ m.Asks like := by
    intro m hm hasks
    rcases List.mem_append.1 hm with hm | hm
    · exact hbefore m hm hasks
    · obtain ⟨y, hy, hcall⟩ := exists_call_of_asks hm hasks
      rw [List.mem_singleton.1 hy, hx] at hcall
      exact hc hcall
  cases h with
  | failed => exact precedes_of_none (first _ rfl)
  | @made _ _ zs _ begun ended a hd =>
    have hsplit : before ++ List.flatMap Exchange.marks (⟨c, begun, ended, some (.ok a)⟩ :: zs) =
        before ++ [⟨c, begun, ended, some (.ok a)⟩].flatMap Exchange.marks ++
          zs.flatMap Exchange.marks := by
      rw [List.append_assoc, ← List.flatMap_append]
      rfl
    rw [hsplit]
    refine (precedes_of_none (first _ rfl)).append fun m _ _ => ?_
    exact ⟨_, List.mem_append_right _ (heard_mem_marks (List.mem_singleton_self _)), ended, a, rfl⟩

theorem eq_fill_of_typesInto (htarget : op.target? = some selector) (hc : c ∈ op.deeds)
    (h : c.TypesInto selector') : selector' = selector ∧ ∃ text, op = .fill selector text := by
  cases op with
  | fill selector₀ text =>
    obtain rfl := Option.some.inj htarget
    rcases List.mem_pair.1 hc with rfl | rfl
    · exact h.elim
    · exact ⟨Eq.symm h, text, rfl⟩
  | click | clear =>
    obtain rfl := List.mem_singleton.1 hc
    exact h.elim
  | submit selector₀ =>
    cases selector₀ with
    | none => exact nomatch htarget
    | some selector₀ =>
      obtain rfl := List.mem_singleton.1 hc
      exact h.elim
  | _ => exact nomatch htarget

theorem cleared_of_touches (htarget : op.target? = some selector)
    (h : Touches o selector op.deeds xs r) :
    Precedes (Mark.Clears selector') (Mark.Asks (TypesInto selector'))
      (xs.flatMap Exchange.marks) := by
  by_cases htypes : ∃ c ∈ op.deeds, c.TypesInto selector'
  · obtain ⟨c, hc, htypes⟩ := htypes
    obtain ⟨rfl, text, rfl⟩ := eq_fill_of_typesInto htarget hc htypes
    cases h with
    | unseen h => exact precedes_of_none (not_asks_of_looks h id)
    | seen h hd =>
      rw [List.flatMap_append]
      exact hd.precedes (not_asks_of_looks h id) id
  · refine precedes_of_none fun m hm hasks => htypes ?_
    exact asks_mem_of_touches h id hm hasks

theorem careful_of_touches (htarget : op.target? = some selector)
    (h : Touches o selector op.deeds xs r) : Careful (xs.flatMap Exchange.marks) where
  seen _ := seen_of_touches htarget h
  click := atMostOne_of_touches h id (atMostOne_deeds op).1
  script := atMostOne_of_touches h not_isScript_lookFor (atMostOne_deeds op).2.1
  typing := atMostOne_of_touches h id (atMostOne_deeds op).2.2
  cleared _ := cleared_of_touches htarget h

/-- An operation that says it has not seen its element has done nothing to it, or the page has
failed a deed with these very words. -/
theorem untouched_of_touches (h : Touches o selector op.deeds xs r)
    (hr : r = .error (elementWait o selector).failure) :
    (∀ c ∈ callsOf (xs.flatMap Exchange.marks), c = lookFor selector) ∨
      ∃ t c, c ∈ op.deeds ∧
        .heard t c (.error (elementWait o selector).failure) ∈ xs.flatMap Exchange.marks := by
  rw [callsOf_marks]
  cases h with
  | unseen h =>
    left
    intro c hc
    obtain ⟨x, hx, rfl⟩ := List.mem_map.1 hc
    exact h.looks x hx
  | @seen ys zs _ h hd =>
    subst hr
    rcases hd.failure with hmissing | ⟨⟨c, begun, ended, answer⟩, hx, hanswer⟩
    · exact nomatch (congrArg Failure.code hmissing : Code.timeout = Code.browser)
    · obtain rfl : answer = some (.error (elementWait o selector).failure) := hanswer
      refine .inr ⟨ended, c, hd.calls.1.subset (List.mem_map_of_mem hx), ?_⟩
      rw [List.flatMap_append]
      exact List.mem_append_right _ (heard_mem_marks hx)

/-- An operation that ends well has looked for its element and done all that it was to do. -/
theorem all_done_of_touches {report : Report} (h : Touches o selector op.deeds xs (.ok report)) :
    ∃ n, callsOf (xs.flatMap Exchange.marks) =
      List.replicate n (lookFor selector) ++ op.deeds := by
  rw [callsOf_marks]
  cases h with
  | @seen ys zs _ h hd =>
    refine ⟨(ys.map Exchange.call).length, ?_⟩
    rw [List.map_append, hd.calls.2 report rfl]
    congr 1
    refine List.eq_replicate_length.2 fun c hc => ?_
    obtain ⟨x, hx, rfl⟩ := List.mem_map.1 hc
    exact h.looks x hx

end Operation

/-- To be broken off reads differently. -/
theorem not_brokenOff_unseen {o : SessionOptions} {selector : String} :
    ¬ BrokenOff (.error (Operation.elementWait o selector).failure) := by
  rintro (h | ⟨session, h⟩)
  · exact nomatch (congrArg Failure.code (Except.error.inj h) : Code.timeout = Code.browser)
  · have hmessage := congrArg (fun f => f.message.toList.head?) (Except.error.inj h)
    simp [Operation.elementWait, Operation.timeout, Session.lifetimeFailure, toString] at hmessage

namespace Scene

/-- An operation that looks for its element begins, and anything may happen later. At every moment
its talk with the page is careful: before it asks for anything to be done to an element, a look has
shown that element; it asks for one click, one script and one typing at most; and it types only
after the clearing script has run for that element.

If it has ended with not having seen the element, it has done nothing to any, unless it is the page
that has failed a deed with these very words. If it has ended well, it has looked, and then done all
that was to do. -/
theorem element_operation (options : LaunchOptions) (before : List Event) (s : SessionId)
    (session : Session) (e : Event) (op : Operation) (selector : String) (later : List Event) :
    let w := (fresh options).run before
    let i := w.tasks.length
    w.sessions[s]? = some session → e.StartsOperation s → e.operation = .ok (some op) →
    op.target? = some selector →
    let ms := (w.apply e).talk i later
    let unseen := (Operation.elementWait session.options selector).failure
    Careful ms ∧
    ∀ r, (w.run (e :: later)).Ended s i r →
      (r = .error unseen → (∀ c ∈ callsOf ms, ∀ other, ¬ c.ActsOn other) ∨
        ∃ t c, c ∈ op.deeds ∧ .heard t c (.error unseen) ∈ ms) ∧
      ∀ report, r = .ok report → ∃ n,
        callsOf ms = List.replicate n (Operation.lookFor selector) ++ op.deeds := by
  intro w i hsess he hop htarget ms unseen
  have hneeds : op.needsPage = true := by
    cases op with
    | rest => exact nomatch htarget
    | _ => rfl
  obtain ⟨t, xs, f, r₀, hcourse, hprefix, hends⟩ :=
    said_so_far (sessionOrder_run options before) hsess he hop hneeds later
  have htouches := Operation.touches_of_work htarget hcourse
  refine ⟨(Operation.careful_of_touches htarget htouches).of_isPrefix hprefix, fun r hr => ?_⟩
  rcases hends r hr with ⟨rfl, hall⟩ | ⟨hnothing, f', rfl⟩ | hbroken
  · refine ⟨fun hunseen => ?_, fun report hreport => ?_⟩
    · rw [show ms = _ from hall]
      refine (Operation.untouched_of_touches htouches hunseen).imp_left fun hlooks c hc other => ?_
      rw [hlooks c hc]
      exact Operation.not_actsOn_lookFor
    · rw [show ms = _ from hall]
      subst hreport
      exact Operation.all_done_of_touches htouches
  · refine ⟨fun _ => .inl fun c hc => ?_, nofun⟩
    rw [show ms = [] from hnothing] at hc
    exact nomatch hc
  · refine ⟨fun hunseen => ?_, fun report hreport => ?_⟩
    · exact absurd (hunseen ▸ hbroken) not_brokenOff_unseen
    · subst hreport
      rcases hbroken with h | ⟨_, h⟩ <;> exact nomatch h

/-- A page at which every script comes to this value and every deed is done. -/
def Answers.doing (j : Json) : Answers
  | .launch _ | .openPage _ => .ok ()
  | .shutDown _ => ()
  | .save _ _ => .ok 0
  | .page _ (.evaluate _) => .ok j
  | .page _ .currentUrl | .page _ .content => .ok ""
  | .page _ .screenshot => .ok []
  | .page _ (.goto _) | .page _ (.click _) | .page _ (.typeText _ _) | .page _ .pressEnter
  | .page _ .close => .ok ()

/-- The session whose operation has ended well, with nothing to report. -/
def settled? : Task → Option SessionId
  | .operation s (.done (.ok .nothing)) => some s
  | _ => none

theorem ended_of_settled? {w : Scene} {i : TaskId} {s : SessionId}
    (h : w.tasks[i]?.bind settled? = some s) : w.Ended s i (.ok .nothing) := by
  obtain ⟨t, hi, ht⟩ := Option.bind_eq_some_iff.1 h
  unfold settled? at ht
  split at ht
  · obtain rfl := Option.some.inj ht
    exact hi
  · exact nomatch ht

namespace Visit

def clicking : Event := .call 0 (.click "#a")

/-- The element is not there at the first look, and is clicked on after the second. -/
def late : List Event :=
  opening ++ [.step 0, .step 0, .answer 0 (.doing (.bool false)), .step 0, .step 0, .pass 50,
    .step 0, .step 0, .answer 0 (.doing (.bool true)), .step 0, .answer 0 (.doing .null), .step 0]

end Visit

open Visit in
theorem element_operation_lateElement :
    let ms := (((fresh default).run [.openSession "a" impatient]).apply clicking).talk 0 late
    Careful ms ∧
      callsOf ms = [Operation.lookFor "#a", Operation.lookFor "#a", .click "#a"] := by
  intro ms
  have hop : clicking.operation = .ok (some (.click "#a")) := by decide +kernel
  obtain ⟨hcareful, hends⟩ := element_operation default [.openSession "a" impatient] 0
    (.opened "a" impatient 0) clicking (.click "#a") "#a" late rfl rfl hop rfl
  obtain ⟨n, hcalls⟩ := (hends _ (ended_of_settled? (by decide +kernel))).2 .nothing rfl
  have hlength : (callsOf ms).length = 3 := by decide +kernel
  obtain rfl : n = 2 := by
    have := (congrArg List.length hcalls).symm.trans hlength
    simpa [Operation.deeds] using this
  exact ⟨hcareful, hcalls⟩

end Scene

end ScriptSandbox
