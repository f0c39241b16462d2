import ScriptSandbox.Proofs.Browser.Elements

/-!
# Filling and clearing

A page alone decides what becomes of an operation on one of its elements (`Course.unique`). A fill
does there what a clear does, call for call, and then types (`exists_clear_of_fill`). It goes on
where the clear would fail for the script having found no element: then it types all the same
(`fill_and_clear`, `not_every_fill_fails`).
-/

namespace ScriptSandbox

/-! ## Pages that decide -/

theorem PageBehaviour.Answers.of_answered {d : PageBehaviour} {n begun ended : Nat} {c : PageCall}
    {r : Except Failure c.Answer} {xs : List Exchange}
    (h : d.Answers n (⟨c, begun, ended, some r⟩ :: xs)) :
    r = (d n c).2 ∧ ended = begun + (d n c).1 ∧ d.Answers (n + 1) xs := by
  obtain ⟨⟨hr, hend⟩ | ⟨hr, -⟩, hrest⟩ := h
  · exact ⟨Option.some.inj hr, hend, hrest⟩
  · exact nomatch hr

namespace PageTask

variable {α β : Type} {prompt : Prop} {s m f f' n interval deadline rounds limit : Nat}
  {xs ys zs xs' : List Exchange} {a a' : α} {b : β}

/-- The task neither gives a call up nor writes a file. -/
inductive Patient {α : Type} : PageTask α → Prop
  | done (a : α) : Patient (.done a)
  | call {c : PageCall} {next : Except Failure c.Answer → PageTask α} (h : ∀ r, Patient (next r)) :
      Patient (.call c next)
  | pause {ms : Nat} {next : PageTask α} (h : Patient next) : Patient (.pause ms next)
  | clock {next : Nat → PageTask α} (h : ∀ now, Patient (next now)) : Patient (.clock next)

theorem Patient.bind {t : PageTask α} {g : α → PageTask β} (ht : Patient t)
    (hg : ∀ a, Patient (g a)) : Patient (t >>= g) := by
  show Patient (t.bind g)
  induction ht with
  | done a => exact hg a
  | call h ih => exact .call ih
  | pause h ih => exact .pause ih
  | clock h ih => exact .clock ih

theorem patient_attempt (c : PageCall) : Patient (attempt c) := .call .done

theorem patient_lookUntil {probe : PageTask (Option α)} (hprobe : Patient probe) :
    Patient (lookUntil interval deadline probe rounds) := by
  induction rounds with
  | zero => exact .done none
  | succ rounds ih =>
    refine hprobe.bind fun found => ?_
    cases found with
    | some a => exact .done (some a)
    | none =>
      refine Patient.bind (.clock .done) fun now => ?_
      split
      · exact .done none
      · exact Patient.bind (.pause (.done ())) fun _ => ih

theorem patient_poll {probe : PageTask (Option α)} (hprobe : Patient probe) :
    Patient (poll interval limit probe) :=
  Patient.bind (.clock .done) fun _ => patient_lookUntil hprobe

/-- A patient task takes one course at a page that behaves in one way. -/
theorem Course.unique {t : PageTask α} {d : PageBehaviour} (ht : Patient t)
    (h : Course True t s xs f a) (h' : Course True t s xs' f' a') (hd : d.Answers n xs)
    (hd' : d.Answers n xs') : xs = xs' ∧ f = f' ∧ a = a' := by
  induction ht generalizing s n xs xs' with
  | done a₀ =>
    obtain ⟨rfl, rfl, hf⟩ := h.of_done
    obtain ⟨rfl, rfl, hf'⟩ := h'.of_done
    exact ⟨rfl, (hf.2 trivial).trans (hf'.2 trivial).symm, rfl⟩
  | call _ ih =>
    cases h with
    | call r hb he h =>
      cases h' with
      | call r' hb' he' h' =>
        obtain ⟨rfl, rfl, hrest⟩ := hd.of_answered
        obtain ⟨rfl, rfl, hrest'⟩ := hd'.of_answered
        obtain rfl := hb.2 trivial
        obtain rfl := hb'.2 trivial
        obtain ⟨rfl, rfl, rfl⟩ := ih _ h h' hrest hrest'
        exact ⟨rfl, rfl, rfl⟩
  | pause _ ih =>
    cases h with
    | pause hs h =>
      cases h' with
      | pause hs' h' =>
        obtain rfl := hs.2 trivial
        obtain rfl := hs'.2 trivial
        exact ih h h' hd hd'
  | clock _ ih =>
    cases h with
    | clock hs h =>
      cases h' with
      | clock hs' h' =>
        obtain rfl := hs.2 trivial
        obtain rfl := hs'.2 trivial
        exact ih _ h h' hd hd'

/-- A course of one task after another is made of a course of each. -/
theorem Course.bind {t : PageTask α} {g : α → PageTask β} (h : Course prompt t s ys m a)
    (h' : Course prompt (g a) m zs f b) : Course prompt (t >>= g) s (ys ++ zs) f b := by
  show Course prompt (t.bind g) s (ys ++ zs) f b
  induction h with
  | done a hf => exact h'.earlier hf
  | call r hb he h ih => exact .call r hb he (ih h')
  | callWithin r hb he hw h ih => exact .callWithin r hb he hw (ih h')
  | pause hs h ih => exact .pause hs (ih h')
  | clock hs h ih => exact .clock hs (ih h')
  | save r hs h ih => exact .save r hs (ih h')

end PageTask

namespace PageAction

variable {α β : Type} {prompt : Prop} {s m f : Nat} {xs ys zs : List Exchange}

theorem Course.bind_ok {t : PageAction α} {g : α → PageAction β} {a : α} {r : Except Failure β}
    (h : t.Course prompt s ys m (.ok a)) (h' : (g a).Course prompt m zs f r) :
    (t >>= g).Course prompt s (ys ++ zs) f r :=
  PageTask.Course.bind (t := t.run) h h'

theorem Course.bind_done {t : PageAction α} {g : α → PageAction β} {a : α} {r : Except Failure β}
    (h : t.Course prompt s xs m (.ok a)) (h' : (g a).Course prompt m [] f r) :
    (t >>= g).Course prompt s xs f r := by
  have := h.bind_ok h'
  rwa [List.append_nil] at this

theorem Course.bind_error {t : PageAction α} {g : α → PageAction β} {e : Failure}
    (h : t.Course prompt s ys m (.error e)) : (t >>= g).Course prompt s ys m (.error e) := by
  have := PageTask.Course.bind (t := t.run) (g := ExceptT.bindCont g) h (.done _ (.refl _ _))
  rwa [List.append_nil] at this

theorem Course.ask (c : PageCall) {begun ended : Nat} (answer : Except Failure c.Answer)
    (hb : Follows prompt s begun) (he : begun ≤ ended) :
    (PageAction.ask c).Course prompt s [⟨c, begun, ended, some answer⟩] ended answer :=
  .call answer hb he (.done answer (.refl _ _))

theorem patient_bind {t : PageAction α} {g : α → PageAction β} (ht : PageTask.Patient t.run)
    (hg : ∀ a, PageTask.Patient (g a).run) : PageTask.Patient (t >>= g).run := by
  refine PageTask.Patient.bind (t := t.run) ht fun q => ?_
  cases q with
  | error e => exact .done _
  | ok a => exact hg a

theorem patient_quietly {t : PageTask α} (ht : PageTask.Patient t) :
    PageTask.Patient (quietly t).run := PageTask.Patient.bind ht fun _ => .done _

end PageAction

namespace Operation

open PageScript (clearing)

variable {o : SessionOptions} {selector text : String} {prompt : Prop} {s f : Nat}
  {xs : List Exchange} {r : Except Failure Report}

/-- The page has said that it has found no element to clear. -/
def FoundNone (selector : String) (ys : List Exchange) : Prop :=
  ∃ begun ended, ⟨.evaluate (clearing.fill selector), begun, ended, some (.ok (.bool false))⟩ ∈ ys

/-- What becomes of a fill where this becomes of a clear. -/
structure FillsAfter (selector text : String) (ys : List Exchange) (r' : Except Failure Report)
    (xs : List Exchange) (r : Except Failure Report) : Prop where
  foundNone : FoundNone selector ys → r' = .error (missing selector)
  stopped : ¬ FoundNone selector ys → ∀ e, r' = .error e → xs = ys ∧ r = .error e
  typed : FoundNone selector ys ∨ (∃ report, r' = .ok report) → ∃ begun ended answer,
    xs = ys ++ [⟨.typeText selector text, begun, ended, some answer⟩] ∧
      r = answer.map fun _ => .nothing

/-- Looks for an element alone do not find that there is none to clear. -/
theorem not_foundNone_of_looks {seen : Option Unit} (h : ElementLooks selector xs seen) :
    ¬ FoundNone selector xs := by
  rintro ⟨begun, ended, hmem⟩
  exact PageScript.visibility_ne_clearing _ _
    (PageCall.evaluate.inj (h.looks _ hmem)).symm

theorem foundNone_append_iff {seen : Option Unit} {ys : List Exchange} {begun ended : Nat}
    {answer : Except Failure Json} (h : ElementLooks selector ys seen) :
    FoundNone selector (ys ++ [⟨.evaluate (clearing.fill selector), begun, ended, some answer⟩]) ↔
      answer = .ok (.bool false) := by
  constructor
  · rintro ⟨begun', ended', hmem⟩
    rcases List.mem_append.1 hmem with hmem | hmem
    · exact absurd ⟨begun', ended', hmem⟩ (not_foundNone_of_looks h)
    · cases List.mem_singleton.1 hmem
      rfl
  · rintro rfl
    exact ⟨begun, ended, List.mem_append_right _ (List.mem_singleton_self _)⟩

/-- What a script on an element comes to with this answer. -/
def elementResult (selector : String) : Except Failure Json → Except Failure Unit
  | .error e => .error e
  | .ok (.bool false) => .error (missing selector)
  | .ok _ => .ok ()

theorem elementResult_of_ne {j : Json} (hj : j ≠ .bool false) :
    elementResult selector (.ok j) = .ok () := by
  cases j with
  | bool b =>
    cases b with
    | true => rfl
    | false => exact absurd rfl hj
  | null | num | str | arr | obj => rfl

theorem course_onElement (script : PageScript.Template) (selector : String) {begun ended : Nat}
    (answer : Except Failure Json) (hb : Follows prompt s begun) (he : begun ≤ ended) :
    (onElement script selector).Course prompt s
      [⟨.evaluate (script.fill selector), begun, ended, some answer⟩] ended
      (elementResult selector answer) := by
  have asked := PageAction.Course.ask (.evaluate (script.fill selector)) answer hb he
  rcases answer with e | j
  · exact asked.bind_error
  · refine asked.bind_done ?_
    cases j with
    | bool b => cases b <;> exact .done _ (.refl prompt ended)
    | null | num | str | arr | obj => exact .done _ (.refl prompt ended)

theorem course_clear {ys : List Exchange} {m begun ended : Nat} (answer : Except Failure Json)
    (h : (awaitVisible o selector).Course prompt s ys m (.ok ())) (hb : Follows prompt m begun)
    (he : begun ≤ ended) :
    ((Operation.clear selector).work o).Course prompt s
      (ys ++ [⟨.evaluate (clearing.fill selector), begun, ended, some answer⟩]) ended
      ((elementResult selector answer).map fun _ => .nothing) := by
  have script := course_onElement clearing selector answer hb he
  refine h.bind_ok ?_
  cases hresult : elementResult selector answer with
  | error e =>
    rw [hresult] at script
    exact script.bind_error
  | ok u =>
    rw [hresult] at script
    exact script.bind_done (.done _ (.refl _ _))

/-- The script has run, whatever it has found, and what is left is to type. -/
theorem fillsAfter_of_typing {seen : Option Unit} {ys zs : List Exchange} {begun ended : Nat}
    (j : Json) (h : ElementLooks selector ys seen)
    (htype : (PageAction.ask (.typeText selector text) >>= fun _ => pure .nothing).Course prompt s
      zs f r) :
    FillsAfter selector text
      (ys ++ [⟨.evaluate (clearing.fill selector), begun, ended, some (.ok j)⟩])
      ((elementResult selector (.ok j)).map fun _ => .nothing)
      (ys ++ ⟨.evaluate (clearing.fill selector), begun, ended, some (.ok j)⟩ :: zs) r := by
  obtain ⟨begun', ended', answer, ws, rfl, -, -, hend⟩ := PageAction.Course.of_ask htype
  obtain ⟨rfl, rfl⟩ : ws = [] ∧ r = answer.map fun _ => .nothing := by
    rcases hend with ⟨e, rfl, rfl, rfl⟩ | ⟨u, rfl, hreturn⟩
    · exact ⟨rfl, rfl⟩
    · exact PageAction.Course.of_pure hreturn
  refine ⟨fun hnone => ?_, fun hsome e he => ?_, fun _ => ⟨begun', ended', answer, ?_, rfl⟩⟩
  · rw [(foundNone_append_iff h).1 hnone]
    rfl
  · have hj : j ≠ .bool false := by
      rintro rfl
      exact hsome ((foundNone_append_iff h).2 rfl)
    rw [elementResult_of_ne hj] at he
    exact nomatch he
  · rw [List.append_assoc]
    rfl

/-- Where a fill takes its course, a clear would have taken the same one up to the typing. -/
theorem exists_clear_of_fill (h : ((Operation.fill selector text).work o).Course prompt s xs f r) :
    ∃ ys f' r', ((Operation.clear selector).work o).Course prompt s ys f' r' ∧
      FillsAfter selector text ys r' xs r := by
  -- neither goes on where its first calls have failed
  have stopped {ys : List Exchange} {e : Failure} (hnone : ¬ FoundNone selector ys) :
      FillsAfter selector text ys (.error e) ys (.error e) := by
    refine ⟨fun h => absurd h hnone, fun _ e' he => ⟨rfl, ?_⟩, ?_⟩
    · rw [Except.error.inj he]
    · rintro (h | ⟨report, h⟩)
      · exact absurd h hnone
      · exact nomatch h
  obtain ⟨ys, m, q, zs, rfl, hwait, hthen⟩ := PageAction.Course.of_bind h
  rcases elementLooks_of_awaitVisible hwait with ⟨hlooks, rfl⟩ | ⟨hlooks, rfl⟩
  · rcases hthen with ⟨e, heq, -, -⟩ | ⟨u, -, hthen⟩
    · exact nomatch heq
    obtain ⟨begun, ended, answer, vs, rfl, hb, he, hthen⟩ := PageAction.Course.of_ask hthen
    refine ⟨_, _, _, course_clear answer hwait hb he, ?_⟩
    rcases hthen with ⟨e, rfl, rfl, rfl⟩ | ⟨j, rfl, htype⟩
    · refine stopped fun hnone => ?_
      exact nomatch (foundNone_append_iff hlooks).1 hnone
    · exact fillsAfter_of_typing j hlooks htype
  · rcases hthen with ⟨e, heq, rfl, rfl⟩ | ⟨u, heq, -⟩
    · obtain rfl := Except.error.inj heq
      rw [List.append_nil]
      exact ⟨ys, m, _, hwait.bind_error, stopped (not_foundNone_of_looks hlooks)⟩
    · exact nomatch heq

theorem patient_awaitVisible : PageTask.Patient (awaitVisible o selector).run := by
  refine PageAction.patient_bind (PageAction.patient_quietly (PageTask.patient_poll ?_)) ?_
  · refine (PageTask.patient_attempt _).bind fun answer => ?_
    split <;> exact .done _
  · intro seen
    cases seen <;> exact .done _

theorem patient_clear : PageTask.Patient ((Operation.clear selector).work o).run := by
  refine PageAction.patient_bind patient_awaitVisible fun _ => ?_
  refine PageAction.patient_bind (PageAction.patient_bind (PageTask.patient_attempt _) ?_) ?_
  · intro answer
    split <;> exact .done _
  · exact fun _ => .done _

theorem patient_fill : PageTask.Patient ((Operation.fill selector text).work o).run := by
  refine PageAction.patient_bind patient_awaitVisible fun _ => ?_
  refine PageAction.patient_bind (PageTask.patient_attempt _) fun _ => ?_
  exact PageAction.patient_bind (PageTask.patient_attempt _) fun _ => .done _

/-! ## Both at the same page -/

/-- The operation takes this course at a page that behaves like this. -/
def RunsAt (d : PageBehaviour) (o : SessionOptions) (s : Nat) (op : Operation) (xs : List Exchange)
    (r : Except Failure Report) : Prop :=
  ∃ f, (op.work o).Course True s xs f r ∧ d.Answers 0 xs

theorem existsUnique_runsAt {op : Operation} (hpatient : PageTask.Patient (op.work o).run)
    (d : PageBehaviour) (s : Nat) :
    ∃! run : List Exchange × Except Failure Report, RunsAt d o s op run.1 run.2 := by
  obtain ⟨xs, f, r, h, hd⟩ := PageTask.exists_course d (op.work o).run 0 s
  refine ⟨(xs, r), ⟨f, h, hd⟩, ?_⟩
  rintro ⟨xs', r'⟩ ⟨f', h', hd'⟩
  obtain ⟨rfl, -, rfl⟩ := PageTask.Course.unique hpatient h h' hd hd'
  rfl

theorem FillsAfter.isPrefix {ys : List Exchange} {r' : Except Failure Report}
    (h : FillsAfter selector text ys r' xs r) : ys <+: xs := by
  by_cases htyped : FoundNone selector ys ∨ ∃ report, r' = .ok report
  · obtain ⟨begun, ended, answer, rfl, -⟩ := h.typed htyped
    exact List.prefix_append _ _
  · obtain ⟨hnone, herror⟩ := not_or.1 htyped
    cases r' with
    | error e =>
      obtain ⟨rfl, -⟩ := h.stopped hnone e rfl
      exact List.prefix_refl _
    | ok report => exact absurd ⟨report, rfl⟩ herror

/-- Unless the script has found nothing, a fill ends well exactly if the clear does and the typing
does. -/
theorem FillsAfter.ok_iff {ys : List Exchange} {r' : Except Failure Report}
    (h : FillsAfter selector text ys r' xs r) (hnone : ¬ FoundNone selector ys) :
    (∃ report, r = .ok report) ↔ (∃ report, r' = .ok report) ∧ ∃ begun ended,
      xs = ys ++ [⟨.typeText selector text, begun, ended, some (.ok ())⟩] := by
  cases r' with
  | error e =>
    obtain ⟨-, rfl⟩ := h.stopped hnone e rfl
    exact ⟨fun ⟨_, hr⟩ => (nomatch hr), fun ⟨⟨_, hr'⟩, _⟩ => (nomatch hr')⟩
  | ok report =>
    obtain ⟨begun, ended, answer, rfl, rfl⟩ := h.typed (.inr ⟨report, rfl⟩)
    constructor
    · rintro ⟨report', hr⟩
      cases answer with
      | error e => exact nomatch hr
      | ok u => exact ⟨⟨report, rfl⟩, begun, ended, rfl⟩
    · rintro ⟨-, begun', ended', heq⟩
      cases List.append_cancel_left heq
      exact ⟨.nothing, rfl⟩

/-- A clear types nothing. -/
theorem not_isTyping_of_clear {x : Exchange}
    (h : ((Operation.clear selector).work o).Course prompt s xs f r) (hx : x ∈ xs) :
    ¬ x.call.IsTyping := by
  have htouches : Touches o selector (Operation.clear selector).deeds xs r := touches_of_work rfl h
  cases htouches with
  | unseen hlooks =>
    rw [hlooks.looks x hx]
    exact id
  | seen hlooks hdeeds =>
    rcases List.mem_append.1 hx with hx | hx
    · rw [hlooks.looks x hx]
      exact id
    · rw [List.mem_singleton.1 (hdeeds.calls.1.subset (List.mem_map_of_mem hx))]
      exact id

end Operation

theorem PageBehaviour.Answers.of_isPrefix {d : PageBehaviour} {n : Nat} {xs ys : List Exchange}
    (h : d.Answers n xs) (hys : ys <+: xs) : d.Answers n ys := by
  induction ys generalizing n xs with
  | nil => trivial
  | cons y ys ih =>
    obtain ⟨rest, rfl⟩ := hys
    exact ⟨h.1, ih h.2 (List.prefix_append ys rest)⟩

namespace Operation

variable {o : SessionOptions} {selector text : String} {prompt : Prop} {s : Nat}
  {d : PageBehaviour} {xs ys : List Exchange} {r r' : Except Failure Report}

theorem fillsAfter_of_runsAt (hclear : RunsAt d o s (.clear selector) ys r')
    (hfill : RunsAt d o s (.fill selector text) xs r) : FillsAfter selector text ys r' xs r := by
  obtain ⟨f', hclear, hys⟩ := hclear
  obtain ⟨f, hfill, hxs⟩ := hfill
  obtain ⟨zs, m, q, hclear', hafter⟩ := exists_clear_of_fill hfill
  obtain ⟨rfl, -, rfl⟩ :=
    PageTask.Course.unique patient_clear hclear' hclear (hxs.of_isPrefix hafter.isPrefix) hys
  exact hafter

/-- The first look shows the element. -/
theorem course_awaitVisible : (awaitVisible o selector).Course prompt s
    [⟨lookFor selector, s, s, some (.ok (.bool true))⟩] s (.ok ()) := by
  refine .clock (.refl _ s) ?_
  refine .call (c := lookFor selector) (.ok (Json.bool true)) (.refl _ s) (Nat.le_refl s) ?_
  exact .done _ (.refl _ s)

end Operation

namespace Scene

open Operation (RunsAt FillsAfter FoundNone)

/-- At a page that behaves in one way, a clear of an element takes one course, and so does a fill.
The fill does what the clear does. If the clear fails there without the script having found no
element, the fill fails in the same way and types nothing; if the clear ends well, the fill types
and ends as the typing does. But if the script has found no element, which the clear fails for, the
fill types all the same.

In every scene, too, what a fill has said so far is how it goes on from some course of a clear. -/
theorem fill_and_clear (selector text : String) :
    (∀ (o : SessionOptions) (d : PageBehaviour) (s : Nat),
      (∃! run : List Exchange × Except Failure Report,
        RunsAt d o s (.clear selector) run.1 run.2) ∧
      (∃! run : List Exchange × Except Failure Report,
        RunsAt d o s (.fill selector text) run.1 run.2) ∧
      ∀ ys r' xs r, RunsAt d o s (.clear selector) ys r' → RunsAt d o s (.fill selector text) xs r →
        FillsAfter selector text ys r' xs r ∧ (∀ y ∈ ys, ¬ y.call.IsTyping) ∧
        (¬ FoundNone selector ys →
          ((∃ report, r = .ok report) ↔ (∃ report, r' = .ok report) ∧ ∃ begun ended,
            xs = ys ++ [⟨.typeText selector text, begun, ended, some (.ok ())⟩]))) ∧
    ∀ (options : LaunchOptions) (before : List Event) (s : SessionId) (session : Session)
      (e : Event) (later : List Event),
      let w := (fresh options).run before
      let i := w.tasks.length
      let ms := (w.apply e).talk i later
      w.sessions[s]? = some session → e.StartsOperation s →
      e.operation = .ok (some (.fill selector text)) →
      ∃ t ys f r' xs r,
        ((Operation.clear selector).work session.options).Course False t ys f r' ∧
        FillsAfter selector text ys r' xs r ∧ ms <+: xs.flatMap Exchange.marks ∧
        ∀ r'', (w.run (e :: later)).Ended s i r'' →
          r'' = r ∧ ms = xs.flatMap Exchange.marks ∨ ms = [] ∧ (∃ f, r'' = .error f) ∨
            BrokenOff r'' := by
  refine ⟨fun o d s => ⟨?_, ?_, fun ys r' xs r hclear hfill => ?_⟩, ?_⟩
  · exact Operation.existsUnique_runsAt Operation.patient_clear d s
  · exact Operation.existsUnique_runsAt Operation.patient_fill d s
  · have hafter := Operation.fillsAfter_of_runsAt hclear hfill
    obtain ⟨f, hcourse, -⟩ := hclear
    exact ⟨hafter, fun y hy => Operation.not_isTyping_of_clear hcourse hy, hafter.ok_iff⟩
  · intro options before s session e later w i ms hsess he hop
    obtain ⟨t, xs, f, r, hfill, hprefix, hends⟩ :=
      said_so_far (sessionOrder_run options before) hsess he hop rfl later
    obtain ⟨ys, f', r', hclear, hafter⟩ := Operation.exists_clear_of_fill hfill
    exact ⟨t, ys, f', r', xs, r, hclear, hafter, hprefix, hends⟩

/-! ## A field that is gone when it is to be cleared -/

namespace Gone

/-- A page that shows the element at the first call, and whose scripts come to this afterwards. All
that is done there is done at once. -/
def page (j : Json) : PageBehaviour
  | n, .evaluate _ => (0, .ok (if n = 0 then .bool true else j))
  | _, .currentUrl | _, .content => (0, .ok "")
  | _, .screenshot => (0, .ok [])
  | _, .goto _ | _, .click _ | _, .typeText _ _ | _, .pressEnter | _, .close => (0, .ok ())

def looked : Exchange := ⟨Operation.lookFor "#a", 0, 0, some (.ok (.bool true))⟩

def cleared (j : Json) : Exchange :=
  ⟨.evaluate (PageScript.clearing.fill "#a"), 0, 0, some (.ok j)⟩

def typed : Exchange := ⟨.typeText "#a" "x", 0, 0, some (.ok ())⟩

theorem runsAt_clear (j : Json) : RunsAt (page j) Visit.impatient 0 (.clear "#a")
    [looked, cleared j] ((Operation.elementResult "#a" (.ok j)).map fun _ => .nothing) :=
  ⟨0, Operation.course_clear (.ok j) Operation.course_awaitVisible (.refl _ 0) (Nat.le_refl 0),
    .inl ⟨rfl, rfl⟩, .inl ⟨rfl, rfl⟩, trivial⟩

theorem runsAt_fill (j : Json) : RunsAt (page j) Visit.impatient 0 (.fill "#a" "x")
    [looked, cleared j, typed] (.ok .nothing) := by
  refine ⟨0, ?_, .inl ⟨rfl, rfl⟩, .inl ⟨rfl, rfl⟩, .inl ⟨rfl, rfl⟩, trivial⟩
  have script : (PageAction.ask (.evaluate (PageScript.clearing.fill "#a"))).Course True 0
      [cleared j] 0 (.ok j) :=
    .ask (.evaluate (PageScript.clearing.fill "#a")) (.ok j) (.refl _ 0) (Nat.le_refl 0)
  have typing : (PageAction.ask (.typeText "#a" "x")).Course True 0 [typed] 0 (.ok ()) :=
    .ask (.typeText "#a" "x") (.ok ()) (.refl _ 0) (Nat.le_refl 0)
  exact Operation.course_awaitVisible.bind_ok (script.bind_ok (typing.bind_done
    (.done _ (.refl _ 0))))

theorem foundNone : FoundNone "#a" [looked, cleared (.bool false)] :=
  ⟨0, 0, List.mem_cons_of_mem _ (List.mem_singleton_self _)⟩

theorem not_foundNone : ¬ FoundNone "#a" [looked, cleared (.bool true)] := by
  rintro ⟨begun, ended, hmem⟩
  rcases List.mem_pair.1 hmem with h | h
  · exact PageScript.visibility_ne_clearing "#a" "#a"
      (PageCall.evaluate.inj (Exchange.mk.inj h).1).symm
  · cases h

def filling : Event := .call 0 (.fill "#a" "x")

/-- The element is seen at once. The script finds that it is gone, and the text is typed. -/
def typing : List Event :=
  Visit.opening ++ [.step 0, .step 0, .answer 0 (.doing (.bool true)), .step 0,
    .answer 0 (.doing (.bool false)), .step 0, .answer 0 (.doing .null), .step 0]

end Gone

open Gone in
/-- A field that stays is filled where it is cleared, and one that is gone is filled all the
same. -/
theorem fill_and_clear_twoFields :
    (∃ begun ended, [looked, cleared (.bool true), typed] =
      [looked, cleared (.bool true)] ++ [⟨.typeText "#a" "x", begun, ended, some (.ok ())⟩]) ∧
    FillsAfter "#a" "x" [looked, cleared (.bool false)] (.error (Operation.missing "#a"))
      [looked, cleared (.bool false), typed] (.ok .nothing) ∧
    ∃ ys r' xs, FillsAfter "#a" "x" ys r' xs (.ok .nothing) ∧
      (((fresh default).run [.openSession "a" Visit.impatient]).apply filling).talk 0 typing =
        xs.flatMap Exchange.marks := by
  have both (j : Json) := ((fill_and_clear "#a" "x").1 Visit.impatient (page j) 0).2.2 _ _ _ _
    (runsAt_clear j) (runsAt_fill j)
  refine ⟨?_, (both (.bool false)).1, ?_⟩
  · obtain ⟨-, -, hok⟩ := both (.bool true)
    exact ((hok not_foundNone).1 ⟨_, rfl⟩).2
  · have hop : filling.operation = .ok (some (.fill "#a" "x")) := by decide +kernel
    obtain ⟨-, ys, -, r', xs, r, -, hafter, -, hends⟩ := (fill_and_clear "#a" "x").2 default
      [.openSession "a" Visit.impatient] 0 (.opened "a" Visit.impatient 0) filling typing rfl rfl
      hop
    rcases hends _ (ended_of_settled? (by decide +kernel)) with ⟨rfl, hall⟩ | ⟨-, f, hf⟩ | hbroken
    · exact ⟨ys, r', xs, hafter, hall⟩
    · exact nomatch hf
    · rcases hbroken with h | ⟨_, h⟩ <;> exact nomatch h

open Gone in
/-- Not every fill fails where the clear finds nothing. -/
theorem not_every_fill_fails : ¬ ∀ (o : SessionOptions) (selector text : String) (d : PageBehaviour)
    (s : Nat) (ys : List Exchange) (r' : Except Failure Report) (xs : List Exchange)
    (r : Except Failure Report), RunsAt d o s (.clear selector) ys r' →
    RunsAt d o s (.fill selector text) xs r → FoundNone selector ys →
    r' = .error (Operation.missing selector) →
    (∃ e, r = .error e) ∧ ∀ x ∈ xs, ¬ x.call.IsTyping := by
  intro h
  obtain ⟨⟨e, he⟩, -⟩ := h Visit.impatient "#a" "x" (page (.bool false)) 0 _ _ _ _
    (runsAt_clear (.bool false)) (runsAt_fill (.bool false)) foundNone rfl
  exact nomatch he

end Scene

end ScriptSandbox
