import ScriptSandbox.Proofs.Browser.FaultyCalls

/-!
# What scripts ask of a session

A script calls a method of a session with values of any shape. Where each of them is of a shape that
the method takes at its place, the method is the call of the session with these very values
(`SessionCall.IsMeant`), and otherwise it is an error of usage that leaves everything as it is. A
submit is the exception: a value that is no selector counts as if it were missing, and Enter is
pressed instead (`script_call`, `not_every_value_taken_or_refused`).
-/

namespace ScriptSandbox

/-! ## Seconds -/

namespace Double

variable {x : Double}

/-- Below `2 ^ 64` no word is nearer to it than 2048. -/
theorem value_le_of_lt (h : x.value < 2 ^ 64) : x.value ≤ 2 ^ 64 - 2 ^ 11 := by
  have hscale : x.scale ≤ 11 := by
    by_contra hscale
    have hlarge : (2 : ℚ) ^ (12 : ℤ) ≤ 2 ^ x.scale := two_zpow_le (by omega)
    have hfull : ((2 ^ 52 : ℕ) : ℚ) ≤ x.significand :=
      Nat.cast_le.2 (le_significand (by omega))
    have hvalue : ((2 ^ 52 : ℕ) : ℚ) * 2 ^ (12 : ℤ) ≤ x.value :=
      mul_le_mul hfull hlarge (by norm_num) (by positivity)
    norm_num at hvalue h
    linarith
  have hstep : (2 : ℚ) ^ x.scale ≤ 2 ^ (11 : ℤ) := two_zpow_le hscale
  have hbits : (x.significand : ℚ) ≤ ((2 ^ 53 - 1 : ℕ) : ℚ) :=
    Nat.cast_le.2 (Nat.le_sub_one_of_lt x.significand_lt)
  calc x.value ≤ ((2 ^ 53 - 1 : ℕ) : ℚ) * 2 ^ (11 : ℤ) :=
        mul_le_mul hbits hstep (two_zpow_pos _).le (by positivity)
    _ = 2 ^ 64 - 2 ^ 11 := by norm_num

theorem div_le_roundHalfEven (num den : ℕ) : num / den ≤ roundHalfEven num den := by
  unfold roundHalfEven
  dsimp only
  split_ifs <;> omega

theorem roundHalfEven_le (num den : ℕ) : roundHalfEven num den ≤ num / den + 1 := by
  unfold roundHalfEven
  dsimp only
  split_ifs <;> omega

theorem ratio_le_iff {n : ℕ} : x.value ≤ n ↔ x.ratio.1 ≤ n * x.ratio.2 := by
  obtain ⟨hvalue, hden⟩ := x.ratio_value
  have hpos : (0 : ℚ) < x.ratio.2 := Nat.cast_pos.2 (Nat.pos_of_ne_zero hden)
  rw [← hvalue, div_le_iff₀ hpos]
  exact_mod_cast Iff.rfl

theorem le_ratio_iff {n : ℕ} : (n : ℚ) ≤ x.value ↔ n * x.ratio.2 ≤ x.ratio.1 := by
  obtain ⟨hvalue, hden⟩ := x.ratio_value
  have hpos : (0 : ℚ) < x.ratio.2 := Nat.cast_pos.2 (Nat.pos_of_ne_zero hden)
  rw [← hvalue, le_div_iff₀ hpos]
  exact_mod_cast Iff.rfl

end Double

namespace WaitTarget

open Arguments (IsText Reads)

/-- The value is something that can be waited for: a selector, or a number of seconds that is not
below zero and does not go beyond what a word of 64 bits can count. -/
def IsMeant (value : Json) : WaitTarget → Prop
  | .selector s => IsText value s
  | .seconds x => (∃ n, value = .num n ∧ x = n.toDouble) ∧ x.IsNonneg ∧ x.value < 2 ^ 64

theorem IsMeant.unique {value : Json} {t t' : WaitTarget} (h : IsMeant value t)
    (h' : IsMeant value t') : t = t' := by
  cases t with
  | selector s =>
    cases t' with
    | selector s' => rw [IsText.unique h h']
    | seconds x' =>
      obtain ⟨⟨n, hn, -⟩, -⟩ := h'
      cases hn.symm.trans h.1
  | seconds x =>
    obtain ⟨⟨n, hn, rfl⟩, -⟩ := h
    cases t' with
    | selector s' => cases hn.symm.trans h'.1
    | seconds x' =>
      obtain ⟨⟨n', hn', rfl⟩, -⟩ := h'
      rw [Json.num.inj (hn.symm.trans hn')]

/-- Rounding to whole nanoseconds does not carry a word over the limit, since the next word below it
is far from it. -/
theorem isSome_nanoseconds?_iff {x : Double} :
    (nanoseconds? x).isSome = true ↔ x.IsNonneg ∧ x.value < 2 ^ 64 := by
  obtain ⟨-, hden⟩ := x.ratio_value
  have hpos := Nat.pos_of_ne_zero hden
  have hlimit : Double.roundHalfEven (x.ratio.1 * 1000000000) x.ratio.2 <
      0x10000000000000000 * 1000000000 ↔ x.value < 2 ^ 64 := by
    constructor
    · intro h
      by_contra hle
      have hlarge : 0x10000000000000000 * x.ratio.2 ≤ x.ratio.1 :=
        Double.le_ratio_iff.1 (by exact_mod_cast not_lt.1 hle)
      have hquotient : 0x10000000000000000 * 1000000000 ≤ x.ratio.1 * 1000000000 / x.ratio.2 := by
        rw [Nat.le_div_iff_mul_le hpos]
        omega
      have := Double.div_le_roundHalfEven (x.ratio.1 * 1000000000) x.ratio.2
      omega
    · intro h
      have hsmall : x.ratio.1 ≤ (2 ^ 64 - 2 ^ 11) * x.ratio.2 :=
        Double.ratio_le_iff.1 (by exact_mod_cast Double.value_le_of_lt h)
      have hquotient : x.ratio.1 * 1000000000 / x.ratio.2 ≤ (2 ^ 64 - 2 ^ 11) * 1000000000 := by
        apply Nat.div_le_of_le_mul
        omega
      have := Double.roundHalfEven_le (x.ratio.1 * 1000000000) x.ratio.2
      omega
  have hsign : (x.isNegative && !x.isZero) = true ↔ ¬ x.IsNonneg := by simp [Double.IsNonneg]
  unfold nanoseconds?
  dsimp only
  by_cases hnonneg : x.IsNonneg
  · rw [if_neg (by rw [hsign]; exact not_not.2 hnonneg)]
    by_cases h : x.value < 2 ^ 64
    · rw [if_pos (hlimit.2 h)]
      exact ⟨fun _ => ⟨hnonneg, h⟩, fun _ => rfl⟩
    · rw [if_neg (mt hlimit.1 h)]
      exact ⟨nofun, fun h' => absurd h'.2 h⟩
  · rw [if_pos (hsign.2 hnonneg)]
    exact ⟨nofun, fun h => absurd h.1 hnonneg⟩

theorem reads_ofJson (value : Json) : Reads (IsMeant value) (ofJson value) := by
  cases value with
  | str text =>
    unfold ofJson
    dsimp only
    split
    · rename_i hblank
      refine ⟨?_, _, rfl⟩
      rintro (s | x) h
      · obtain rfl := Json.str.inj h.1
        rw [h.2] at hblank
        cases hblank
      · obtain ⟨⟨n, hn, -⟩, -⟩ := h
        cases hn
    · rename_i hblank
      exact ⟨rfl, eq_false_of_ne_true hblank⟩
  | num n =>
    unfold ofJson
    dsimp only
    split
    · rename_i hsome
      have := isSome_nanoseconds?_iff.1 (Option.isSome_of_eq_some hsome)
      exact ⟨⟨n, rfl, rfl⟩, this⟩
    · rename_i hnone
      refine ⟨?_, _, rfl⟩
      rintro (s | x) h
      · cases h.1
      · obtain ⟨⟨n', hn, rfl⟩, hx⟩ := h
        obtain rfl := Json.num.inj hn
        rw [← isSome_nanoseconds?_iff, hnone] at hx
        cases hx
  | null | bool | arr | obj =>
    refine ⟨?_, _, rfl⟩
    rintro (s | x) h
    · cases h.1
    · obtain ⟨⟨n, hn, -⟩, -⟩ := h
      cases hn

end WaitTarget

/-! ## Methods and their arguments -/

open Arguments

/-- The method takes values of this shape at this place. -/
def SessionMethod.Takes (m : SessionMethod) (place : Nat) (value : Json) : Prop :=
  match m, place with
  | .navigate, 0 | .click, 0 | .fill, 0 | .clear, 0 | .evaluate, 0 | .screenshot, 0
  | .waitForUrl, 0 | .waitForText, 0 => ∃ s, IsText value s
  | .wait, 0 => ∃ target, WaitTarget.IsMeant value target
  | .submit, 0 => ∃ o, IsOptionalText value o
  | .fill, 1 => ∃ s, IsAnyText value s
  | .waitForUrl, 1 | .waitForText, 1 => ∃ o, IsCount value o
  | _, _ => True

namespace SessionCall

/-- What is meant by a method with these arguments: a call of the session with these very values, or
a close of it. -/
inductive IsMeant (args : Arguments) : SessionMethod → Option SessionCall → Prop
  | navigate {url : String} (h : IsText (args.get 0) url) :
      IsMeant args .navigate (some (.navigate url))
  | wait {target : WaitTarget} (h : WaitTarget.IsMeant (args.get 0) target) :
      IsMeant args .wait (some (.wait target))
  | click {selector : String} (h : IsText (args.get 0) selector) :
      IsMeant args .click (some (.click selector))
  | fill {selector text : String} (h : IsText (args.get 0) selector)
      (htext : IsAnyText (args.get 1) text) : IsMeant args .fill (some (.fill selector text))
  | clear {selector : String} (h : IsText (args.get 0) selector) :
      IsMeant args .clear (some (.clear selector))
  | submit {selector : Option String} (h : IsOptionalText (args.get 0) selector) :
      IsMeant args .submit (some (.submit selector))
  | evaluate {code : String} (h : IsText (args.get 0) code) :
      IsMeant args .evaluate (some (.evaluate code))
  | getHtml : IsMeant args .getHtml (some .getHtml)
  | getUrl : IsMeant args .getUrl (some .getUrl)
  | screenshot {path : String} (h : IsText (args.get 0) path) :
      IsMeant args .screenshot (some (.screenshot path))
  | waitForUrl {pattern : String} {limit : Option Nat} (h : IsText (args.get 0) pattern)
      (hlimit : IsCount (args.get 1) limit) :
      IsMeant args .waitForUrl (some (.waitForUrl pattern limit))
  | waitForText {text : String} {limit : Option Nat} (h : IsText (args.get 0) text)
      (hlimit : IsCount (args.get 1) limit) :
      IsMeant args .waitForText (some (.waitForText text limit))
  | close : IsMeant args .close none

variable {args : Arguments} {m : SessionMethod} {c c' : Option SessionCall}

theorem IsMeant.unique (h : IsMeant args m c) (h' : IsMeant args m c') : c = c' := by
  cases h with
  | navigate h | wait h | click h | clear h | submit h | evaluate h | screenshot h =>
    cases h'
    rename_i h'
    rw [h.unique h']
  | fill h htext =>
    cases h'
    rename_i h' htext'
    rw [h.unique h', htext.unique htext']
  | waitForUrl h hlimit | waitForText h hlimit =>
    cases h'
    rename_i h' hlimit'
    rw [h.unique h', hlimit.unique hlimit']
  | getHtml | getUrl | close =>
    cases h'
    rfl

/-- Something is meant exactly if each value has a shape that its place takes. -/
theorem exists_isMeant_iff : (∃ c, IsMeant args m c) ↔ ∀ j < m.arity, m.Takes j (args.get j) := by
  constructor
  · rintro ⟨c, h⟩ j hj
    cases h with
    | navigate h | wait h | click h | clear h | submit h | evaluate h | screenshot h =>
      obtain rfl : j = 0 := Nat.lt_one_iff.1 hj
      exact ⟨_, h⟩
    | fill h h' | waitForUrl h h' | waitForText h h' =>
      obtain rfl | rfl : j = 0 ∨ j = 1 := by
        have : j < 2 := hj
        omega
      · exact ⟨_, h⟩
      · exact ⟨_, h'⟩
    | getHtml | getUrl | close => exact absurd hj (Nat.not_lt_zero j)
  · intro h
    cases m with
    | navigate => exact (h 0 Nat.zero_lt_one).imp' _ fun _ => .navigate
    | wait => exact (h 0 Nat.zero_lt_one).imp' _ fun _ => .wait
    | click => exact (h 0 Nat.zero_lt_one).imp' _ fun _ => .click
    | clear => exact (h 0 Nat.zero_lt_one).imp' _ fun _ => .clear
    | submit => exact (h 0 Nat.zero_lt_one).imp' _ fun _ => .submit
    | evaluate => exact (h 0 Nat.zero_lt_one).imp' _ fun _ => .evaluate
    | screenshot => exact (h 0 Nat.zero_lt_one).imp' _ fun _ => .screenshot
    | fill =>
      obtain ⟨⟨selector, h⟩, text, h'⟩ := And.intro (h 0 Nat.zero_lt_two) (h 1 Nat.one_lt_two)
      exact ⟨_, .fill h h'⟩
    | waitForUrl =>
      obtain ⟨⟨pattern, h⟩, limit, h'⟩ := And.intro (h 0 Nat.zero_lt_two) (h 1 Nat.one_lt_two)
      exact ⟨_, .waitForUrl h h'⟩
    | waitForText =>
      obtain ⟨⟨text, h⟩, limit, h'⟩ := And.intro (h 0 Nat.zero_lt_two) (h 1 Nat.one_lt_two)
      exact ⟨_, .waitForText h h'⟩
    | getHtml => exact ⟨_, .getHtml⟩
    | getUrl => exact ⟨_, .getUrl⟩
    | close => exact ⟨_, .close⟩

theorem reads_ofMethod (hsubmit : m = .submit → ∃ o, IsOptionalText (args.get 0) o) :
    Reads (IsMeant args m) (ofMethod m args) := by
  have takes (j : ℕ) (hj : j < m.arity) (c : Option SessionCall) (h : IsMeant args m c) :
      m.Takes j (args.get j) := exists_isMeant_iff.1 ⟨c, h⟩ j hj
  unfold ofMethod
  cases m with
  | navigate => exact (reads_requireText ..).bind (fun _ => .navigate) (takes 0 Nat.zero_lt_one)
  | wait => exact (WaitTarget.reads_ofJson _).bind (fun _ => .wait) (takes 0 Nat.zero_lt_one)
  | click => exact (reads_requireText ..).bind (fun _ => .click) (takes 0 Nat.zero_lt_one)
  | clear => exact (reads_requireText ..).bind (fun _ => .clear) (takes 0 Nat.zero_lt_one)
  | evaluate => exact (reads_requireText ..).bind (fun _ => .evaluate) (takes 0 Nat.zero_lt_one)
  | screenshot => exact (reads_requireText ..).bind (fun _ => .screenshot) (takes 0 Nat.zero_lt_one)
  | fill =>
    refine (reads_requireText ..).bind (fun selector h => ?_) (takes 0 Nat.zero_lt_two)
    exact (reads_requireAnyText ..).bind (fun _ => .fill h) (takes 1 Nat.one_lt_two)
  | waitForUrl =>
    refine (reads_requireText ..).bind (fun pattern h => ?_) (takes 0 Nat.zero_lt_two)
    exact (reads_countOf ..).bind (fun _ => .waitForUrl h) (takes 1 Nat.one_lt_two)
  | waitForText =>
    refine (reads_requireText ..).bind (fun text h => ?_) (takes 0 Nat.zero_lt_two)
    exact (reads_countOf ..).bind (fun _ => .waitForText h) (takes 1 Nat.one_lt_two)
  | submit =>
    obtain ⟨o, ho⟩ := hsubmit rfl
    exact .submit ((isOptionalText_or args 0).resolve_right fun h => h.2 o ho)
  | getHtml => exact .getHtml
  | getUrl => exact .getUrl
  | close => exact .close

end SessionCall

/-! ## Dispatch -/

namespace Scene

open SessionCall (IsMeant)

variable {w : Scene} {s : SessionId} {session : Session} {m : SessionMethod} {args : Arguments}

/-- A call of a session, or its close, begins. -/
def Event.beginning (s : SessionId) : Option SessionCall → Event
  | some c => .call s c
  | none => .beginClose s

theorem apply_dispatch_of_ok {c : Option SessionCall} (hsess : w.sessions[s]? = some session)
    (hopen : ¬ session.IsOver w.pool w.now) (hc : SessionCall.ofMethod m args = .ok c) :
    w.apply (.dispatch s m args) = w.apply (Event.beginning s c) := by
  have hensure : (if m = .close then (w, .ok ()) else w.ensureOpen s) = (w, .ok ()) := by
    rw [ensureOpen_of_not_isOver hsess hopen, ite_self]
  show (w.dispatch s m args).1 = _
  unfold dispatch
  rw [hensure, hc]
  cases c <;> rfl

theorem apply_dispatch_of_error {f : Failure} (hsess : w.sessions[s]? = some session)
    (hopen : ¬ session.IsOver w.pool w.now) (hf : SessionCall.ofMethod m args = .error f) :
    w.apply (.dispatch s m args) =
      { w with tasks := w.tasks ++ [.operation s (.done (.error f))] } := by
  have hensure : (if m = .close then (w, .ok ()) else w.ensureOpen s) = (w, .ok ()) := by
    rw [ensureOpen_of_not_isOver hsess hopen, ite_self]
  show (w.dispatch s m args).1 = _
  unfold dispatch
  rw [hensure, hf]
  rfl

/-- A script calls a method of an open session with any values.

* If every value has a shape that the method takes at its place, where a missing value is null, then
  it means one call, or a close, with these very values, and this is what begins.
* If some value has not, it means nothing. Unless the method is submit, it has ended with an error
  of usage as soon as it has begun, and nothing else has changed.
* A submit that means nothing, since its value is neither a selector nor null, begins as the submit
  without a selector all the same. -/
theorem script_call (options : LaunchOptions) (before : List Event) (s : SessionId)
    (session : Session) (m : SessionMethod) (args : Arguments) :
    let w := (fresh options).run before
    w.sessions[s]? = some session → ¬ session.IsOver w.pool w.now →
    ((∀ j < m.arity, m.Takes j (args.get j)) →
      ∃ c, IsMeant args m c ∧ (∀ c', IsMeant args m c' → c' = c) ∧
        w.apply (.dispatch s m args) = w.apply (Event.beginning s c)) ∧
    ((∃ j < m.arity, ¬ m.Takes j (args.get j)) → (∀ c, ¬ IsMeant args m c) ∧
      (m ≠ .submit → ∃ f, f.code = .invalidInput ∧ w.apply (.dispatch s m args) =
        { w with tasks := w.tasks ++ [.operation s (.done (.error f))] }) ∧
      (m = .submit → w.apply (.dispatch s m args) = w.apply (.call s (.submit none)))) := by
  intro w hsess hopen
  constructor
  · intro htakes
    obtain ⟨c, hmeant⟩ := SessionCall.exists_isMeant_iff.2 htakes
    have hreads : Reads (IsMeant args m) (SessionCall.ofMethod m args) :=
      SessionCall.reads_ofMethod fun hm => by
        subst hm
        exact htakes 0 Nat.zero_lt_one
    rcases hreads.cases with ⟨c', hc', hmeant'⟩ | ⟨f, -, -, hnone⟩
    · obtain rfl := hmeant.unique hmeant'
      exact ⟨c, hmeant, fun c' h => h.unique hmeant, apply_dispatch_of_ok hsess hopen hc'⟩
    · exact absurd hmeant (hnone c)
  · rintro ⟨j, hj, hnot⟩
    have hnone (c : Option SessionCall) : ¬ IsMeant args m c := fun hmeant =>
      hnot (SessionCall.exists_isMeant_iff.1 ⟨c, hmeant⟩ j hj)
    refine ⟨hnone, fun hm => ?_, fun hm => ?_⟩
    · have hreads : Reads (IsMeant args m) (SessionCall.ofMethod m args) :=
        SessionCall.reads_ofMethod fun h => absurd h hm
      rcases hreads.cases with ⟨c, -, hmeant⟩ | ⟨f, hf, hcode, -⟩
      · exact absurd hmeant (hnone c)
      · exact ⟨f, hcode, apply_dispatch_of_error hsess hopen hf⟩
    · subst hm
      obtain rfl : j = 0 := Nat.lt_one_iff.1 hj
      have hmissing : args.optionalText 0 = none :=
        ((isOptionalText_or args 0).resolve_left fun h => hnot ⟨_, h⟩).1
      have hc : SessionCall.ofMethod .submit args = .ok (some (.submit none)) := by
        rw [← hmissing]
        rfl
      exact apply_dispatch_of_ok hsess hopen hc

/-- A field is filled with no text where null is given, a click on `true` is refused, and a submit
of a number is a submit of nothing. -/
theorem script_call_threeMethods :
    let w := (fresh default).run [.openSession "a" { lifetime := 10 }]
    w.apply (.dispatch 0 .fill [.str "#a"]) = w.apply (.call 0 (.fill "#a" "")) ∧
      (w.apply (.dispatch 0 .click [.bool true])).sessions = w.sessions ∧
      w.apply (.dispatch 0 .submit [.nat 5]) = w.apply (.call 0 (.submit none)) := by
  intro w
  have dispatched (m : SessionMethod) (args : Arguments) :=
    script_call default [.openSession "a" { lifetime := 10 }] 0
      (.opened "a" { lifetime := 10 } 0) m args rfl (by decide)
  refine ⟨?_, ?_, ?_⟩
  · have hmeant : IsMeant [.str "#a"] .fill (some (.fill "#a" "")) :=
      .fill ⟨rfl, by decide⟩ (.inr ⟨rfl, rfl⟩)
    obtain ⟨c, -, hunique, happly⟩ :=
      (dispatched .fill [.str "#a"]).1 (SessionCall.exists_isMeant_iff.1 ⟨_, hmeant⟩)
    rwa [← hunique _ hmeant] at happly
  · have hnot : ¬ SessionMethod.click.Takes 0 (.bool true) := by
      rintro ⟨s, h, -⟩
      exact nomatch h
    obtain ⟨f, -, happly⟩ :=
      ((dispatched .click [.bool true]).2 ⟨0, Nat.zero_lt_one, hnot⟩).2.1 (by decide)
    have hsessions := congrArg Scene.sessions happly
    exact hsessions
  · have hnot : ¬ SessionMethod.submit.Takes 0 (.nat 5) := by
      rintro ⟨o, ⟨h, -⟩ | ⟨s, h, -⟩⟩
      · exact nomatch h
      · exact nomatch h.1
    exact ((dispatched .submit [.nat 5]).2 ⟨0, Nat.zero_lt_one, hnot⟩).2.2 rfl

/-- Not every value is taken as it is or refused. -/
theorem not_every_value_taken_or_refused : ¬ ∀ (options : LaunchOptions) (before : List Event)
    (s : SessionId) (session : Session) (m : SessionMethod) (args : Arguments),
    let w := (fresh options).run before
    w.sessions[s]? = some session → ¬ session.IsOver w.pool w.now →
    (∃ c, IsMeant args m c ∧ w.apply (.dispatch s m args) = w.apply (Event.beginning s c)) ∨
    ∃ f, f.code = .invalidInput ∧ w.apply (.dispatch s m args) =
      { w with tasks := w.tasks ++ [.operation s (.done (.error f))] } := by
  intro h
  have hbegun : (((fresh default).run [.openSession "a" { lifetime := 10 }]).apply
      (.dispatch 0 .submit [.nat 5])).tasks.map Task.isDone = [false] := rfl
  rcases h default [.openSession "a" { lifetime := 10 }] 0 (.opened "a" { lifetime := 10 } 0)
    .submit [.nat 5] rfl (by decide) with ⟨c, hmeant, -⟩ | ⟨f, -, happly⟩
  · cases hmeant with
    | submit hmeant =>
      rcases hmeant with ⟨hnull, -⟩ | ⟨s, hs, -⟩
      · exact nomatch hnull
      · exact nomatch hs.1
  · rw [happly] at hbegun
    exact nomatch hbegun

end Scene

end ScriptSandbox
