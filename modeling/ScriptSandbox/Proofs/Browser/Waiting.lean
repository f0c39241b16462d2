import ScriptSandbox.Proofs.Browser.Navigation

/-!
# How long a navigation waits

A wait looks at its time between two looks only. Its last look begins in time, and the wait is over
when this look has been answered, however long that takes (`bounded_but_for_last_look`). A page that
never answers a look keeps a navigation waiting as long as its session lasts.
-/

namespace ScriptSandbox

open PageTask (Course)

namespace Operation

variable {o : SessionOptions} {s f : Nat} {xs ys : List Exchange} {url : String}

/-- The document is looked at for the last time in time, and the wait is over when this look is. -/
theorem last_ready_look {warning : Option String} (hi : 0 < o.pollInterval)
    (h : (awaitReady o).Course True s xs f warning) :
    ∃ ws x ready, xs = ws ++ [x] ∧ ReadyLook x ready ∧ s ≤ x.begun ∧
      x.begun ≤ s + o.readyLimit + o.pollInterval ∧ f = x.ended := by
  obtain ⟨vs, m, seen, zs, hpoll, hthen, rfl⟩ := Course.of_bind h
  obtain ⟨ws, l, us, rfl, hsl, hl, hlook⟩ := Course.last_look hi hpoll
  obtain ⟨begun, ended, answer, rfl, hb, -, hm, -⟩ := course_readyProbe hlook
  obtain rfl := hb.2 trivial
  have hend : zs = [] ∧ f = ended := by
    cases seen with
    | some u | none =>
      obtain ⟨rfl, -, hf⟩ := hthen.of_done
      exact ⟨rfl, (hf.2 trivial).trans (hm.2 trivial)⟩
  obtain ⟨rfl, rfl⟩ := hend
  exact ⟨ws, _, _, by rw [List.append_nil], .mk begun f answer, hsl, hl, rfl⟩

/-- Whenever an address is read, the report of the browser has just come, or the last look of the
wait after it has just been answered. This look has begun in time. -/
def ReadsInTime (o : SessionOptions) (xs : List Exchange) : Prop :=
  ∀ u ∈ xs, u.call = .currentUrl → ∃ g ∈ xs, (∃ url, g.call = .goto url) ∧
    (u.begun = g.ended ∨ ∃ x ∈ xs, (∃ ready, ReadyLook x ready) ∧ g.ended ≤ x.begun ∧
      x.begun ≤ g.ended + o.readyLimit + o.pollInterval ∧ u.begun = x.ended)

theorem ReadsInTime.append (h : ReadsInTime o xs) (h' : ReadsInTime o ys) :
    ReadsInTime o (xs ++ ys) := by
  intro u hu hcall
  rcases List.mem_append.1 hu with hu | hu
  · obtain ⟨g, hg, hgoto, hbegun⟩ := h u hu hcall
    refine ⟨g, List.mem_append_left _ hg, hgoto, hbegun.imp_right ?_⟩
    rintro ⟨x, hx, hlook⟩
    exact ⟨x, List.mem_append_left _ hx, hlook⟩
  · obtain ⟨g, hg, hgoto, hbegun⟩ := h' u hu hcall
    refine ⟨g, List.mem_append_right _ hg, hgoto, hbegun.imp_right ?_⟩
    rintro ⟨x, hx, hlook⟩
    exact ⟨x, List.mem_append_right _ hx, hlook⟩

/-- Where no look takes longer than this, no address is read later by more than this. -/
theorem ReadsInTime.within {d : Nat} {u : Exchange} (h : ReadsInTime o xs)
    (hd : ∀ x ∈ xs, ∀ ready, ReadyLook x ready → x.ended ≤ x.begun + d) (hu : u ∈ xs)
    (hcall : u.call = .currentUrl) : ∃ g ∈ xs, (∃ url, g.call = .goto url) ∧
      u.begun ≤ g.ended + o.readyLimit + o.pollInterval + d := by
  obtain ⟨g, hg, hgoto, hbegun⟩ := h u hu hcall
  refine ⟨g, hg, hgoto, ?_⟩
  rcases hbegun with hbegun | ⟨x, hx, ⟨ready, hlook⟩, -, hin, hbegun⟩
  · omega
  · have := hd x hx ready hlook
    omega

theorem Injected.readsInTime {x : Exchange} (h : Injected x) : ReadsInTime o [x] := by
  intro u hu hcall
  obtain rfl := List.mem_singleton.1 hu
  cases h
  simp at hcall

theorem Attempt.readsInTime {report : Except Failure Unit} {warning : Option String}
    {current : Except Failure String} (hi : 0 < o.pollInterval)
    (h : Attempt True o url report xs warning current) : ReadsInTime o xs := by
  cases h with
  | @mk begun ended m begun' ended' ws warning _ _ hw hb =>
    have hlooks := (readyWait_of_course hw).looks
    obtain ⟨vs, x, ready, rfl, hlook, hle, hin, rfl⟩ := last_ready_look hi hw
    intro u hu hcall
    refine ⟨_, List.mem_cons_self, ⟨url, rfl⟩, .inr ⟨x, by simp, ⟨ready, hlook⟩, hle, hin, ?_⟩⟩
    rcases List.mem_append.1 hu with hu | hu
    · rcases List.mem_cons.1 hu with rfl | hu
      · simp at hcall
      · obtain ⟨ready', hlook'⟩ := hlooks u hu
        cases hlook'
        simp at hcall
    · obtain rfl := List.mem_singleton.1 hu
      exact hb.2 trivial

theorem Navigates.readsInTime {r : Except Failure Report} (hi : 0 < o.pollInterval)
    (h : Navigates True o url xs r) : ReadsInTime o xs := by
  cases h with
  | failed f current hb =>
    intro u hu hcall
    refine ⟨_, List.mem_cons_self, ⟨url, rfl⟩, .inl ?_⟩
    rcases List.mem_cons.1 hu with rfl | hu
    · simp at hcall
    · obtain rfl := List.mem_singleton.1 hu
      exact hb.2 trivial
  | unread f h => exact h.readsInTime hi
  | loaded current h hc hx => exact (h.readsInTime hi).append hx.readsInTime
  | unreadAgain r f h hc h' => exact (h.readsInTime hi).append (h'.readsInTime hi)
  | blankAgain r h hc h' => exact (h.readsInTime hi).append (h'.readsInTime hi)
  | loadedAgain r h hc h' hc' hx =>
    exact ((h.readsInTime hi).append (h'.readsInTime hi)).append hx.readsInTime

end Operation

namespace Scene

/-- A wait ends when its last look does, and this look begins no later than the limit and one rest
after the wait has begun. So it is in every navigation in a scene in which nothing happens later
than it is due: where the page answers its looks at once, or within some time, an address is read in
time, or later by no more than that. -/
theorem bounded_but_for_last_look (options : LaunchOptions) (before : List Event) :
    (∀ (α : Type) (probe : PageTask (Option α)) (interval limit s f : Nat) (xs : List Exchange)
      (r : Option α), 0 < interval → (PageTask.poll interval limit probe).Course True s xs f r →
      ∃ ys l zs, xs = ys ++ zs ∧ s ≤ l ∧ l ≤ s + limit + interval ∧
        probe.Course True l zs f r) ∧
    ∀ (s : SessionId) (session : Session) (e : Event) (url : String) (later : List Event)
      (r : Except Failure Report),
      let w := (fresh options).run before
      let i := w.tasks.length
      let o := session.options
      w.sessions[s]? = some session → 0 < o.pollInterval → e.StartsOperation s →
      e.operation = .ok (some (.navigate url)) →
      Along (fun u _ => u.Running s) w (e :: later) →
      Along (PassesPromptly i) (w.apply e) later → (w.run (e :: later)).Ended s i r →
      ∃ xs, (w.apply e).talk i later = xs.flatMap Exchange.marks ∧ Operation.ReadsInTime o xs ∧
        ∀ d, (∀ x ∈ xs, ∀ ready, Operation.ReadyLook x ready → x.ended ≤ x.begun + d) →
          ∀ u ∈ xs, u.call = .currentUrl → ∃ g ∈ xs, (∃ url, g.call = .goto url) ∧
            u.begun ≤ g.ended + o.readyLimit + o.pollInterval + d := by
  refine ⟨fun α probe interval limit s f xs r hi h => PageTask.Course.last_look hi h, ?_⟩
  intro s session e url later r w i o hsess hinterval he hop hr hp hend
  rcases talk_of_ended True (sessionOrder_run options before) hsess he hop rfl hr (fun _ => hp)
    hend with ⟨-, htalk, -⟩ | ⟨t, xs, f, h, htalk⟩
  · exact ⟨[], htalk, by simp [Operation.ReadsInTime], by simp⟩
  · have hreads := (Operation.navigates_of_course h).readsInTime hinterval
    exact ⟨xs, htalk, hreads, fun d hd u => hreads.within hd⟩

namespace Visit

/-- A page that takes a second to answer the first look, five times as long as it has. -/
def slow : List Event :=
  opening ++ [.step 0, .answer 0 (.showing "https://a.b/" (.ok ())), .step 0, .step 0, .pass 1000] ++
    [.answer 0 (.showing "https://a.b/" (.ok ())), .step 0,
      .answer 0 (.showing "https://a.b/" (.ok ())), .step 0, .answer 0 .obliging, .step 0]

/-- A page that never answers the first look. -/
def hung : List Event :=
  opening ++ [.step 0, .answer 0 (.showing "https://a.b/" (.ok ())), .step 0, .step 0]

/-- A look that is answered late. -/
theorem late_look :
    (PageTask.poll 50 200 Operation.readyProbe).Course True 0
      [⟨.evaluate PageScript.readyState, 0, 1000, some (.ok (.str "complete"))⟩] 1000 (some ()) := by
  refine .clock (.refl True 0) ?_
  change Course True (.call (.evaluate PageScript.readyState) _) 0 _ 1000 (some ())
  refine .call _ (.refl True 0) (Nat.zero_le 1000) ?_
  exact .done (some ()) (.refl True 1000)

end Visit

open Visit in
/-- The wait goes on until the slow page has answered. -/
theorem bounded_but_for_last_look_slow :
    (∃ ys l zs,
      [⟨.evaluate PageScript.readyState, 0, 1000, some (.ok (.str "complete"))⟩] = ys ++ zs ∧
        0 ≤ l ∧ l ≤ 0 + 200 + 50 ∧ Operation.readyProbe.Course True l zs 1000 (some ())) ∧
    ∃ xs, (((fresh default).run before).apply beginning).talk 0 slow =
      xs.flatMap Exchange.marks ∧ Operation.ReadsInTime options xs ∧
        ∀ d, (∀ x ∈ xs, ∀ ready, Operation.ReadyLook x ready → x.ended ≤ x.begun + d) →
          ∀ u ∈ xs, u.call = .currentUrl → ∃ g ∈ xs, (∃ url, g.call = .goto url) ∧
            u.begun ≤ g.ended + 200 + 50 + d := by
  have hop : beginning.operation = .ok (some (.navigate "https://a.b/")) := by decide +kernel
  have hend : (((fresh default).run before).run (beginning :: slow)).Ended 0 0
      (.ok (.navigated { url := "https://a.b/", partly := false })) :=
    ended_of_navigated? (r := .ok { url := "https://a.b/", partly := false }) (by decide +kernel)
  refine ⟨(bounded_but_for_last_look default before).1 Unit _ 50 200 0 1000 _ _ (by decide) late_look, ?_⟩
  exact (bounded_but_for_last_look default before).2 0 (.opened "a" options 0) beginning
    "https://a.b/" slow _ rfl (by decide) rfl hop (by decide +kernel) (by decide +kernel) hend

open Visit in
/-- A look that is answered late keeps a wait beyond its limit. One that is never answered keeps a
navigation to the end of its session. -/
theorem not_every_wait_bounded :
    (¬ ∀ (probe : PageTask (Option Unit)) (interval limit s f : Nat) (xs : List Exchange)
      (r : Option Unit), 0 < interval → (PageTask.poll interval limit probe).Course True s xs f r →
      f ≤ s + limit + interval) ∧
    options.readyLimit + options.pollInterval < options.lifetime ∧
    Along (PassesPromptly 0) (((fresh default).run before).apply beginning)
      (hung ++ [.pass 30000, .step 0]) ∧
    (((fresh default).run before).run (beginning :: hung)).now = 0 ∧
    (((fresh default).run before).run (beginning :: hung ++ [.pass 30000, .step 0])).Ended 0 0
      (.error (Session.opened "a" options 0).lifetimeFailure) := by
  refine ⟨fun h => ?_, by decide, by decide +kernel, by decide +kernel, ?_⟩
  · have := h _ 50 200 0 1000 _ _ (by decide) late_look
    omega
  · exact ended_of_navigated? (r := .error (Session.opened "a" options 0).lifetimeFailure)
      (by decide +kernel)

end Scene

end ScriptSandbox
