import ScriptSandbox.Proofs.Browser.Polling
import ScriptSandbox.Proofs.Browser.Quiescent
import ScriptSandbox.Proofs.Browser.Talk

/-!
# The course of a navigation

A navigation is one attempt, and a second one if the first has left the page without content
(`Navigates`). An attempt goes to an address, waits for the document and reads where it has led. A
wait that sees no document in time gives a warning and nothing else.
-/

namespace ScriptSandbox

open PageTask (Course)

namespace Operation

variable {o : SessionOptions} {prompt : Prop} {s f : Nat} {xs : List Exchange} {url : String}

/-! ## Waiting for the document -/

/-- Whether an answer shows a document that can be used. -/
def isReady : Except Failure Json → Bool
  | .ok (.str "interactive") | .ok (.str "complete") => true
  | _ => false

/-- A look at the document, and whether it was one that can be used. -/
inductive ReadyLook : Exchange → Bool → Prop
  | mk (begun ended : Nat) (r : Except Failure Json) :
      ReadyLook ⟨.evaluate PageScript.readyState, begun, ended, some r⟩ (isReady r)

theorem readyProbe_eq : readyProbe = PageTask.attempt (.evaluate PageScript.readyState) >>= fun r =>
    .done (if isReady r then some () else none) := by
  unfold readyProbe
  refine congrArg _ (funext fun r => ?_)
  split
  · rfl
  · rfl
  · rename_i hinteractive hcomplete
    have hnot : isReady r = false := by
      unfold isReady
      split
      · exact (hinteractive rfl).elim
      · exact (hcomplete rfl).elim
      · rfl
    rw [hnot]
    rfl

theorem course_readyProbe {r : Option Unit} (h : readyProbe.Course prompt s xs f r) :
    ∃ begun ended answer, xs = [⟨.evaluate PageScript.readyState, begun, ended, some answer⟩] ∧
      Follows prompt s begun ∧ begun ≤ ended ∧ Follows prompt ended f ∧
      r = if isReady answer then some () else none := by
  rw [readyProbe_eq] at h
  obtain ⟨ys, m, answer, zs, hcall, hthen, rfl⟩ := Course.of_bind h
  obtain ⟨begun, ended, rfl, hb, he, hm⟩ := hcall.of_attempt
  obtain ⟨rfl, rfl, hf⟩ := hthen.of_done
  exact ⟨begun, ended, answer, rfl, hb, he, hm.trans hf, rfl⟩

/-- A wait for the document looks at nothing else. It gives a warning if no look has shown a
document that can be used. -/
structure ReadyWait (o : SessionOptions) (xs : List Exchange) (warning : Option String) : Prop where
  looks : ∀ x ∈ xs, ∃ ready, ReadyLook x ready
  seen : warning = none → ∃ x ∈ xs, ReadyLook x true
  missed : ∀ w, warning = some w →
    w = s!"document not ready after {o.readyLimit}ms" ∧ ∀ x ∈ xs, ReadyLook x false

theorem readyWait_of_course {warning : Option String}
    (h : (awaitReady o).Course prompt s xs f warning) : ReadyWait o xs warning := by
  obtain ⟨ys, m, seen, zs, hpoll, hthen, rfl⟩ := Course.of_bind h
  have hlooks : (∀ x ∈ ys, ∃ ready, ReadyLook x ready) ∧
      (seen = some () → ∃ x ∈ ys, ReadyLook x true) ∧
      (seen = none → ∀ x ∈ ys, ReadyLook x false) := by
    refine hpoll.of_poll (P := fun xs r => (∀ x ∈ xs, ∃ ready, ReadyLook x ready) ∧
      (r = some () → ∃ x ∈ xs, ReadyLook x true) ∧ (r = none → ∀ x ∈ xs, ReadyLook x false))
      (fun {s xs f r} hlook => ?_) (by simp) fun {ys zs r} hy hz => ?_
    · obtain ⟨begun, ended, answer, rfl, -, -, -, rfl⟩ := course_readyProbe hlook
      have hx := ReadyLook.mk begun ended answer
      cases hready : isReady answer <;> rw [hready] at hx
      · exact ⟨by simpa using .inl hx, by simp, by simpa using hx⟩
      · exact ⟨by simpa using .inr hx, by simpa using hx, by simp⟩
    · refine ⟨fun x hx => ?_, fun hr => ?_, fun hr x hx => ?_⟩
      · exact (List.mem_append.1 hx).elim (hy.1 x) (hz.1 x)
      · obtain ⟨x, hx, hlook⟩ := hz.2.1 hr
        exact ⟨x, List.mem_append_right ys hx, hlook⟩
      · exact (List.mem_append.1 hx).elim (hy.2.2 rfl x) (hz.2.2 hr x)
  obtain ⟨hall, hseen, hmissed⟩ := hlooks
  cases seen with
  | some u =>
    obtain ⟨rfl, rfl, -⟩ := hthen.of_done
    rw [List.append_nil]
    exact ⟨hall, fun _ => hseen rfl, by simp⟩
  | none =>
    obtain ⟨rfl, rfl, -⟩ := hthen.of_done
    rw [List.append_nil]
    exact ⟨hall, by simp, fun w hw => ⟨(Option.some.inj hw).symm, hmissed rfl⟩⟩

/-! ## Attempts -/

/-- One attempt: what the browser reports of it, the warning of the wait, and the address that is
read at its end. -/
inductive Attempt (prompt : Prop) (o : SessionOptions) (url : String) :
    Except Failure Unit → List Exchange → Option String → Except Failure String → Prop
  | mk {begun ended m begun' ended' : Nat} {ws : List Exchange} {warning : Option String}
      (r : Except Failure Unit) (current : Except Failure String)
      (hw : (awaitReady o).Course prompt ended ws m warning) (hb : Follows prompt m begun') :
      Attempt prompt o url r
        (⟨.goto url, begun, ended, some r⟩ :: ws ++ [⟨.currentUrl, begun', ended', some current⟩])
        warning current

/-- The script that runs at the end of a navigation. -/
inductive Injected : Exchange → Prop
  | mk (begun ended : Nat) (r : Option (Except Failure Json)) :
      Injected ⟨.evaluate PageScript.stealth, begun, ended, r⟩

/-- The report of a navigation that the browser has reported as failed: the page counts that can be
read and has content all the same. -/
def reportOfFailure (url : String) (f : Failure) (current : Except Failure String) :
    Except Failure Report :=
  match current with
  | .ok current =>
    if PageUrl.hasContent current then
      .ok (.navigated { url := current, partly := true, warning := some f.message })
    else .error { code := .browser, message := s!"navigation to {url} failed: {f.message}",
                  caused := true }
  | .error _ =>
    .error { code := .browser, message := s!"navigation to {url} failed: {f.message}",
             caused := true }

/-- All that a navigation can say to a page and hear from it, and what it comes to. -/
inductive Navigates (prompt : Prop) (o : SessionOptions) (url : String) :
    List Exchange → Except Failure Report → Prop
  | failed {begun ended begun' ended' : Nat} (f : Failure) (current : Except Failure String)
      (hb : Follows prompt ended begun') :
      Navigates prompt o url
        [⟨.goto url, begun, ended, some (.error f)⟩,
          ⟨.currentUrl, begun', ended', some current⟩] (reportOfFailure url f current)
  | unread {xs : List Exchange} {warning : Option String} (f : Failure)
      (h : Attempt prompt o url (.ok ()) xs warning (.error f)) :
      Navigates prompt o url xs (.error f)
  | loaded {xs : List Exchange} {x : Exchange} {warning : Option String} (current : String)
      (h : Attempt prompt o url (.ok ()) xs warning (.ok current))
      (hc : PageUrl.hasContent current = true) (hx : Injected x) :
      Navigates prompt o url (xs ++ [x])
        (.ok (.navigated { url := current, partly := false, warning }))
  | unreadAgain {xs ys : List Exchange} {warning warning' : Option String} {current : String}
      (r : Except Failure Unit) (f : Failure)
      (h : Attempt prompt o url (.ok ()) xs warning (.ok current))
      (hc : PageUrl.hasContent current = false)
      (h' : Attempt prompt o url r ys warning' (.error f)) :
      Navigates prompt o url (xs ++ ys) (.error f)
  | blankAgain {xs ys : List Exchange} {warning warning' : Option String}
      {current current' : String} (r : Except Failure Unit)
      (h : Attempt prompt o url (.ok ()) xs warning (.ok current))
      (hc : PageUrl.hasContent current = false)
      (h' : Attempt prompt o url r ys warning' (.ok current'))
      (hc' : PageUrl.hasContent current' = false) :
      Navigates prompt o url (xs ++ ys)
        (.error (.browser s!"navigation to {url} left the page blank after a retry"))
  | loadedAgain {xs ys : List Exchange} {x : Exchange} {warning warning' : Option String}
      {current current' : String} (r : Except Failure Unit)
      (h : Attempt prompt o url (.ok ()) xs warning (.ok current))
      (hc : PageUrl.hasContent current = false)
      (h' : Attempt prompt o url r ys warning' (.ok current'))
      (hc' : PageUrl.hasContent current' = true) (hx : Injected x) :
      Navigates prompt o url (xs ++ ys ++ [x])
        (.ok (.navigated
          { url := current', partly := false, warning := warning'.orElse fun _ => warning }))

/-! ## The course of a navigation -/

theorem course_afterFailure {failure : Failure} {r : Except Failure Report}
    (h : (afterFailure url failure).Course prompt s xs f r) :
    ∃ begun ended current, xs = [⟨.currentUrl, begun, ended, some current⟩] ∧
      Follows prompt s begun ∧ r = reportOfFailure url failure current := by
  obtain ⟨begun, ended, current, zs, rfl, hb, -, hthen⟩ := PageAction.Course.of_attempt h
  refine ⟨begun, ended, current, ?_⟩
  cases current with
  | error e =>
    obtain ⟨rfl, rfl⟩ := PageAction.Course.of_fail hthen
    exact ⟨rfl, hb, rfl⟩
  | ok current =>
    change PageAction.Course prompt (if PageUrl.hasContent current = true then _ else _) _ _ _ _
      at hthen
    by_cases hc : PageUrl.hasContent current = true
    · rw [if_pos hc] at hthen
      obtain ⟨rfl, rfl⟩ := PageAction.Course.of_pure hthen
      exact ⟨rfl, hb, (if_pos hc).symm⟩
    · rw [if_neg hc] at hthen
      obtain ⟨rfl, rfl⟩ := PageAction.Course.of_fail hthen
      exact ⟨rfl, hb, (if_neg hc).symm⟩

/-- What follows the report of the browser: the wait and the address that is read after it. -/
theorem course_arrival {α : Type} {g : Option String → String → PageAction α}
    {r : Except Failure α} (begun : Nat) (report : Except Failure Unit)
    (h : PageAction.Course prompt (do
      let warning ← PageAction.quietly (awaitReady o)
      let current ← PageAction.ask .currentUrl
      g warning current) s xs f r) :
    ∃ ys zs m warning current, xs = ys ++ zs ∧
      Attempt prompt o url report (⟨.goto url, begun, s, some report⟩ :: ys) warning current ∧
      ((∃ e, current = .error e ∧ zs = [] ∧ r = .error e) ∨
        ∃ url, current = .ok url ∧ (g warning url).Course prompt m zs f r) := by
  obtain ⟨ws, m, warning, vs, hwait, hthen, rfl⟩ := PageAction.Course.of_quietly h
  obtain ⟨begun', ended', current, zs, rfl, hb, -, hread⟩ := PageAction.Course.of_ask hthen
  refine ⟨ws ++ [⟨.currentUrl, begun', ended', some current⟩], zs, ended', warning, current, ?_,
    .mk report current hwait hb, hread⟩
  rw [List.append_assoc]
  rfl

theorem course_injection {n : Navigation} {r : Except Failure Report}
    (h : PageAction.Course prompt (do
      let _ ← PageAction.quietly
        (PageTask.attemptWithin o.readyLimit (.evaluate PageScript.stealth))
      return .navigated n) s xs f r) : ∃ x, Injected x ∧ xs = [x] ∧ r = .ok (.navigated n) := by
  cases (h : Course prompt (.callWithin o.readyLimit (.evaluate PageScript.stealth)
    fun _ => .done (.ok (.navigated n))) s xs f r) with
  | callWithin answer hb he hw h =>
    obtain ⟨rfl, rfl, -⟩ := h.of_done
    exact ⟨_, .mk _ _ _, rfl, rfl⟩

theorem course_tryAgain {warning : Option String} {r : Except Failure (String × Option String)}
    (h : (tryAgain o url warning).Course prompt s xs f r) :
    ∃ report warning' current, Attempt prompt o url report xs warning' current ∧
      ((∃ e, current = .error e ∧ r = .error e) ∨
        ∃ current', current = .ok current' ∧
          r = if PageUrl.hasContent current' then .ok (current', warning'.orElse fun _ => warning)
            else .error (.browser s!"navigation to {url} left the page blank after a retry")) := by
  obtain ⟨begun, ended, report, zs, rfl, -, -, hthen⟩ := PageAction.Course.of_attempt h
  obtain ⟨ys, zs, m, warning', current, rfl, hattempt, hread⟩ :=
    course_arrival begun report hthen
  refine ⟨report, warning', current, ?_⟩
  rcases hread with ⟨e, rfl, rfl, rfl⟩ | ⟨current, rfl, hlast⟩
  · rw [List.append_nil]
    exact ⟨hattempt, .inl ⟨e, rfl, rfl⟩⟩
  · by_cases hc : PageUrl.hasContent current = true
    · rw [if_pos hc] at hlast
      obtain ⟨rfl, rfl⟩ := PageAction.Course.of_pure hlast
      rw [List.append_nil]
      exact ⟨hattempt, .inr ⟨current, rfl, by rw [if_pos hc]⟩⟩
    · rw [if_neg hc] at hlast
      obtain ⟨rfl, rfl⟩ := PageAction.Course.of_fail hlast
      rw [List.append_nil]
      exact ⟨hattempt, .inr ⟨current, rfl, by rw [if_neg hc]⟩⟩

/-- What follows a first attempt whose address has been read. -/
theorem navigates_of_read {current : String} {warning : Option String} {ys zs : List Exchange}
    {r : Except Failure Report} (hfirst : Attempt prompt o url (.ok ()) ys warning (.ok current))
    (h : PageAction.Course prompt (do
      let (current, warning) ← destination o url current warning
      let _ ← PageAction.quietly
        (PageTask.attemptWithin o.readyLimit (.evaluate PageScript.stealth))
      return .navigated { url := current, partly := false, warning }) s zs f r) :
    Navigates prompt o url (ys ++ zs) r := by
  obtain ⟨vs, m, found, ws, rfl, hdest, hlast⟩ := PageAction.Course.of_bind h
  rw [← List.append_assoc]
  by_cases hc : PageUrl.hasContent current = true
  · rw [destination, if_pos hc] at hdest
    obtain ⟨rfl, rfl⟩ := PageAction.Course.of_pure hdest
    rcases hlast with ⟨e, herror, -⟩ | ⟨a, ha, hinject⟩
    · simp at herror
    · obtain rfl := Except.ok.inj ha
      obtain ⟨x, hx, rfl, rfl⟩ := course_injection hinject
      rw [List.append_nil]
      exact .loaded current hfirst hc hx
  · rw [destination, if_neg hc] at hdest
    rw [Bool.not_eq_true] at hc
    obtain ⟨report, warning', read, hagain, hfound⟩ := course_tryAgain hdest
    rcases hfound with ⟨e, rfl, rfl⟩ | ⟨current', rfl, rfl⟩
    · rcases hlast with ⟨e', he, rfl, rfl⟩ | ⟨a, ha, -⟩
      · obtain rfl := Except.error.inj he
        rw [List.append_nil]
        exact .unreadAgain report _ hfirst hc hagain
      · simp at ha
    · by_cases hc' : PageUrl.hasContent current' = true
      · rw [if_pos hc'] at hlast
        rcases hlast with ⟨e, herror, -⟩ | ⟨a, ha, hinject⟩
        · simp at herror
        · obtain rfl := Except.ok.inj ha
          obtain ⟨x, hx, rfl, rfl⟩ := course_injection hinject
          exact .loadedAgain report hfirst hc hagain hc' hx
      · rw [if_neg hc'] at hlast
        rw [Bool.not_eq_true] at hc'
        rcases hlast with ⟨e, he, rfl, rfl⟩ | ⟨a, ha, -⟩
        · obtain rfl := Except.error.inj he
          rw [List.append_nil]
          exact .blankAgain report hfirst hc hagain hc'
        · simp at ha

theorem navigates_of_visit {r : Except Failure Report}
    (h : (visit o url).Course prompt s xs f r) : Navigates prompt o url xs r := by
  obtain ⟨begun, ended, answer, zs, rfl, -, -, hthen⟩ := PageAction.Course.of_attempt h
  cases answer with
  | error failure =>
    obtain ⟨begun', ended', current, rfl, hb, rfl⟩ := course_afterFailure hthen
    exact .failed failure current hb
  | ok u =>
    obtain ⟨ys, zs, m, warning, current, rfl, hfirst, hread⟩ := course_arrival begun (.ok u) hthen
    rcases hread with ⟨e, rfl, rfl, rfl⟩ | ⟨current, rfl, hgo⟩
    · rw [List.append_nil]
      exact .unread e hfirst
    · exact navigates_of_read hfirst hgo

theorem navigates_of_course {r : Except Failure Report}
    (h : (navigation o url).Course prompt s xs f r) : Navigates prompt o url xs r := by
  unfold navigation at h
  by_cases hg : o.grace ≠ 0
  · rw [if_pos hg] at h
    obtain ⟨ys, m, u, zs, hrest, hvisit, rfl⟩ := PageAction.Course.of_quietly h
    obtain ⟨rfl, -⟩ := hrest.of_rest
    exact navigates_of_visit hvisit
  · rw [if_neg hg] at h
    exact navigates_of_visit h

/-! ## The protocol -/

/-- Where a call goes. -/
def goto? (x : Exchange) : Option String :=
  match x.call with
  | .goto url => some url
  | _ => none

/-- What the browser reports of where a call goes. -/
def report? : Exchange → Option (Except Failure Unit)
  | ⟨.goto _, _, _, r⟩ => r
  | _ => none

/-- The address that a call reads. -/
def read? : Exchange → Option (Except Failure String)
  | ⟨.currentUrl, _, _, r⟩ => r
  | _ => none

/-- An attempt in which no look has shown a document that can be used. -/
def MissedWait (url : String) (xs : List Exchange) : Prop :=
  ∃ ys g ws u zs, xs = ys ++ g :: ws ++ u :: zs ∧ g.call = .goto url ∧ u.call = .currentUrl ∧
    ∀ x ∈ ws, ReadyLook x false

/-- What a navigation comes to that the browser has reported as a success, after the last address
has been read. A warning is of an attempt whose looks have all been in vain. -/
inductive Arrives (o : SessionOptions) (url : String) (xs : List Exchange) :
    Except Failure String → Except Failure Report → Prop
  | loaded (current : String) (warning : Option String) (hc : PageUrl.hasContent current = true)
      (seen : warning = none → ∃ x ∈ xs, ReadyLook x true)
      (missed : ∀ text, warning = some text →
        text = s!"document not ready after {o.readyLimit}ms" ∧ MissedWait url xs) :
      Arrives o url xs (.ok current)
        (.ok (.navigated { url := current, partly := false, warning }))
  | blank (current : String) (f : Failure) (hc : PageUrl.hasContent current = false) :
      Arrives o url xs (.ok current) (.error f)
  | unread (f : Failure) : Arrives o url xs (.error f) (.error f)

/-- What a navigation says to its page and what it comes to.

* It goes to its address once, or twice if the first time was reported as a success and the address
  that was read then has no content.
* If the first time was reported as a failure, it reads the address once, runs no script, and comes
  to what that address says.
* If it was reported as a success, it comes to the address that was read last, if that has content,
  and to a failure otherwise. It may have a warning, of a wait in vain and of nothing else. -/
structure Protocol (o : SessionOptions) (url : String) (xs : List Exchange)
    (r : Except Failure Report) : Prop where
  gotos : xs.filterMap goto? = [url] ∨ xs.filterMap goto? = [url, url]
  reported : (xs.filterMap report?).length = (xs.filterMap goto?).length
  again : xs.filterMap goto? = [url, url] ↔ (xs.filterMap report?).head? = some (.ok ()) ∧
    ∃ u, (xs.filterMap read?).head? = some (.ok u) ∧ PageUrl.hasContent u = false
  failed : ∀ f, (xs.filterMap report?).head? = some (.error f) →
    (∀ x ∈ xs, x.call ≠ .evaluate PageScript.stealth) ∧
      ∃ current, xs.filterMap read? = [current] ∧ r = reportOfFailure url f current
  succeeded : (xs.filterMap report?).head? = some (.ok ()) →
    ∃ current, (xs.filterMap read?).getLast? = some current ∧ Arrives o url xs current r
  content : ∀ report, r = .ok report → ∃ n, report = .navigated n ∧ PageUrl.hasContent n.url = true

variable {report : Except Failure Unit} {warning : Option String} {current : Except Failure String}

/-- The looks of an attempt do not count where no look does. -/
theorem Attempt.filterMap_eq {β : Type} {g : Exchange → Option β}
    (h : Attempt prompt o url report xs warning current)
    (hg : ∀ x ready, ReadyLook x ready → g x = none) :
    ∃ begun ended begun' ended', xs.filterMap g =
      [⟨.goto url, begun, ended, some report⟩,
        ⟨.currentUrl, begun', ended', some current⟩].filterMap g := by
  cases h with
  | @mk begun ended m begun' ended' ws warning _ _ hw hb =>
    have hnone : ws.filterMap g = [] := List.filterMap_eq_nil_iff.2 fun x hx =>
      ((readyWait_of_course hw).looks x hx).elim fun ready hlook => hg x ready hlook
    refine ⟨begun, ended, begun', ended', ?_⟩
    rw [← List.singleton_append, List.append_assoc, List.filterMap_append, List.filterMap_append,
      hnone, List.nil_append, ← List.filterMap_append]
    rfl

/-- Where the calls go, what is reported of that, and which addresses are read. -/
structure Tally (xs : List Exchange) (gotos : List String) (reports : List (Except Failure Unit))
    (reads : List (Except Failure String)) : Prop where
  gotos_eq : xs.filterMap goto? = gotos
  reports_eq : xs.filterMap report? = reports
  reads_eq : xs.filterMap read? = reads

theorem Tally.append {ys : List Exchange} {gotos gotos' : List String}
    {reports reports' : List (Except Failure Unit)} {reads reads' : List (Except Failure String)}
    (h : Tally xs gotos reports reads) (h' : Tally ys gotos' reports' reads') :
    Tally (xs ++ ys) (gotos ++ gotos') (reports ++ reports') (reads ++ reads') where
  gotos_eq := by rw [List.filterMap_append, h.gotos_eq, h'.gotos_eq]
  reports_eq := by rw [List.filterMap_append, h.reports_eq, h'.reports_eq]
  reads_eq := by rw [List.filterMap_append, h.reads_eq, h'.reads_eq]

theorem Attempt.tally (h : Attempt prompt o url report xs warning current) :
    Tally xs [url] [report] [current] := by
  obtain ⟨_, _, _, _, hg⟩ := h.filterMap_eq (g := goto?) fun x ready hx => by cases hx; rfl
  obtain ⟨_, _, _, _, hr⟩ := h.filterMap_eq (g := report?) fun x ready hx => by cases hx; rfl
  obtain ⟨_, _, _, _, hd⟩ := h.filterMap_eq (g := read?) fun x ready hx => by cases hx; rfl
  exact ⟨hg, hr, hd⟩

theorem Injected.tally {x : Exchange} (h : Injected x) : Tally [x] [] [] [] := by
  cases h
  exact ⟨rfl, rfl, rfl⟩

theorem Attempt.seen (h : Attempt prompt o url report xs none current) :
    ∃ x ∈ xs, ReadyLook x true := by
  cases h with
  | mk _ _ hw hb =>
    obtain ⟨x, hx, hlook⟩ := (readyWait_of_course hw).seen rfl
    exact ⟨x, List.mem_append_left _ (List.mem_cons_of_mem _ hx), hlook⟩

theorem Attempt.missed {text : String}
    (h : Attempt prompt o url report xs (some text) current) :
    text = s!"document not ready after {o.readyLimit}ms" ∧ MissedWait url xs := by
  cases h with
  | mk _ _ hw hb =>
    obtain ⟨htext, hlooks⟩ := (readyWait_of_course hw).missed text rfl
    exact ⟨htext, [], _, _, _, [], rfl, rfl, rfl, hlooks⟩

theorem MissedWait.append {ys : List Exchange} (h : MissedWait url ys) (xs zs : List Exchange) :
    MissedWait url (xs ++ ys ++ zs) := by
  obtain ⟨as, g, ws, u, bs, rfl, hg, hu, hws⟩ := h
  exact ⟨xs ++ as, g, ws, u, bs ++ zs, by simp, hg, hu, hws⟩

theorem reportOfFailure_content {failure : Failure} {answer : Report}
    (h : reportOfFailure url failure current = .ok answer) :
    ∃ n, answer = .navigated n ∧ PageUrl.hasContent n.url = true := by
  unfold reportOfFailure at h
  split at h
  · rename_i u
    by_cases hc : PageUrl.hasContent u = true
    · rw [if_pos hc] at h
      obtain rfl := Except.ok.inj h
      exact ⟨_, rfl, hc⟩
    · rw [if_neg hc] at h
      simp at h
  · simp at h

theorem Arrives.content {r : Except Failure Report} {answer : Report}
    (h : Arrives o url xs current r) (hr : r = .ok answer) :
    ∃ n, answer = .navigated n ∧ PageUrl.hasContent n.url = true := by
  cases h with
  | loaded current warning hc =>
    obtain rfl := Except.ok.inj hr
    exact ⟨_, rfl, hc⟩
  | blank | unread => simp at hr

theorem Protocol.of_once {r : Except Failure Report} (ht : Tally xs [url] [.ok ()] [current])
    (hc : ∀ u, current = .ok u → PageUrl.hasContent u = true) (h : Arrives o url xs current r) :
    Protocol o url xs r where
  gotos := .inl ht.gotos_eq
  reported := by rw [ht.gotos_eq, ht.reports_eq]; rfl
  again := by
    rw [ht.gotos_eq, ht.reads_eq]
    refine ⟨by simp, ?_⟩
    rintro ⟨-, u, hu, hblank⟩
    rw [hc u (Option.some.inj hu)] at hblank
    simp at hblank
  failed f hf := by
    rw [ht.reports_eq] at hf
    simp at hf
  succeeded _ := ⟨current, by rw [ht.reads_eq]; rfl, h⟩
  content _ := h.content

theorem Protocol.of_twice {r : Except Failure Report} {u : String}
    (ht : Tally xs [url, url] [.ok (), report] [.ok u, current])
    (hc : PageUrl.hasContent u = false) (h : Arrives o url xs current r) : Protocol o url xs r where
  gotos := .inr ht.gotos_eq
  reported := by rw [ht.gotos_eq, ht.reports_eq]; rfl
  again := ⟨fun _ => ⟨by rw [ht.reports_eq]; rfl, u, by rw [ht.reads_eq]; rfl, hc⟩,
    fun _ => ht.gotos_eq⟩
  failed f hf := by
    rw [ht.reports_eq] at hf
    simp at hf
  succeeded _ := ⟨current, by rw [ht.reads_eq]; rfl, h⟩
  content _ := h.content

theorem protocol_of_navigates {r : Except Failure Report} (h : Navigates prompt o url xs r) :
    Protocol o url xs r := by
  cases h with
  | failed f current hb =>
    refine ⟨.inl rfl, rfl, ⟨fun htwice => ?_, fun hok => ?_⟩, fun f' hf => ?_, fun hok => ?_,
      fun answer => reportOfFailure_content⟩
    · have hlen : 1 = 2 := congrArg List.length htwice
      omega
    · cases (hok.1 : some (Except.error f) = some (.ok ()))
    · obtain rfl : f = f' := by simpa [report?] using hf
      exact ⟨by simp, current, rfl, rfl⟩
    · cases (hok : some (Except.error f) = some (.ok ()))
  | unread f h => exact .of_once h.tally (by simp) (.unread f)
  | @loaded xs x warning current h hc hx =>
    refine .of_once (h.tally.append hx.tally) (fun u hu => Except.ok.inj hu ▸ hc)
      (.loaded current warning hc ?_ ?_)
    · rintro rfl
      obtain ⟨y, hy, hlook⟩ := h.seen
      exact ⟨y, List.mem_append_left _ hy, hlook⟩
    · rintro text rfl
      obtain ⟨htext, hmissed⟩ := h.missed
      exact ⟨htext, hmissed.append [] _⟩
  | unreadAgain report f h hc h' => exact .of_twice (h.tally.append h'.tally) hc (.unread f)
  | blankAgain report h hc h' hc' => exact .of_twice (h.tally.append h'.tally) hc (.blank _ _ hc')
  | @loadedAgain xs ys x warning warning' current current' report h hc h' hc' hx =>
    refine .of_twice ((h.tally.append h'.tally).append hx.tally) hc
      (.loaded current' _ hc' (fun hnone => ?_) fun text htext => ?_)
    · cases warning' with
      | some text => simp at hnone
      | none =>
        obtain ⟨y, hy, hlook⟩ := h'.seen
        exact ⟨y, List.mem_append_left _ (List.mem_append_right _ hy), hlook⟩
    · -- the warning is the one of the second wait, if that has one
      cases warning' with
      | some text' =>
        obtain ⟨rfl, hmissed⟩ := h'.missed
        exact ⟨(Option.some.inj htext).symm, hmissed.append xs _⟩
      | none =>
        obtain rfl : warning = some text := by simpa using htext
        obtain ⟨rfl, hmissed⟩ := h.missed
        exact ⟨rfl, by simpa using hmissed.append [] (ys ++ _)⟩

end Operation

namespace Scene

/-- At every page a navigation comes to its end, and it keeps to the protocol; and so does every
navigation in a scene whose session goes on until it has ended. A session that has never had a page
may find none: the navigation then says nothing and fails. -/
theorem navigation_protocol :
    (∀ (o : SessionOptions) (url : String) (d : PageBehaviour) (begun : Nat),
      (∃ xs ended r, (Operation.navigation o url).Course True begun xs ended r ∧
        d.Answers 0 xs) ∧
      ∀ xs ended r, (Operation.navigation o url).Course True begun xs ended r →
        Operation.Protocol o url xs r) ∧
    ∀ (options : LaunchOptions) (before : List Event) (s : SessionId) (session : Session)
      (e : Event) (url : String) (later : List Event) (r : Except Failure Report),
      let w := (fresh options).run before
      let i := w.tasks.length
      w.sessions[s]? = some session → e.StartsOperation s →
      e.operation = .ok (some (.navigate url)) →
      Along (fun u _ => u.Running s) w (e :: later) → (w.run (e :: later)).Ended s i r →
      (session.active = false ∧ (w.apply e).talk i later = [] ∧ ∃ f, r = .error f) ∨
        ∃ xs, (w.apply e).talk i later = xs.flatMap Exchange.marks ∧
          Operation.Protocol session.options url xs r := by
  refine ⟨fun o url d begun => ⟨?_, fun xs ended r h => ?_⟩, ?_⟩
  · exact PageTask.exists_course d (Operation.navigation o url).run 0 begun
  · exact Operation.protocol_of_navigates (Operation.navigates_of_course h)
  · intro options before s session e url later r w i hsess he hop hr hend
    refine (talk_of_ended False (sessionOrder_run options before) hsess he hop rfl hr
      False.elim hend).imp_right ?_
    rintro ⟨t, xs, f, h, htalk⟩
    exact ⟨xs, htalk, Operation.protocol_of_navigates (Operation.navigates_of_course h)⟩

/-- A browser that comes up, with a page at this address that reports each navigation like this. -/
def Answers.showing (url : String) (report : Except Failure Unit) : Answers
  | .launch _ | .openPage _ => .ok ()
  | .shutDown _ => ()
  | .save _ _ => .ok 0
  | .page _ (.goto _) => report
  | .page _ .currentUrl => .ok url
  | .page _ (.evaluate _) => .ok (.str "complete")
  | .page _ _ => .error .sessionClosed

/-- The session that has navigated, and what has come of it. -/
def navigated? : Task → Option (SessionId × Except Failure Navigation)
  | .operation s (.done (.ok (.navigated n))) => some (s, .ok n)
  | .operation s (.done (.error f)) => some (s, .error f)
  | _ => none

theorem ended_of_navigated? {w : Scene} {i : TaskId} {s : SessionId} {r : Except Failure Navigation}
    (h : w.tasks[i]?.bind navigated? = some (s, r)) : w.Ended s i (r.map .navigated) := by
  obtain ⟨t, hi, ht⟩ := Option.bind_eq_some_iff.1 h
  unfold navigated? at ht
  split at ht
  · cases ht
    exact hi
  · cases ht
    exact hi
  · simp at ht

namespace Visit

def options : SessionOptions :=
  { lifetime := 30000, grace := 0, readyLimit := 200, pollInterval := 50 }

def before : List Event := [.openSession "a" options]

def beginning : Event := .call 0 (.navigate "https://a.b/")

/-- The operation opens its page. -/
def opening : List Event :=
  List.replicate 7 (.step 0) ++ .answer 0 .obliging :: List.replicate 4 (.step 0) ++
    [.answer 0 .obliging]

/-- One attempt, at a page that answers like this. -/
def attempt (a : Answers) : List Event :=
  [.step 0, .answer 0 a, .step 0, .step 0, .answer 0 a, .step 0, .answer 0 a]

/-- At first there is a blank page. The second time something fails, and yet there is content. -/
def blankFirst : List Event :=
  opening ++ attempt (.showing "about:blank" (.ok ())) ++
    attempt (.showing "https://a.b/x" (.error .sessionClosed)) ++
      [.step 0, .answer 0 .obliging, .step 0]

end Visit

open Visit in
/-- A page that is blank at first: the second attempt counts, whatever is reported of it. -/
theorem navigation_protocol_blankFirst :
    ∃ xs, (((fresh default).run before).apply beginning).talk 0 blankFirst =
        xs.flatMap Exchange.marks ∧
      Operation.Protocol options "https://a.b/" xs
        (.ok (.navigated { url := "https://a.b/x", partly := false })) := by
  have hop : beginning.operation = .ok (some (.navigate "https://a.b/")) := by decide +kernel
  have hend : (((fresh default).run before).run (beginning :: blankFirst)).Ended 0 0
      (.ok (.navigated { url := "https://a.b/x", partly := false })) :=
    ended_of_navigated? (r := .ok { url := "https://a.b/x", partly := false }) (by decide +kernel)
  rcases navigation_protocol.2 default before 0 (.opened "a" options 0) beginning "https://a.b/"
    blankFirst _ rfl rfl hop (by decide +kernel) hend with ⟨-, -, f, hf⟩ | hprotocol
  · simp at hf
  · exact hprotocol

end Scene

end ScriptSandbox
