import ScriptSandbox.Browser.Work

/-!
# What operations ask of a page

`PageTask.Only` says that a task makes no calls but those of a kind, whatever the answers are. No
operation closes its page (`work_only`): that is left to the session.
-/

namespace ScriptSandbox

variable {α β : Type} {P : PageCall → Prop}

namespace PageTask

inductive Only (P : PageCall → Prop) {α : Type} : PageTask α → Prop
  | done (a : α) : Only P (.done a)
  | call {c : PageCall} {next : Except Failure c.Answer → PageTask α} (hc : P c)
      (h : ∀ r, Only P (next r)) : Only P (.call c next)
  | callWithin {ms : Nat} {c : PageCall} {next : Option (Except Failure c.Answer) → PageTask α}
      (hc : P c) (h : ∀ r, Only P (next r)) : Only P (.callWithin ms c next)
  | pause {ms : Nat} {next : PageTask α} (h : Only P next) : Only P (.pause ms next)
  | clock {next : Nat → PageTask α} (h : ∀ now, Only P (next now)) : Only P (.clock next)
  | save {path : String} {content : List UInt8} {next : Except Failure Nat → PageTask α}
      (h : ∀ r, Only P (next r)) : Only P (.save path content next)

theorem only_bind {t : PageTask α} {f : α → PageTask β} (ht : t.Only P)
    (hf : ∀ a, (f a).Only P) : (t >>= f).Only P := by
  show (t.bind f).Only P
  induction ht with
  | done a => exact hf a
  | call hc h ih => exact .call hc ih
  | callWithin hc h ih => exact .callWithin hc ih
  | pause h ih => exact .pause ih
  | clock h ih => exact .clock ih
  | save h ih => exact .save ih

theorem only_attempt {c : PageCall} (hc : P c) : (attempt c).Only P := .call hc .done

theorem only_attemptWithin {c : PageCall} (ms : Nat) (hc : P c) : (attemptWithin ms c).Only P :=
  .callWithin hc .done

theorem only_lookUntil {probe : PageTask (Option α)} (hp : probe.Only P)
    (interval deadline rounds : Nat) : (lookUntil interval deadline probe rounds).Only P := by
  induction rounds with
  | zero => exact .done none
  | succ rounds ih =>
    refine only_bind hp fun found => ?_
    cases found with
    | some a => exact .done _
    | none =>
      refine only_bind (.clock .done) fun now => ?_
      split
      · exact .done none
      · exact only_bind (.pause (.done ())) fun _ => ih

theorem only_poll {probe : PageTask (Option α)} (hp : probe.Only P) (interval limit : Nat) :
    (poll interval limit probe).Only P :=
  only_bind (.clock .done) fun _ => only_lookUntil hp ..

end PageTask

namespace PageAction

def Only (P : PageCall → Prop) (t : PageAction α) : Prop := PageTask.Only P t.run

theorem only_bind {t : PageAction α} {f : α → PageAction β} (ht : t.Only P)
    (hf : ∀ a, (f a).Only P) : (t >>= f).Only P := by
  refine PageTask.only_bind ht fun r => ?_
  cases r with
  | ok a => exact hf a
  | error e => exact .done _

theorem only_pure (a : α) : (pure a : PageAction α).Only P := .done _

theorem only_fail (f : Failure) : (fail f : PageAction α).Only P := .done _

theorem only_quietly {t : PageTask α} (ht : t.Only P) : (quietly t).Only P :=
  PageTask.only_bind ht fun _ => .done _

theorem only_ask {c : PageCall} (hc : P c) : (ask c).Only P := PageTask.only_attempt hc

theorem only_attempt {c : PageCall} (hc : P c) : (attempt c).Only P :=
  only_quietly (PageTask.only_attempt hc)

theorem only_save (path : String) (content : List UInt8) : (save path content).Only P :=
  .save .done

end PageAction

namespace Operation

open PageAction

variable (o : SessionOptions)

/-- Every call but the one that closes a page. -/
def LeavesOpen (c : PageCall) : Prop := c ≠ .close

theorem found_only (a : Option α) (f : Failure) : (found a f).Only P := by
  cases a
  · exact only_fail f
  · exact only_pure _

theorem visibleProbe_only (selector : String) : (visibleProbe selector).Only LeavesOpen := by
  refine PageTask.only_bind (PageTask.only_attempt nofun) fun r => ?_
  split <;> exact .done _

theorem readyProbe_only : readyProbe.Only LeavesOpen := by
  refine PageTask.only_bind (PageTask.only_attempt nofun) fun r => ?_
  split <;> exact .done _

theorem urlProbe_only (pattern : String) : (urlProbe pattern).Only LeavesOpen := by
  refine PageTask.only_bind (PageTask.only_attempt nofun) fun r => ?_
  split <;> exact .done _

theorem textProbe_only (text : String) : (textProbe text).Only LeavesOpen := by
  refine PageTask.only_bind (PageTask.only_attempt nofun) fun r => ?_
  split <;> exact .done _

theorem awaitVisible_only (selector : String) : (awaitVisible o selector).Only LeavesOpen :=
  only_bind (only_quietly (PageTask.only_poll (visibleProbe_only selector) _ _)) fun _ =>
    found_only _ _

theorem awaitReady_only : (awaitReady o).Only LeavesOpen := by
  refine PageTask.only_bind (PageTask.only_poll readyProbe_only _ _) fun r => ?_
  split <;> exact .done _

theorem afterFailure_only (url : String) (f : Failure) : (afterFailure url f).Only LeavesOpen := by
  refine only_bind (only_attempt nofun) fun r => ?_
  dsimp only
  split
  · exact only_pure _
  · exact only_fail _

theorem tryAgain_only (url : String) (warning : Option String) :
    (tryAgain o url warning).Only LeavesOpen := by
  refine only_bind (only_attempt nofun) fun _ => ?_
  refine only_bind (only_quietly (awaitReady_only o)) fun again => ?_
  refine only_bind (only_ask nofun) fun current => ?_
  split
  · exact only_pure _
  · exact only_fail _

theorem destination_only (url current : String) (warning : Option String) :
    (destination o url current warning).Only LeavesOpen := by
  unfold destination
  split
  · exact only_pure _
  · exact tryAgain_only o url warning

theorem afterSuccess_only (url : String) : (afterSuccess o url).Only LeavesOpen := by
  refine only_bind (only_quietly (awaitReady_only o)) fun warning => ?_
  refine only_bind (only_ask nofun) fun current => ?_
  refine only_bind (destination_only o url current warning) fun found => ?_
  exact only_bind (only_quietly (PageTask.only_attemptWithin _ nofun)) fun _ => only_pure _

theorem visit_only (url : String) : (visit o url).Only LeavesOpen := by
  refine only_bind (only_attempt nofun) fun r => ?_
  split
  · exact afterFailure_only url _
  · exact afterSuccess_only o url

theorem navigation_only (url : String) : (navigation o url).Only LeavesOpen := by
  unfold navigation
  split
  · exact only_bind (only_quietly (.pause (.done ()))) fun _ => visit_only o url
  · exact visit_only o url

theorem onElement_only (script : PageScript.Template) (selector : String) :
    (onElement script selector).Only LeavesOpen := by
  refine only_bind (only_ask nofun) fun r => ?_
  split
  · exact only_fail _
  · exact only_pure _

theorem capture_only (path : String) : (capture path).Only LeavesOpen := by
  refine only_bind (only_ask nofun) fun image => ?_
  split
  · exact only_fail _
  · exact only_bind (only_save _ _) fun _ => only_pure _

/-- No operation closes its page. -/
theorem work_only (op : Operation) : (op.work o).Only LeavesOpen := by
  cases op with
  | navigate url => exact navigation_only o url
  | rest ms => exact only_bind (only_quietly (.pause (.done ()))) fun _ => only_pure _
  | waitFor selector => exact only_bind (awaitVisible_only o selector) fun _ => only_pure _
  | click selector =>
    refine only_bind (awaitVisible_only o selector) fun _ => ?_
    exact only_bind (only_ask nofun) fun _ => only_pure _
  | fill selector text =>
    refine only_bind (awaitVisible_only o selector) fun _ => ?_
    refine only_bind (only_ask nofun) fun _ => ?_
    exact only_bind (only_ask nofun) fun _ => only_pure _
  | clear selector =>
    refine only_bind (awaitVisible_only o selector) fun _ => ?_
    exact only_bind (onElement_only _ selector) fun _ => only_pure _
  | submit selector =>
    cases selector with
    | some selector =>
      refine only_bind (awaitVisible_only o selector) fun _ => ?_
      exact only_bind (onElement_only _ selector) fun _ => only_pure _
    | none =>
      refine only_bind (only_quietly (awaitReady_only o)) fun _ => ?_
      exact only_bind (only_ask nofun) fun _ => only_pure _
  | evaluate code => exact only_bind (only_ask nofun) fun _ => only_pure _
  | getHtml => exact only_bind (only_ask nofun) fun _ => only_pure _
  | getUrl => exact only_bind (only_ask nofun) fun _ => only_pure _
  | screenshot path => exact capture_only path
  | waitForUrl pattern limit =>
    refine only_bind (only_quietly (PageTask.only_poll (urlProbe_only pattern) _ _)) fun _ => ?_
    exact only_bind (found_only _ _) fun _ => only_pure _
  | waitForText text limit =>
    refine only_bind (only_quietly (PageTask.only_poll (textProbe_only text) _ _)) fun _ => ?_
    exact only_bind (found_only _ _) fun _ => only_pure _

end Operation

end ScriptSandbox
