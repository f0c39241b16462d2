import ScriptSandbox.Browser.Operation
import ScriptSandbox.Browser.PageTask
import ScriptSandbox.Regex.Search
import ScriptSandbox.Text.Contains

/-!
# The work behind an operation

What each operation does with the page of its session. An element is waited for before anything is
done to it. A navigation that ends without content is tried once more; one that the browser reports
as failed counts when a page has content all the same.
-/

namespace ScriptSandbox

namespace Operation

variable (o : SessionOptions)

/-! ## Waiting -/

def found {α : Type} : Option α → Failure → PageAction α
  | some a, _ => pure a
  | none, f => PageAction.fail f

def timeout (message : String) : Failure := { code := .timeout, message }

/-- Looks whether an element is visible. A failed look counts as not visible. -/
def visibleProbe (selector : String) : PageTask (Option Unit) := do
  match ← PageTask.attempt (.evaluate (PageScript.visibility.fill selector)) with
  | .ok (.bool true) => return some ()
  | _ => return none

def awaitVisible (selector : String) : PageAction Unit := do
  let seen ← PageAction.quietly
    (PageTask.poll o.pollInterval o.elementLimit (visibleProbe selector))
  found seen (timeout s!"element '{selector}' not visible after {o.elementLimit}ms")

def readyProbe : PageTask (Option Unit) := do
  match ← PageTask.attempt (.evaluate PageScript.readyState) with
  | .ok (.str "interactive") | .ok (.str "complete") => return some ()
  | _ => return none

/-- Waits for a document that can be used. A document that is late gives a warning only. -/
def awaitReady : PageTask (Option String) := do
  match ← PageTask.poll o.pollInterval o.readyLimit readyProbe with
  | some () => return none
  | none => return some s!"document not ready after {o.readyLimit}ms"

/-- Whether an address contains a pattern or matches it. A pattern that is no regular expression
matches nothing. -/
def urlMatches (pattern url : String) : Bool :=
  Text.contains url pattern ||
    match Regex.compile pattern with
    | .ok r => Regex.isMatch r url
    | .error _ => false

def urlProbe (pattern : String) : PageTask (Option String) := do
  match ← PageTask.attempt .currentUrl with
  | .ok url => return if urlMatches pattern url then some url else none
  | .error _ => return none

def textProbe (text : String) : PageTask (Option Unit) := do
  match ← PageTask.attempt (.evaluate PageScript.bodyText) with
  | .ok (.str body) => return if Text.contains body text then some () else none
  | _ => return none

/-! ## Navigating -/

/-- What a navigation that the browser reports as failed comes to. -/
def afterFailure (url : String) (f : Failure) : PageAction Report := do
  let current := (← PageAction.attempt .currentUrl).toOption.getD ""
  if PageUrl.hasContent current then
    return .navigated { url := current, partly := true, warning := some f.message }
  PageAction.fail
    { code := .browser, message := s!"navigation to {url} failed: {f.message}", caused := true }

/-- A second try for a page that stayed blank. -/
def tryAgain (url : String) (warning : Option String) : PageAction (String × Option String) := do
  let _ ← PageAction.attempt (.goto url)
  let again ← PageAction.quietly (awaitReady o)
  let current ← PageAction.ask .currentUrl
  if PageUrl.hasContent current then return (current, again.orElse fun _ => warning)
  PageAction.fail (.browser s!"navigation to {url} left the page blank after a retry")

/-- Where a navigation has led, after a second try if the page stayed blank. -/
def destination (url current : String) (warning : Option String) :
    PageAction (String × Option String) :=
  if PageUrl.hasContent current then pure (current, warning) else tryAgain o url warning

/-- What a navigation comes to that the browser does not report as failed. -/
def afterSuccess (url : String) : PageAction Report := do
  let warning ← PageAction.quietly (awaitReady o)
  let current ← PageAction.ask .currentUrl
  let (current, warning) ← destination o url current warning
  let _ ← PageAction.quietly
    (PageTask.attemptWithin o.readyLimit (.evaluate PageScript.stealth))
  return .navigated { url := current, partly := false, warning }

def visit (url : String) : PageAction Report := do
  match ← PageAction.attempt (.goto url) with
  | .error f => afterFailure url f
  | .ok () => afterSuccess o url

def navigation (url : String) : PageAction Report := do
  if o.grace ≠ 0 then PageAction.quietly (PageTask.rest o.grace)
  visit o url

/-! ## Acting -/

def missing (selector : String) : Failure := .browser s!"element '{selector}' not found"

/-- Runs a script on an element. The script answers `false` when the element is gone. -/
def onElement (script : PageScript.Template) (selector : String) : PageAction Unit := do
  match ← PageAction.ask (.evaluate (script.fill selector)) with
  | .bool false => PageAction.fail (missing selector)
  | _ => return ()

def capture (path : String) : PageAction Report := do
  let image ← PageAction.ask .screenshot
  if image.isEmpty then PageAction.fail (.browser "screenshot capture returned no data")
  else
    return .saved path (← PageAction.save path image)

/-- What an operation does with its page. A rest needs none. -/
def work : Operation → PageAction Report
  | .navigate url => navigation o url
  | .rest ms => do
    PageAction.quietly (PageTask.rest ms)
    return .nothing
  | .waitFor selector => do
    awaitVisible o selector
    return .nothing
  | .click selector => do
    awaitVisible o selector
    PageAction.ask (.click selector)
    return .nothing
  | .fill selector text => do
    awaitVisible o selector
    let _ ← PageAction.ask (.evaluate (PageScript.clearing.fill selector))
    PageAction.ask (.typeText selector text)
    return .nothing
  | .clear selector => do
    awaitVisible o selector
    onElement PageScript.clearing selector
    return .nothing
  | .submit (some selector) => do
    awaitVisible o selector
    onElement PageScript.submitting selector
    return .nothing
  | .submit none => do
    let _ ← PageAction.quietly (awaitReady o)
    PageAction.ask .pressEnter
    return .nothing
  | .evaluate code => return .value (← PageAction.ask (.evaluate code))
  | .getHtml => return .html (← PageAction.ask .content)
  | .getUrl => return .url (← PageAction.ask .currentUrl)
  | .screenshot path => capture path
  | .waitForUrl pattern limit => do
    let limit := limit.getD o.elementLimit
    let url ← PageAction.quietly (PageTask.poll o.pollInterval limit (urlProbe pattern))
    return .url (← found url
      (timeout s!"timed out after {limit}ms waiting for URL matching '{pattern}'"))
  | .waitForText text limit => do
    let limit := limit.getD o.elementLimit
    let seen ← PageAction.quietly (PageTask.poll o.pollInterval limit (textProbe text))
    found seen (timeout s!"timed out after {limit}ms waiting for text '{text}'")
    return .nothing

/-- Whether an operation needs a page. -/
def needsPage : Operation → Bool
  | .rest _ => false
  | _ => true

end Operation

end ScriptSandbox
