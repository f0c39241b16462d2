import ScriptSandbox.Browser.Method
import ScriptSandbox.Browser.Page
import ScriptSandbox.Browser.WaitTarget
import ScriptSandbox.Url.Basic
import ScriptSandbox.Url.Parser

/-!
# Operations of a session

An operation is what a session is asked to do, with arguments that have been looked at. The address
of a navigation is in its written form, no selector is blank, and no pattern or text is empty.
-/

namespace ScriptSandbox

inductive Operation
  | navigate (url : String)
  | rest (milliseconds : Nat)
  | waitFor (selector : String)
  | click (selector : String)
  | fill (selector text : String)
  | clear (selector : String)
  | submit (selector : Option String)
  | evaluate (code : String)
  | getHtml
  | getUrl
  | screenshot (path : String)
  | waitForUrl (pattern : String) (limit : Option Nat)
  | waitForText (text : String) (limit : Option Nat)
deriving DecidableEq, Repr

structure Navigation where
  url : String
  /-- Whether the browser reported an error and has loaded a page all the same. -/
  partly : Bool
  warning : Option String := none
deriving DecidableEq, Repr

/-- What an operation gives back. -/
inductive Report
  | nothing
  | navigated (n : Navigation)
  | value (j : Json)
  | html (text : String)
  | url (text : String)
  | saved (path : String) (size : Nat)

namespace Operation

/-! ## Checked operations -/

def selectorOf (selector : String) : Except Failure String :=
  if Text.isBlankText selector then .error (.invalidInput "selector must not be empty")
  else .ok selector

def urlOf (text : String) : Except Failure String :=
  let text := Text.trim text
  if text.isEmpty then .error (.invalidInput "navigate() needs a URL")
  else
    match Url.parse text with
    | .ok url => .ok url.toText
    | .error fault => .error (.invalidInput s!"invalid URL '{text}': {fault.message}")

def navigateTo (url : String) : Except Failure Operation := (urlOf url).map .navigate

/-- Nanoseconds are rounded up to milliseconds. -/
def waitOn : WaitTarget → Operation
  | .selector s => .waitFor s
  | .seconds x => .rest (((WaitTarget.nanoseconds? x).getD 0 + 999999) / 1000000)

def clickOn (selector : String) : Except Failure Operation := (selectorOf selector).map .click

def fillWith (selector text : String) : Except Failure Operation :=
  (selectorOf selector).map (.fill · text)

def clearOf (selector : String) : Except Failure Operation := (selectorOf selector).map .clear

def submitOf : Option String → Except Failure Operation
  | none => .ok (.submit none)
  | some selector => (selectorOf selector).map fun s => .submit (some s)

def evaluateCode (code : String) : Except Failure Operation :=
  if Text.isBlankText code then .error (.invalidInput "evaluate() needs code to run")
  else .ok (.evaluate code)

def screenshotTo (path : String) : Except Failure Operation :=
  if path.isEmpty then .error (.invalidInput "screenshot() needs a file path")
  else .ok (.screenshot path)

def urlMatching (pattern : String) (limit : Option Nat) : Except Failure Operation :=
  if pattern.isEmpty then .error (.invalidInput "waitForURL() needs a pattern")
  else .ok (.waitForUrl pattern limit)

def textShown (text : String) (limit : Option Nat) : Except Failure Operation :=
  if text.isEmpty then .error (.invalidInput "waitForText() needs text")
  else .ok (.waitForText text limit)

end Operation

/-- A call of a session, with arguments that nobody has looked at yet. -/
inductive SessionCall
  | navigate (url : String)
  | wait (target : WaitTarget)
  | click (selector : String)
  | fill (selector text : String)
  | clear (selector : String)
  | submit (selector : Option String)
  | evaluate (code : String)
  | getHtml
  | getUrl
  | screenshot (path : String)
  | waitForUrl (pattern : String) (limit : Option Nat)
  | waitForText (text : String) (limit : Option Nat)
deriving DecidableEq, Repr

namespace SessionCall

/-- Whether a call finds out that its session is open before it looks at its arguments. The others
have none that could be faulty. -/
def looksFirst : SessionCall → Bool
  | .wait _ | .getHtml | .getUrl => false
  | _ => true

/-- The operation that a call stands for, where its arguments are in order. -/
def operation : SessionCall → Except Failure Operation
  | .navigate url => Operation.navigateTo url
  | .wait target => .ok (Operation.waitOn target)
  | .click selector => Operation.clickOn selector
  | .fill selector text => Operation.fillWith selector text
  | .clear selector => Operation.clearOf selector
  | .submit selector => Operation.submitOf selector
  | .evaluate code => Operation.evaluateCode code
  | .getHtml => .ok .getHtml
  | .getUrl => .ok .getUrl
  | .screenshot path => Operation.screenshotTo path
  | .waitForUrl pattern limit => Operation.urlMatching pattern limit
  | .waitForText text limit => Operation.textShown text limit

/-- The call that a script asks for, and `none` when it asks to close the session. -/
def ofMethod (m : SessionMethod) (args : Arguments) : Except Failure (Option SessionCall) :=
  match m with
  | .navigate => return some (.navigate (← args.requireText 0 "url"))
  | .wait => return some (.wait (← WaitTarget.ofJson (args.get 0)))
  | .click => return some (.click (← args.requireText 0 "selector"))
  | .fill => do
    let selector ← args.requireText 0 "selector"
    return some (.fill selector (← args.requireAnyText 1 "text"))
  | .clear => return some (.clear (← args.requireText 0 "selector"))
  | .submit => return some (.submit (args.optionalText 0))
  | .evaluate => return some (.evaluate (← args.requireText 0 "code"))
  | .getHtml => return some .getHtml
  | .getUrl => return some .getUrl
  | .screenshot => return some (.screenshot (← args.requireText 0 "path"))
  | .waitForUrl => do
    let pattern ← args.requireText 0 "pattern"
    return some (.waitForUrl pattern (← args.optionalCount 1 "timeout"))
  | .waitForText => do
    let text ← args.requireText 0 "text"
    return some (.waitForText text (← args.optionalCount 1 "timeout"))
  | .close => return none

end SessionCall

/-- The operation that a script asks for, and `none` when it asks to close the session. -/
def Operation.ofMethod (m : SessionMethod) (args : Arguments) :
    Except Failure (Option Operation) := do
  match ← SessionCall.ofMethod m args with
  | some c => return some (← c.operation)
  | none => return none

namespace Report

/-- The fields that a script finds beside `success`. -/
def fields : Report → List (String × Json)
  | .nothing => []
  | .navigated n =>
    [("url", .str n.url), ("partial", .bool n.partly)] ++
      (n.warning.map fun w => ("warning", Json.str w)).toList
  | .value j => [("result", j)]
  | .html text => [("html", .str text)]
  | .url text => [("url", .str text)]
  | .saved path size => [("path", .str path), ("bytes", .nat size)]

end Report

end ScriptSandbox
