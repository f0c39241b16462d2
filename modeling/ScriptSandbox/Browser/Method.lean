/-!
# The methods of a session
-/

namespace ScriptSandbox

inductive SessionMethod
  | navigate
  | wait
  | click
  | fill
  | clear
  | submit
  | evaluate
  | getHtml
  | getUrl
  | screenshot
  | waitForUrl
  | waitForText
  | close
deriving DecidableEq, Repr

namespace SessionMethod

def all : List SessionMethod :=
  [.navigate, .wait, .click, .fill, .clear, .submit, .evaluate, .getHtml, .getUrl, .screenshot,
    .waitForUrl, .waitForText, .close]

def name : SessionMethod → String
  | .navigate => "navigate"
  | .wait => "wait"
  | .click => "click"
  | .fill => "fill"
  | .clear => "clear"
  | .submit => "submit"
  | .evaluate => "evaluate"
  | .getHtml => "getHTML"
  | .getUrl => "getURL"
  | .screenshot => "screenshot"
  | .waitForUrl => "waitForURL"
  | .waitForText => "waitForText"
  | .close => "close"

def arity : SessionMethod → Nat
  | .getHtml | .getUrl | .close => 0
  | .fill | .waitForUrl | .waitForText => 2
  | _ => 1

def ofName? (name : String) : Option SessionMethod := all.find? (·.name == name)

end SessionMethod

end ScriptSandbox
