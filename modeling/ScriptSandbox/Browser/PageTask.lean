import ScriptSandbox.Failure

/-!
# Tasks on a page

A task on a page is a tree: what it asks of the page, and how it goes on with each answer. It says
nothing of when the answers come.
-/

namespace ScriptSandbox

/-- What a page can be asked. -/
inductive PageCall
  | goto (url : String)
  | currentUrl
  | evaluate (expression : String)
  | click (selector : String)
  | typeText (selector text : String)
  | pressEnter
  | content
  | screenshot
  | close
deriving DecidableEq, Repr

/-- What a page answers when it does not fail. -/
abbrev PageCall.Answer : PageCall → Type
  | .currentUrl | .content => String
  | .evaluate _ => Json
  | .screenshot => List UInt8
  | .goto _ | .click _ | .typeText _ _ | .pressEnter | .close => Unit

inductive PageTask (α : Type) : Type
  | done (a : α)
  | call (c : PageCall) (next : Except Failure c.Answer → PageTask α)
  /-- A call that is given up after some milliseconds. -/
  | callWithin (ms : Nat) (c : PageCall) (next : Option (Except Failure c.Answer) → PageTask α)
  | pause (ms : Nat) (next : PageTask α)
  | clock (next : Nat → PageTask α)
  /-- Writes a file and says how large it then is. -/
  | save (path : String) (content : List UInt8) (next : Except Failure Nat → PageTask α)

namespace PageTask

variable {α β : Type}

def bind : PageTask α → (α → PageTask β) → PageTask β
  | .done a, f => f a
  | .call c next, f => .call c fun r => (next r).bind f
  | .callWithin ms c next, f => .callWithin ms c fun r => (next r).bind f
  | .pause ms next, f => .pause ms (next.bind f)
  | .clock next, f => .clock fun now => (next now).bind f
  | .save path content next, f => .save path content fun r => (next r).bind f

instance : Monad PageTask where
  pure := .done
  bind := bind

/-- The answer or the failure of a call, as a value. -/
def attempt (c : PageCall) : PageTask (Except Failure c.Answer) := .call c .done

def attemptWithin (ms : Nat) (c : PageCall) : PageTask (Option (Except Failure c.Answer)) :=
  .callWithin ms c .done

def rest (ms : Nat) : PageTask Unit := .pause ms (.done ())

def now : PageTask Nat := .clock .done

/-- Looks again and again, with a pause between, and looks last when `deadline` has come. -/
def lookUntil (interval deadline : Nat) (probe : PageTask (Option α)) :
    Nat → PageTask (Option α)
  | 0 => .done none
  | rounds + 1 => do
    match ← probe with
    | some a => return some a
    | none =>
      if deadline ≤ (← now) then return none
      rest interval
      lookUntil interval deadline probe rounds

/-- Looks until something is found or `limit` milliseconds have passed. Each pause takes at least a
millisecond, so `limit + 1` looks are enough. -/
def poll (interval limit : Nat) (probe : PageTask (Option α)) : PageTask (Option α) := do
  lookUntil interval ((← now) + limit) probe (limit + 1)

end PageTask

/-- A task on a page that may fail. -/
abbrev PageAction (α : Type) := ExceptT Failure PageTask α

namespace PageAction

/-- A call whose failure ends the task. -/
def ask (c : PageCall) : PageAction c.Answer := ExceptT.mk (PageTask.attempt c)

def fail {α : Type} (f : Failure) : PageAction α := ExceptT.mk (.done (.error f))

/-- A task that cannot fail. -/
def quietly {α : Type} (t : PageTask α) : PageAction α := ExceptT.lift t

/-- A call whose failure is looked at and does not end the task. -/
def attempt (c : PageCall) : PageAction (Except Failure c.Answer) := quietly (PageTask.attempt c)

/-- Writes a file and gives its size. -/
def save (path : String) (content : List UInt8) : PageAction Nat :=
  ExceptT.mk (.save path content .done)

end PageAction

end ScriptSandbox
