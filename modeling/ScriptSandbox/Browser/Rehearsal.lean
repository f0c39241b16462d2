import ScriptSandbox.Browser.Scene
import ScriptSandbox.Text.Base64
import ScriptSandbox.Text.Contains

/-!
# Rehearsals

A rehearsal answers a scene from lists of cues written beforehand. Each thing that is asked for takes
the next cue of its list; the last cue stays for ever, and an empty list stands for a cue that says
nothing. Each page has lists of its own.
-/

namespace ScriptSandbox

structure Cue where
  /-- How long the answer takes, in milliseconds. -/
  delay : Nat := 0
  error : Option String := none
  value : Option Json := none
  url : Option String := none

/-- What the cues of a page are for. -/
inductive PagePart
  | goto
  | currentUrl
  | ready
  | text
  | visible
  | evaluate
  | click
  | typeText
  | pressEnter
  | close
  | content
  | screenshot
deriving DecidableEq, Repr

namespace PagePart

def ofExpression (expression : String) : PagePart :=
  if expression == PageScript.readyState then .ready
  else if expression == PageScript.bodyText then .text
  else if Text.contains expression "getBoundingClientRect" then .visible
  else .evaluate

def ofCall : PageCall → PagePart
  | .goto _ => .goto
  | .currentUrl => .currentUrl
  | .evaluate e => ofExpression e
  | .click _ => .click
  | .typeText _ _ => .typeText
  | .pressEnter => .pressEnter
  | .close => .close
  | .content => .content
  | .screenshot => .screenshot

/-- What an expression gives where no cue says so. -/
def defaultValue : PagePart → Json
  | .ready => .str "complete"
  | .text => .str ""
  | _ => .bool true

end PagePart

abbrev PageCues := List (PagePart × List Cue)

structure RehearsedPage where
  url : String
  cues : PageCues

/-- An answer on its way. -/
structure Pending where
  task : TaskId
  due : Nat
  cue : Cue

structure Rehearsal where
  launch : List Cue := []
  newPage : List Cue := []
  shutDown : List Cue := []
  /-- The cues that each page begins with. -/
  pageCues : PageCues := []
  pages : List RehearsedPage := []
  pending : List Pending := []

namespace Rehearsal

/-- The next cue of a list, and the list after it. -/
def nextCue : List Cue → Cue × List Cue
  | [] => ({}, [])
  | [c] => (c, [c])
  | c :: cs => (c, cs)

def putCues (part : PagePart) (cues : List Cue) : PageCues → PageCues
  | [] => []
  | (p, old) :: rest => if p = part then (p, cues) :: rest else (p, old) :: putCues part cues rest

def putPage (r : Rehearsal) (page : PageId) (p : RehearsedPage) : Rehearsal :=
  { r with pages := r.pages.set page p }

/-- Takes the cue for a request. -/
def takeCue (r : Rehearsal) : Scene.Request → Cue × Rehearsal
  | .launch _ =>
    let (cue, rest) := nextCue r.launch
    (cue, { r with launch := rest })
  | .shutDown _ =>
    let (cue, rest) := nextCue r.shutDown
    (cue, { r with shutDown := rest })
  | .openPage _ =>
    let (cue, rest) := nextCue r.newPage
    (cue, { r with newPage := rest })
  | .page page c =>
    match r.pages[page]? with
    | none => ({}, r)
    | some p =>
      let part := PagePart.ofCall c
      let (cue, rest) := nextCue ((p.cues.lookup part).getD [])
      (cue, r.putPage page { p with cues := putCues part rest p.cues })
  | .save _ _ => ({}, r)

/-- Takes note of a request that a task has made. -/
def note (r : Rehearsal) (i : TaskId) (now : Nat) (request : Scene.Request) : Rehearsal :=
  let (cue, r) := r.takeCue request
  let others := r.pending.filter (·.task != i)
  { r with pending := { task := i, due := now + cue.delay, cue } :: others }

def pendingOf? (r : Rehearsal) (i : TaskId) : Option Pending := r.pending.find? (·.task == i)

def forget (r : Rehearsal) (i : TaskId) : Rehearsal :=
  { r with pending := r.pending.filter (·.task != i) }

/-! ## Answers -/

def textOf : Json → String
  | .str s => s
  | _ => ""

/-- The eight bytes that every PNG begins with. -/
def smallImage : List UInt8 := [0x89, 0x50, 0x4e, 0x47, 0x0d, 0x0a, 0x1a, 0x0a]

def failing {α : Type} (cue : Cue) (a : α) : Except Failure α :=
  match cue.error with
  | some message => .error (.browser message)
  | none => .ok a

def pageAnswer (r : Rehearsal) (cue : Cue) (page : PageId) (c : PageCall) :
    Except Failure c.Answer :=
  match c with
  | .currentUrl =>
    failing cue (match cue.value with
      | some v => textOf v
      | none => (r.pages[page]?.map RehearsedPage.url).getD "")
  | .content => failing cue ((cue.value.map textOf).getD "<html></html>")
  | .evaluate e => failing cue (cue.value.getD (PagePart.ofExpression e).defaultValue)
  | .screenshot =>
    failing cue (match cue.value with
      | some v => ((Base64.decodeText (textOf v)).toOption).getD []
      | none => smallImage)
  | .goto _ | .click _ | .typeText _ _ | .pressEnter | .close => failing cue ()

def answers (r : Rehearsal) (cue : Cue) : Scene.Answers
  | .launch _ | .openPage _ => failing cue ()
  | .shutDown _ => ()
  | .page page c => r.pageAnswer cue page c
  | .save _ content => .ok content.length

/-- What the browser is like after a request has been answered. -/
def afterAnswer (r : Rehearsal) (cue : Cue) : Scene.Request → Rehearsal
  | .openPage _ =>
    if cue.error.isSome then r
    else
      let page := { url := cue.url.getD PageUrl.blank, cues := r.pageCues }
      { r with pages := r.pages ++ [page] }
  | .page page (.goto url) =>
    match r.pages[page]? with
    | none => r
    | some p =>
      let url := if cue.error.isSome then p.url else url
      r.putPage page { p with url := cue.url.getD url }
  | _ => r

end Rehearsal

end ScriptSandbox
