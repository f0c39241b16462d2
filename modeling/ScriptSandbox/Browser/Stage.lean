import ScriptSandbox.Browser.Rehearsal
import ScriptSandbox.Files.Path
import ScriptSandbox.Files.Tree

/-!
# Stages

A stage plays a scene with a rehearsal on a clock of whole milliseconds. At each moment the callers
go as far as they can, in order, and then the watches; time passes when nobody can move, up to the
next moment at which somebody can. The images of pages are saved to its files: one counts as saved
only when a file that is not empty stands at its path.
-/

/-! ## Captures on disk -/

namespace ScriptSandbox.Capture

def emptyFile (path : String) : Failure :=
  .browser s!"screenshot file {path} is empty after writing"

def withParents (t : FileTree) (path : String) : FileTree × Except FileError Unit :=
  match Path.parent? path with
  | none => (t, .ok ())
  | some parent => if parent.isEmpty then (t, .ok ()) else t.makeAllDirs parent

/-- Writes an image and gives the size of the file. An empty file is taken away again. -/
def save (t : FileTree) (path : String) (image : List UInt8) : FileTree × Except Failure Nat :=
  let fail (t : FileTree) (e : FileError) : FileTree × Except Failure Nat :=
    (t, .error e.toIo.toFailure)
  match withParents t path with
  | (t, .error e) => fail t e
  | (t, .ok ()) =>
    match t.write path image with
    | .error e => fail t e
    | .ok t =>
      match t.size path with
      | .error e => fail t e
      | .ok 0 => (((t.removeFile path).toOption).getD t, .error (emptyFile path))
      | .ok size => (t, .ok size)

end ScriptSandbox.Capture

/-! ## Stages -/

namespace ScriptSandbox

structure Stage where
  scene : Scene
  rehearsal : Rehearsal := {}
  files : FileTree
  /-- The tasks that run without a caller. -/
  background : List TaskId := []

namespace Stage

def task? (st : Stage) (i : TaskId) : Option Task := st.scene.tasks[i]?

def request? (st : Stage) (i : TaskId) : Option Scene.Request :=
  (st.task? i).bind (Task.request? st.scene.pool.options)

/-- Whether a task has come to its end. -/
def isDone (st : Stage) (i : TaskId) : Bool :=
  match st.task? i with
  | some t => t.isDone
  | none => true

/-- Whether a task has stopped the browser. One that was broken off has not. -/
def hasTornDown (st : Stage) (i : TaskId) : Bool :=
  match st.task? i with
  | some (.teardown .done) => true
  | _ => false

/-- Lets a task move on by itself, and takes note of what it asks for. -/
def stepTask (st : Stage) (i : TaskId) : Option Stage :=
  match st.scene.step i with
  | none => none
  | some scene =>
    let next := { st with scene }
    if scene.asked.length = st.scene.asked.length then some next
    else
      match next.request? i with
      | some r => some { next with rehearsal := next.rehearsal.note i scene.now r }
      | none => some next

def saveFile (st : Stage) (i : TaskId) (path : String) (content : List UInt8) : Stage :=
  let (files, size) := Capture.save st.files path content
  let answers : Scene.Answers := fun r =>
    match r with
    | .save _ _ => size
    | r => st.rehearsal.answers {} r
  { st with files, scene := st.scene.answer i answers }

/-- Gives a task the answer it waits for, if that has come. -/
def answerTask (st : Stage) (i : TaskId) : Option Stage :=
  match st.request? i, st.rehearsal.pendingOf? i with
  | some (.save path content), _ => some (st.saveFile i path content)
  | some r, some p =>
    if p.due ≤ st.scene.now then
      let scene := st.scene.answer i (st.rehearsal.answers p.cue)
      some { st with scene, rehearsal := (st.rehearsal.forget i).afterAnswer p.cue r }
    else none
  | _, _ => none

/-- One move of a task. To be broken off goes before an answer, and an answer before a step. -/
def move (st : Stage) (i : TaskId) : Option Stage :=
  match st.scene.brokenOff i with
  | some scene => some { st with scene }
  | none => (st.answerTask i).orElse fun _ => st.stepTask i

/-- Moves a task as far as it can go, and says whether it moved. -/
def advance (i : TaskId) : Nat → Stage → Stage × Bool
  | 0, st => (st, false)
  | fuel + 1, st =>
    match st.move i with
    | none => (st, false)
    | some st => ((advance i fuel st).1, true)

/-! ## Callers -/

/-- What a caller gets at once, or the task that it then waits for. -/
inductive Begun (α : Type)
  | result (a : α)
  | waiting (i : TaskId)

inductive Caller (α : Type)
  | sleeping (until' : Nat) (start : Stage → Stage × Begun α)
  | begun (b : Begun α)

namespace Caller

variable {α : Type}

def isDone (st : Stage) : Caller α → Bool
  | .sleeping _ _ => false
  | .begun (.result _) => true
  | .begun (.waiting i) => st.isDone i

/-- Moves a caller as far as it can go, and says whether it moved. -/
def advance (fuel : Nat) (st : Stage) : Caller α → Stage × Caller α × Bool
  | .begun (.result a) => (st, .begun (.result a), false)
  | .begun (.waiting i) =>
    let (st, moved) := st.advance i fuel
    (st, .begun (.waiting i), moved)
  | .sleeping u start =>
    if st.scene.now < u then (st, .sleeping u start, false)
    else
      match start st with
      | (st, .result a) => (st, .begun (.result a), true)
      | (st, .waiting i) => ((st.advance i fuel).1, .begun (.waiting i), true)

end Caller

variable {α : Type}

def advanceAll (fuel : Nat) : Stage → List (Caller α) → Stage × List (Caller α) × Bool
  | st, [] => (st, [], false)
  | st, c :: cs =>
    let (st, c, moved) := c.advance fuel st
    let (st, cs, movedLater) := advanceAll fuel st cs
    (st, c :: cs, moved || movedLater)

def advanceBackground (fuel : Nat) (st : Stage) : Stage × Bool :=
  st.background.foldl (fun (st, moved) i =>
    let (st, now) := st.advance i fuel
    (st, moved || now)) (st, false)

def taskTimers (st : Stage) (i : TaskId) : List Nat :=
  let own := ((st.task? i).map (Task.timers st.scene.sessions)).getD []
  let pending := if (st.request? i).isSome then
      ((st.rehearsal.pendingOf? i).map Pending.due).toList
    else []
  own ++ pending

def callerTimers (st : Stage) : Caller α → List Nat
  | .sleeping u _ => [u]
  | .begun (.result _) => []
  | .begun (.waiting i) => st.taskTimers i

/-- The next moment at which somebody can move by the clock. -/
def nextMoment (st : Stage) (callers : List (Caller α)) : Option Nat :=
  let timers := callers.flatMap st.callerTimers ++ st.background.flatMap st.taskTimers
  (timers.filter (st.scene.now < ·)).min?

/-- Plays until all callers have come to their ends, with at most `fuel` rounds. -/
def play : Nat → Stage → List (Caller α) → Stage × List (Caller α)
  | 0, st, callers => (st, callers)
  | fuel + 1, st, callers =>
    let (st, callers, moved) := advanceAll fuel st callers
    if callers.all (·.isDone st) then (st, callers)
    else
      let (st, movedBehind) := st.advanceBackground fuel
      if moved || movedBehind then play fuel st callers
      else
        match st.nextMoment callers with
        | none => (st, callers)
        | some now => play fuel { st with scene := { st.scene with now } } callers

end Stage

end ScriptSandbox
