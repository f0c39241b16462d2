import ScriptSandbox.Browser.Stage
import ScriptSandbox.Proofs.Browser.OperationMoves
import ScriptSandbox.Proofs.Files.Links

/-!
# Screenshots

A screenshot asks the page for an image and saves it. An image is saved in steps, and after each of
them the save may be over (`Capture.Saves`). Only the last step is a success: then the file has the
size that is told, and if it is a regular file it holds the image. A file that takes nothing in is
taken away again, and the path leads nowhere then.

On a stage a screenshot touches the files in one move only, in which it saves an image that is not
empty (`Screenshot.At`, `Screenshot.At.of_operationStep`); so what is on disk when it is over, and
what it ends with, are settled by the image it got (`Stage.screenshot_saved`).
-/

/-! ## What becomes of an image -/

namespace ScriptSandbox.Capture

open FileTree

variable {t t₁ t₂ : FileTree} {path : String} {image : Bytes}

theorem emptyFile_code (path : String) : (emptyFile path).code = .browser := rfl

/-- The ways a save can end, each with what is then on disk. -/
inductive Saves (t : FileTree) (path : String) (image : Bytes) :
    FileTree × Except Failure Nat → Prop
  | noParents {t₁ : FileTree} {e : FileError} (h : withParents t path = (t₁, .error e)) :
      Saves t path image (t₁, .error e.toIo.toFailure)
  | unwritten {t₁ : FileTree} {e : FileError} (h : withParents t path = (t₁, .ok ()))
      (hwrite : t₁.write path image = .error e) :
      Saves t path image (t₁, .error e.toIo.toFailure)
  | empty {t₁ t₂ t₃ : FileTree} (h : withParents t path = (t₁, .ok ()))
      (hwrite : t₁.write path image = .ok t₂) (hsize : t₂.size path = .ok 0)
      (hgone : ∀ e, t₃.stat path ≠ .ok e) :
      Saves t path image (t₃, .error (emptyFile path))
  | saved {t₁ t₂ : FileTree} {size : Nat} (h : withParents t path = (t₁, .ok ()))
      (hwrite : t₁.write path image = .ok t₂) (hsize : t₂.size path = .ok size)
      (hpos : 0 < size)
      (hcontent : ∀ content, t₂.stat path = .ok (.file content) → content = image) :
      Saves t path image (t₂, .ok size)

theorem saves (t : FileTree) (path : String) (image : Bytes) :
    Saves t path image (save t path image) := by
  unfold save
  rcases hparents : withParents t path with ⟨t₁, e | _⟩
  · exact .noParents hparents
  · dsimp only
    cases hwrite : t₁.write path image with
    | error e => exact .unwritten hparents hwrite
    | ok t₂ =>
      obtain ⟨e, hstat, hdir, hfile⟩ := stat_of_write hwrite
      have hsize : t₂.size path = .ok e.size := by
        rw [size, hstat]
        rfl
      simp only [hsize]
      cases hentry : e.size with
      | zero =>
        obtain ⟨t₃, hremove, hgone⟩ := removeFile_of_stat hstat hdir
        rw [hentry] at hsize
        rw [hremove]
        exact .empty hparents hwrite hsize hgone
      | succ n =>
        rw [hentry] at hsize
        refine .saved hparents hwrite hsize (Nat.succ_pos n) fun content h => ?_
        exact hfile content (Except.ok.inj (hstat.symm.trans h))

/-- An image that is not empty is saved where a file can be. -/
theorem save_of_takesFile {p : Place} {k : Location} {old : Bytes}
    (hparents : withParents t path = (t₁, .ok ())) (hresolve : t₁.resolve path true = .ok p)
    (hp : TakesFile k p old) (hslash : (Route.ofPath path).directory = false)
    (himage : image ≠ []) :
    save t path image = (t₁.set k (.file image), .ok image.length) := by
  obtain ⟨hwrite, hstat⟩ := write_of_takesFile hresolve hp hslash image
  have hsize : (t₁.set k (.file image)).size path = .ok image.length := by
    rw [size, hstat]
    rfl
  unfold save
  simp only [hparents, hwrite, hsize]
  cases image with
  | nil => exact absurd rfl himage
  | cons b image => rfl

end ScriptSandbox.Capture

/-! ## Screenshots -/

namespace ScriptSandbox

namespace Screenshot

/-! ## The work -/

/-- What is left when the image has been saved. -/
def afterSave (path : String) (size : Except Failure Nat) : Rest := .done (size.map (.saved path ·))

/-- What is left when the page has answered. -/
def afterCapture (path : String) : Except Failure Bytes → Rest
  | .error f => .done (.error f)
  | .ok image =>
    if image.isEmpty then .done (.error (.browser "screenshot capture returned no data"))
    else .save path image (afterSave path)

theorem work_eq (path : String) (o : SessionOptions) :
    ((Operation.screenshot path).work o).run = .call .screenshot (afterCapture path) := by
  show PageTask.call .screenshot _ = _
  congr 1
  funext r
  rcases r with f | image
  · rfl
  · unfold afterCapture
    cases image with
    | nil => rfl
    | cons b image =>
      show PageTask.save path _ _ = _
      congr 1
      funext size
      cases size <;> rfl

end Screenshot

/-! ## Moves on a stage -/

namespace Stage

variable {st st' : Stage} {i : TaskId} {s : SessionId} {p : Progress}

/-- What a screenshot has to do with the world outside. -/
inductive Deed
  /-- The page gave an image, or failed to. -/
  | captured (image : Except Failure Bytes)
  /-- An image went to the files. -/
  | wrote (path : String) (image : Bytes)

/-- What the answer to an operation is to it: an image, if that is what it waits for. -/
def imageFor (answers : Scene.Answers) : Progress → List Deed
  | .asking page .screenshot _ => [.captured (answers (.page page .screenshot))]
  | _ => []

/-- What a task does in the move that it makes next. -/
def deeds (st : Stage) (i : TaskId) : List Deed :=
  match st.scene.brokenOff i, st.task? i with
  | none, some (.operation _ (.saving _ path image _)) => [.wrote path image]
  | none, some (.operation _ p) =>
    match st.rehearsal.pendingOf? i with
    | some pending =>
      if pending.due ≤ st.scene.now then imageFor (st.rehearsal.answers pending.cue) p else []
    | none => []
  | _, _ => []

/-- What a move of an operation does: its deeds, the files behind it, and the scene. -/
inductive OperationStep (st : Stage) (s : SessionId) (i : TaskId) (p : Progress) :
    List Deed → FileTree → Scene → Prop
  | broken {w : Scene} (h : st.scene.interrupted s i p = some w) :
      OperationStep st s i p [] st.files w
  | saved {page : Option PageId} {path : String} {image : Bytes}
      {next : Except Failure Nat → Rest} (hp : p = .saving page path image next) :
      OperationStep st s i p [.wrote path image] (Capture.save st.files path image).1
        (st.scene.put i
          (.operation s (.acting page (next (Capture.save st.files path image).2))))
  | answered (answers : Scene.Answers) (h : st.scene.interrupted s i p = none)
      (hp : ∀ page path image next, p ≠ .saving page path image next) :
      OperationStep st s i p (imageFor answers p) st.files
        (st.scene.answerOperation s i p answers)
  | stepped {w : Scene} (h : st.scene.interrupted s i p = none)
      (hstep : st.scene.stepOperation s i p = some w) : OperationStep st s i p [] st.files w

theorem eq_saving_of_request {o : LaunchOptions} {path : String} {image : Bytes}
    (h : (Task.operation s p).request? o = some (.save path image)) :
    ∃ page next, p = .saving page path image next := by
  cases p with
  | saving page path' image' next =>
    obtain ⟨rfl, rfl⟩ := Scene.Request.save.inj (Option.some.inj h)
    exact ⟨page, next, rfl⟩
  | acquiring op a => cases a <;> exact nomatch h
  | queued | opening | acting | asking | askingUntil | pausing | done => exact nomatch h

theorem brokenOff_eq (hi : st.task? i = some (.operation s p)) :
    st.scene.brokenOff i = st.scene.interrupted s i p := by
  unfold Scene.brokenOff
  rw [show st.scene.tasks[i]? = some (.operation s p) from hi]

theorem deeds_of_broken (h : st.scene.brokenOff i ≠ none) : st.deeds i = [] := by
  unfold deeds
  split
  · exact absurd ‹_› h
  · exact absurd ‹_› h
  · rfl

theorem deeds_of_saving {page : Option PageId} {path : String} {image : Bytes}
    {next : Except Failure Nat → Rest}
    (hi : st.task? i = some (.operation s (.saving page path image next)))
    (hint : st.scene.interrupted s i (.saving page path image next) = none) :
    st.deeds i = [.wrote path image] := by
  unfold deeds
  rw [brokenOff_eq hi, hint, hi]

theorem deeds_of_not_saving (hi : st.task? i = some (.operation s p))
    (hint : st.scene.interrupted s i p = none)
    (hp : ∀ page path image next, p ≠ .saving page path image next) :
    st.deeds i = match st.rehearsal.pendingOf? i with
      | some pending =>
        if pending.due ≤ st.scene.now then imageFor (st.rehearsal.answers pending.cue) p else []
      | none => [] := by
  unfold deeds
  rw [brokenOff_eq hi, hint, hi]
  cases p with
  | saving page path image next => exact absurd rfl (hp page path image next)
  | _ => rfl

/-- A move of an operation that is no answer is no deed. -/
theorem deeds_of_unanswered (hi : st.task? i = some (.operation s p))
    (hint : st.scene.interrupted s i p = none) (h : st.answerTask i = none) :
    st.deeds i = [] := by
  unfold answerTask request? at h
  rw [hi] at h
  have hp : ∀ page path image next, p ≠ .saving page path image next := by
    rintro page path image next rfl
    simp [Task.request?] at h
  rw [deeds_of_not_saving hi hint hp]
  cases hpending : st.rehearsal.pendingOf? i with
  | none => rfl
  | some pending =>
    dsimp only
    split
    · rename_i hdue
      rw [hpending] at h
      cases p with
      | asking page c next =>
        cases c with
        | screenshot => simp [Task.request?, hdue] at h
        | _ => rfl
      | _ => rfl
    · rfl

theorem answer_eq (hi : st.task? i = some (.operation s p)) (answers : Scene.Answers) :
    st.scene.answer i answers = st.scene.answerOperation s i p answers := by
  unfold Scene.answer
  rw [show st.scene.tasks[i]? = some (.operation s p) from hi]

theorem operationStep_of_answer (hi : st.task? i = some (.operation s p))
    (hint : st.scene.interrupted s i p = none) (h : st.answerTask i = some st') :
    st.OperationStep s i p (st.deeds i) st'.files st'.scene := by
  unfold answerTask request? at h
  rw [hi, Option.bind_some] at h
  split at h
  · rename_i path image hrequest
    obtain ⟨page, next, rfl⟩ := eq_saving_of_request hrequest
    obtain rfl := Option.some.inj h
    have hscene : (st.saveFile i path image).scene = st.scene.put i (.operation s
        (.acting page (next (Capture.save st.files path image).2))) := by
      unfold saveFile
      dsimp only
      rw [answer_eq hi, Scene.answerOperation, hint]
    rw [deeds_of_saving hi hint, hscene]
    exact .saved rfl
  · rename_i r pending hother hrequest hpending
    split at h
    · rename_i hdue
      obtain rfl := Option.some.inj h
      have hp : ∀ page path image next, p ≠ .saving page path image next := by
        rintro page path image next rfl
        exact hother path image (Option.some.inj hrequest).symm
      rw [deeds_of_not_saving hi hint hp, hpending]
      dsimp only
      rw [if_pos hdue, answer_eq hi]
      exact .answered _ hint hp
    · exact nomatch h
  · exact nomatch h

theorem operationStep_of_step (hi : st.task? i = some (.operation s p))
    (hint : st.scene.interrupted s i p = none) (hdeeds : st.deeds i = [])
    (h : st.stepTask i = some st') :
    st.OperationStep s i p (st.deeds i) st'.files st'.scene := by
  rw [hdeeds]
  unfold stepTask Scene.step at h
  rw [show st.scene.tasks[i]? = some (.operation s p) from hi] at h
  dsimp only at h
  split at h
  · exact nomatch h
  · rename_i w hstep
    split at h
    · obtain rfl := Option.some.inj h
      exact .stepped hint hstep
    · split at h <;> obtain rfl := Option.some.inj h
      all_goals exact .stepped hint hstep

theorem operationStep_of_move (hi : st.task? i = some (.operation s p))
    (h : st.move i = some st') :
    st.OperationStep s i p (st.deeds i) st'.files st'.scene := by
  unfold move at h
  cases hint : st.scene.interrupted s i p with
  | some w =>
    rw [deeds_of_broken (by simp [brokenOff_eq hi, hint])]
    rw [brokenOff_eq hi, hint] at h
    obtain rfl := Option.some.inj h
    exact .broken hint
  | none =>
    rw [brokenOff_eq hi, hint] at h
    cases ha : st.answerTask i with
    | some st₁ =>
      rw [ha] at h
      obtain rfl : st₁ = st' := Option.some.inj h
      exact operationStep_of_answer hi hint ha
    | none =>
      rw [ha] at h
      exact operationStep_of_step hi hint (deeds_of_unanswered hi hint ha) h

end Stage

/-! ## The course of a screenshot -/

namespace Screenshot

/-- The ends of a screenshot that did this: what is on disk then, and what the screenshot gives. -/
inductive Outcome (before : FileTree) (path : String) :
    List Stage.Deed → FileTree → Except Failure Report → Prop
  | unasked (f : Failure) : Outcome before path [] before (.error f)
  | failed (e f : Failure) : Outcome before path [.captured (.error e)] before (.error f)
  | blank (f : Failure) : Outcome before path [.captured (.ok [])] before (.error f)
  /-- It was broken off before anything was written. -/
  | broken (image : Bytes) (f : Failure) :
      Outcome before path [.captured (.ok image)] before (.error f)
  | saved {image : Bytes} (h : image ≠ []) :
      Outcome before path [.captured (.ok image), .wrote path image]
        (Capture.save before path image).1
        ((Capture.save before path image).2.map (.saved path ·))

/-- The places of a screenshot, with its deeds so far and what is on disk. -/
inductive At (before : FileTree) (path : String) :
    List Stage.Deed → FileTree → Progress → Prop
  | queued : At before path [] before (.queued (.screenshot path))
  | acquiring (a : Acquire) : At before path [] before (.acquiring (.screenshot path) a)
  | opening (process : ProcessId) :
      At before path [] before (.opening (.screenshot path) process)
  | begun (page : PageId) :
      At before path [] before (.acting (some page) (.call .screenshot (afterCapture path)))
  | asking (page : PageId) :
      At before path [] before (.asking page .screenshot (afterCapture path))
  | heard (page : Option PageId) (r : Except Failure Bytes) :
      At before path [.captured r] before (.acting page (afterCapture path r))
  | saving (page : Option PageId) {image : Bytes} (h : image ≠ []) :
      At before path [.captured (.ok image)] before (.saving page path image (afterSave path))
  | saved (page : Option PageId) {image : Bytes} (h : image ≠ []) :
      At before path [.captured (.ok image), .wrote path image]
        (Capture.save before path image).1
        (.acting page (afterSave path (Capture.save before path image).2))
  | done {log : List Stage.Deed} {files : FileTree} {r : Except Failure Report}
      (h : Outcome before path log files r) : At before path log files (.done r)

variable {before files : FileTree} {path : String} {log : List Stage.Deed} {p : Progress}
  {w w' : Scene} {s : SessionId} {i : TaskId}

/-- A screenshot that waits has written nothing yet. -/
theorem At.outcome_of_waits (h : At before path log files p) (hw : p.waits = true)
    (f : Failure) : Outcome before path log files (.error f) := by
  cases h with
  | queued | acquiring | opening | asking => exact .unasked f
  | saving => exact .broken _ f
  | begun | heard | saved | done => exact nomatch hw

/-- The task is an operation that is at such a place. -/
def Stands (before : FileTree) (path : String) (log : List Stage.Deed)
    (files : FileTree) (w : Scene) (s : SessionId) (i : TaskId) : Prop :=
  ∃ p, w.tasks[i]? = some (.operation s p) ∧ At before path log files p

theorem stands_of_set {t : Task} (hi : w.tasks[i]? = some t)
    (htasks : w'.tasks = w.tasks.set i (.operation s p)) (h : At before path log files p) :
    Stands before path log files w' s i := by
  refine ⟨p, ?_, h⟩
  rw [htasks, List.getElem?_set_self (Scene.lt_length_of_getElem? hi)]

theorem stands_of_finish {t : Task} (hi : w.tasks[i]? = some t) {r : Except Failure Report}
    (h : Outcome before path log files r) :
    Stands before path log files (w.finish s i r) s i :=
  stands_of_set hi (by simp) (.done h)

/-- The turn of a screenshot has come: it goes for a page, or it has one. -/
theorem stands_beginWork {t : Task} (hi : w.tasks[i]? = some t) (session : Session) :
    Stands before path [] before (w.beginWork s i session (.screenshot path)) s i := by
  unfold Scene.beginWork
  cases session.page with
  | none => exact stands_of_set hi rfl (.acquiring _)
  | some page =>
    dsimp only [Operation.needsPage]
    rw [work_eq]
    exact stands_of_set hi rfl (.begun page)

theorem stands_act_heard {t : Task} (hi : w.tasks[i]? = some t) (page : Option PageId)
    (r : Except Failure Bytes) :
    Stands before path [.captured r] before (w.act s i page (afterCapture path r)) s i := by
  cases r with
  | error f => exact stands_of_finish hi (.failed f f)
  | ok image =>
    cases image with
    | nil => exact stands_of_finish hi (.blank _)
    | cons b image => exact stands_of_set hi rfl (.saving page (by simp))

theorem stands_of_queuedMove (hi : w.tasks[i]? = some (.operation s (.queued (.screenshot path))))
    (h : w.OperationMove s i (.queued (.screenshot path)) w') :
    Stands before path [] before w' s i := by
  cases h with
  | broken | refused => exact stands_of_finish (by simpa using hi) (.unasked _)
  | turned op session => exact stands_beginWork hi session

theorem stands_of_acquiringMove {a : Acquire}
    (hi : w.tasks[i]? = some (.operation s (.acquiring (.screenshot path) a)))
    (h : w.OperationMove s i (.acquiring (.screenshot path) a) w') :
    Stands before path [] before w' s i := by
  cases h with
  | broken => exact stands_of_finish (by simpa using hi) (.unasked _)
  | acquiring op a m => exact stands_of_set hi (by simp) (.acquiring m.place)
  | unacquired => exact stands_of_finish hi (.unasked _)
  | acquired op process => exact stands_of_set hi rfl (.opening process)

theorem stands_of_openingMove {process : ProcessId}
    (hi : w.tasks[i]? = some (.operation s (.opening (.screenshot path) process)))
    (h : w.OperationMove s i (.opening (.screenshot path) process) w') :
    Stands before path [] before w' s i := by
  cases h with
  | broken => exact stands_of_finish (by simpa using hi) (.unasked _)
  | unopened => exact stands_of_finish hi (.unasked _)
  | opened op process session =>
    rw [work_eq]
    exact stands_of_set hi (by simp) (.begun w.pages)
  | lost => exact ⟨_, by simpa using hi, .opening process⟩

/-- A step that a screenshot makes by itself gets no image and writes nothing. -/
theorem At.of_step (h : At before path log files p)
    (hi : w.tasks[i]? = some (.operation s p)) (hint : w.interrupted s i p = none)
    (hstep : w.stepOperation s i p = some w') : Stands before path log files w' s i := by
  cases h with
  | queued => exact stands_of_queuedMove hi (Scene.operationMove_of_step hstep)
  | acquiring => exact stands_of_acquiringMove hi (Scene.operationMove_of_step hstep)
  | begun page =>
    simp only [Scene.stepOperation, hint] at hstep
    obtain rfl := Option.some.inj hstep
    exact stands_of_set hi rfl (.asking page)
  | heard page r =>
    simp only [Scene.stepOperation, hint] at hstep
    obtain rfl := Option.some.inj hstep
    exact stands_act_heard hi page r
  | saved page himage =>
    simp only [Scene.stepOperation, hint] at hstep
    obtain rfl := Option.some.inj hstep
    exact stands_of_finish hi (.saved himage)
  | opening | asking | saving | done => simp [Scene.stepOperation, hint] at hstep

/-- An answer gives a screenshot the image that it asked for, or lets it go on to ask. -/
theorem At.of_answer (h : At before path log files p)
    (hi : w.tasks[i]? = some (.operation s p)) (hint : w.interrupted s i p = none)
    (hp : ∀ page path image next, p ≠ .saving page path image next) (answers : Scene.Answers) :
    Stands before path (log ++ Stage.imageFor answers p) files
      (w.answerOperation s i p answers) s i := by
  have hstays : Stands before path log files w s i := ⟨p, hi, h⟩
  cases h with
  | asking page =>
    simp only [Scene.answerOperation, hint]
    exact stands_of_set hi rfl (.heard _ _)
  | acquiring a =>
    rcases Scene.operationMove_of_answer answers with hsame | hmove
    · rwa [hsame]
    · exact stands_of_acquiringMove hi hmove
  | opening process =>
    rcases Scene.operationMove_of_answer answers with hsame | hmove
    · rwa [hsame]
    · exact stands_of_openingMove hi hmove
  | saving page => exact absurd rfl (hp _ _ _ _)
  -- Here nothing has been asked for.
  | queued | begun | heard | saved | done =>
    simpa only [Scene.answerOperation, hint, Stage.imageFor, List.append_nil] using hstays

theorem At.of_saving {page : Option PageId} {path' : String} {image : Bytes}
    {next : Except Failure Nat → Rest}
    (h : At before path log files (.saving page path' image next))
    (hi : w.tasks[i]? = some (.operation s (.saving page path' image next))) :
    Stands before path (log ++ [.wrote path' image]) (Capture.save files path' image).1
      (w.put i (.operation s (.acting page (next (Capture.save files path' image).2)))) s i := by
  cases h with
  | saving page himage => exact stands_of_set hi rfl (.saved page himage)

/-- Every move of a screenshot leads to another of its places. -/
theorem At.of_operationStep {st : Stage} {did : List Stage.Deed}
    (h : At before path log st.files p) (hi : st.task? i = some (.operation s p))
    (hstep : st.OperationStep s i p did files w) :
    Stands before path (log ++ did) files w s i := by
  cases hstep with
  | broken hint =>
    obtain ⟨hw, session, session', f, -, -, rfl⟩ := Scene.interrupted_eq_some hint
    rw [List.append_nil]
    have hi' : st.scene.tasks[i]? = some (.operation s p) := hi
    exact stands_of_finish (by simpa using hi') (h.outcome_of_waits hw f)
  | saved hp =>
    subst hp
    exact h.of_saving hi
  | answered answers hint hp => exact h.of_answer hi hint hp answers
  | stepped hint hstep =>
    rw [List.append_nil]
    exact h.of_step hi hint hstep

end Screenshot

/-! ## Whole screenshots -/

namespace Stage

/-- The stage on which a call of a session has begun, and its task. -/
def beginCall (st : Stage) (s : SessionId) (c : SessionCall) : Stage × TaskId :=
  let (scene, i) := st.scene.beginCall s c
  ({ st with scene }, i)

/-- From one stage to the other a task does these deeds. In between anything else may go on that
leaves the task and the files alone. -/
inductive Plays (i : TaskId) : Stage → List Deed → Stage → Prop
  | refl (st : Stage) : Plays i st [] st
  | own {st st₁ st₂ : Stage} {log : List Deed} (h : st.move i = some st₁)
      (hrest : Plays i st₁ log st₂) : Plays i st (st.deeds i ++ log) st₂
  | other {st st₁ st₂ : Stage} {log : List Deed} (htask : st₁.task? i = st.task? i)
      (hfiles : st₁.files = st.files) (hrest : Plays i st₁ log st₂) : Plays i st log st₂

theorem Plays.of_move {st st₁ st₂ : Stage} {i : TaskId} {log : List Deed} (did : List Deed)
    (h : st.move i = some st₁) (hdid : st.deeds i = did) (hrest : st₁.Plays i log st₂) :
    st.Plays i (did ++ log) st₂ :=
  hdid ▸ .own h hrest

end Stage

namespace Screenshot

variable {before : FileTree} {path : String} {log : List Stage.Deed} {w : Scene} {s : SessionId}
  {i : TaskId} {st st' : Stage}

theorem stands_refuse (f : Failure) :
    Stands before path [] before (w.refuse s f).1 s (w.refuse s f).2 :=
  ⟨_, by simp [Scene.refuse, Scene.start], .done (.unasked f)⟩

theorem stands_enter :
    Stands before path [] before (w.enter s (.screenshot path)).1 s
      (w.enter s (.screenshot path)).2 := by
  unfold Scene.enter
  split
  · exact stands_refuse _
  · exact ⟨_, by simp [Scene.start], .queued⟩

theorem stands_beginCall :
    Stands before path [] before (w.beginCall s (.screenshot path)).1 s
      (w.beginCall s (.screenshot path)).2 := by
  rw [Scene.beginCall, if_pos (by rfl)]
  unfold Scene.beginOperation
  rcases w.ensureOpen s with ⟨w₁, f | _⟩
  · exact stands_refuse f
  · cases hop : (SessionCall.screenshot path).operation with
    | error f => exact stands_refuse f
    | ok op =>
      obtain rfl : op = .screenshot path := by
        simp only [SessionCall.operation, Operation.screenshotTo] at hop
        split at hop
        · exact nomatch hop
        · exact (Except.ok.inj hop).symm
      exact stands_enter

/-- Whatever goes on meanwhile, a screenshot is at one of its places. -/
theorem Stands.of_plays {did : List Stage.Deed} (hplays : st.Plays i log st')
    (h : Stands before path did st.files st.scene s i) :
    Stands before path (did ++ log) st'.files st'.scene s i := by
  induction hplays generalizing did with
  | refl => rwa [List.append_nil]
  | own hmove _ ih =>
    obtain ⟨p, hi, hat⟩ := h
    rw [← List.append_assoc]
    exact ih (hat.of_operationStep hi (Stage.operationStep_of_move hi hmove))
  | other htask hfiles _ ih =>
    obtain ⟨p, hi, hat⟩ := h
    exact ih ⟨p, htask.trans hi, hfiles ▸ hat⟩

theorem outcome_of_stands {r : Except Failure Report}
    (h : Stands before path log st.files st.scene s i)
    (hdone : st.task? i = some (.operation s (.done r))) :
    Outcome before path log st.files r := by
  obtain ⟨p, hi, hat⟩ := h
  have hp : p = .done r := by
    have := Option.some.inj (hi.symm.trans hdone)
    injection this
  subst hp
  generalize st.files = files at hat ⊢
  cases hat with
  | done hend => exact hend

section Outcomes

variable {files : FileTree} {r : Except Failure Report}

theorem Outcome.of_ok {report : Report} (h : Outcome before path log files (.ok report)) :
    ∃ image size, log = [.captured (.ok image), .wrote path image] ∧
      report = .saved path size ∧ 0 < size ∧ files.size path = .ok size ∧
      ∀ content, files.stat path = .ok (.file content) → content = image := by
  generalize hr : Except.ok report = r at h
  cases h with
  | unasked | failed | blank | broken => exact nomatch hr
  | @saved image himage =>
    have hsaves := Capture.saves before path image
    generalize Capture.save before path image = result at hr hsaves
    cases hsaves with
    | noParents | unwritten | empty => exact nomatch hr
    | @saved _ _ size _ _ hsize hpos hcontent =>
      exact ⟨image, size, rfl, Except.ok.inj hr, hpos, hsize, hcontent⟩

theorem Outcome.of_no_image (h : Outcome before path log files r)
    (hlog : ∀ image, .captured (.ok image) ∈ log → image = []) :
    files = before ∧ ∃ f, r = .error f := by
  cases h with
  | unasked f | failed _ f | blank f | broken _ f => exact ⟨rfl, f, rfl⟩
  | saved himage => exact absurd (hlog _ (List.mem_cons_self ..)) himage

/-- When the file that was written is empty, the screenshot fails and the path leads nowhere. -/
theorem Outcome.of_empty {image : Bytes} {t₁ t₂ : FileTree} (h : Outcome before path log files r)
    (hwrote : .wrote path image ∈ log) (hparents : Capture.withParents before path = (t₁, .ok ()))
    (hwrite : t₁.write path image = .ok t₂) (hsize : t₂.size path = .ok 0) :
    r = .error (Capture.emptyFile path) ∧ ∀ e, files.stat path ≠ .ok e := by
  cases h with
  | unasked | failed | blank | broken => simp at hwrote
  | @saved image' himage =>
    obtain rfl : image = image' := by simpa using hwrote
    have hsaves := Capture.saves before path image
    generalize Capture.save before path image = result at hsaves
    cases hsaves with
    | noParents h => exact nomatch hparents.symm.trans h
    | unwritten h hfailed =>
      obtain ⟨rfl, -⟩ := Prod.mk.inj (hparents.symm.trans h)
      exact nomatch hwrite.symm.trans hfailed
    | empty _ _ _ hgone => exact ⟨rfl, hgone⟩
    | saved h hwrite' hsize' hpos =>
      obtain ⟨rfl, -⟩ := Prod.mk.inj (hparents.symm.trans h)
      obtain rfl := Except.ok.inj (hwrite.symm.trans hwrite')
      obtain rfl := Except.ok.inj (hsize.symm.trans hsize')
      exact absurd hpos (Nat.lt_irrefl 0)

end Outcomes

end Screenshot

namespace Stage

variable {st st' : Stage} {s : SessionId} {path : String} {log : List Deed}

/-- **A screenshot that succeeds is a real file.** Whatever the files are and whatever else goes on,
a screenshot tells the size of a file that is there and not empty, and a regular file holds the
image. Without an image that is not empty all files are as before; and when the file turns out to
be empty, the screenshot fails and no file is left. -/
theorem screenshot_saved {st₀ : Stage} {i : TaskId} {r : Except Failure Report}
    (hbegin : st.beginCall s (.screenshot path) = (st₀, i)) (hplays : st₀.Plays i log st')
    (hdone : st'.task? i = some (.operation s (.done r))) :
    (∀ report, r = .ok report → ∃ image size,
      log = [.captured (.ok image), .wrote path image] ∧
      report = .saved path size ∧ 0 < size ∧ st'.files.size path = .ok size ∧
      ∀ content, st'.files.stat path = .ok (.file content) → content = image) ∧
    ((∀ image, .captured (.ok image) ∈ log → image = []) →
      st'.files = st.files ∧ ∃ f, r = .error f) ∧
    ∀ image t₁ t₂, .wrote path image ∈ log → Capture.withParents st.files path = (t₁, .ok ()) →
      t₁.write path image = .ok t₂ → t₂.size path = .ok 0 →
      (∃ f, r = .error f ∧ f.code = .browser) ∧ ∀ e, st'.files.stat path ≠ .ok e := by
  obtain ⟨rfl, rfl⟩ := Prod.mk.inj hbegin
  have hstands := Screenshot.Stands.of_plays hplays Screenshot.stands_beginCall
  have hend := Screenshot.outcome_of_stands hstands hdone
  refine ⟨?_, hend.of_no_image, fun image t₁ t₂ hwrote hparents hwrite hsize => ?_⟩
  · rintro report rfl
    exact hend.of_ok
  · obtain ⟨rfl, hgone⟩ := hend.of_empty hwrote hparents hwrite hsize
    exact ⟨⟨_, rfl, Capture.emptyFile_code path⟩, hgone⟩

/-! ## Two screenshots -/

namespace Studio

open Rehearsal (smallImage)
open FileTree Screenshot

/-- A session whose page is open, and what else there is when it makes a screenshot. -/
def stage (files : FileTree) (line : Line) (asked : List Scene.Request) (pending : List Pending)
    (tasks : List Task) : Stage where
  scene :=
    { pool := { options := { headless := true, requestTimeout := 1000 } }
      sessions := [{ label := "s", options := { lifetime := 1000 }, deadline := 1000, line := line
                     page := some 0, active := true }]
      tasks := tasks
      pages := 1
      asked := asked }
  rehearsal := { pages := [{ url := "", cues := [] }], pending := pending }
  files := files

def quiet (files : FileTree) : Stage := stage files [] [] [] []

def begun (files : FileTree) : Stage :=
  stage files [0] [] [] [.operation 0 (.queued (.screenshot "a.png"))]

theorem beginCall_quiet (files : FileTree) :
    (quiet files).beginCall 0 (.screenshot "a.png") = (begun files, 0) := rfl

def noted : List Pending := [⟨0, 0, {}⟩]

def toSave : List Scene.Request := [.save "a.png" smallImage, .page 0 .screenshot]

def saving (files : FileTree) : Stage :=
  stage files [0] toSave noted
    [.operation 0 (.saving (some 0) "a.png" smallImage (afterSave "a.png"))]

def saved (files : FileTree) (r : Except Failure Nat) : Stage :=
  stage files [] toSave noted [.operation 0 (.done (r.map (.saved "a.png" ·)))]

theorem plays_saving (files : FileTree) {log : List Deed} {st' : Stage}
    (h : (saving files).Plays 0 log st') :
    (begun files).Plays 0 (.captured (.ok smallImage) :: log) st' := by
  have hturn : (begun files).move 0 = some (stage files [0] [] []
      [.operation 0 (.acting (some 0) (.call .screenshot (afterCapture "a.png")))]) := by
    rw [← work_eq "a.png" { lifetime := 1000 }]
    rfl
  have hask :
      (stage files [0] [] []
        [.operation 0 (.acting (some 0) (.call .screenshot (afterCapture "a.png")))]).move 0 =
        some (stage files [0] [.page 0 .screenshot] noted
          [.operation 0 (.asking 0 .screenshot (afterCapture "a.png"))]) := rfl
  have hanswer :
      (stage files [0] [.page 0 .screenshot] noted
        [.operation 0 (.asking 0 .screenshot (afterCapture "a.png"))]).move 0 =
        some (stage files [0] [.page 0 .screenshot] []
          [.operation 0 (.acting (some 0) (afterCapture "a.png" (.ok smallImage)))]) := rfl
  have hsave :
      (stage files [0] [.page 0 .screenshot] []
        [.operation 0 (.acting (some 0) (afterCapture "a.png" (.ok smallImage)))]).move 0 =
        some (saving files) := rfl
  exact .of_move [] hturn rfl (.of_move [] hask rfl
    (.of_move [.captured (.ok smallImage)] hanswer rfl (.of_move [] hsave rfl h)))

theorem plays {files files' : FileTree} {r : Except Failure Nat}
    (h : Capture.save files "a.png" smallImage = (files', r)) :
    (begun files).Plays 0 [.captured (.ok smallImage), .wrote "a.png" smallImage]
      (saved files' r) := by
  have hwrite : (saving files).move 0 =
      some (stage files' [0] toSave noted
        [.operation 0 (.acting (some 0) (afterSave "a.png" r))]) := by
    rw [show (saving files).move 0 = some ((saving files).saveFile 0 "a.png" smallImage) from rfl,
      saveFile, show (saving files).files = files from rfl, h]
    rfl
  exact plays_saving files
    (.of_move [.wrote "a.png" smallImage] hwrite rfl (.of_move [] rfl rfl (.refl _)))

theorem isPath : IsPath "a.png" := ⟨by decide, by decide, by decide⟩

theorem isName : IsName "a.png" := ⟨by decide, by decide, by decide⟩

theorem withParents_eq (t : FileTree) : Capture.withParents t "a.png" = (t, .ok ()) := by
  have hparent : Path.parent? "a.png" = some "" := by decide
  simp [Capture.withParents, hparent]

theorem save_empty : Capture.save empty "a.png" smallImage =
    (empty.set (home ++ ["a.png"]) (.file smallImage), .ok 8) :=
  Capture.save_of_takesFile (withParents_eq empty)
    (resolve_of_goes isPath (by decide) (.free (by decide) isName (by decide)))
    .free (by decide) (by decide)

/-- The file is a link to the device that swallows all. -/
def linked : FileTree := ⟨(home ++ ["a.png"], .link "/dev/null") :: empty.entries⟩

theorem resolve_linked : linked.resolve "a.png" true = .ok (.found ["dev", "null"] .sink) := by
  have hname : IsName "dev" ∧ IsName "null" :=
    ⟨⟨by decide, by decide, by decide⟩, ⟨by decide, by decide, by decide⟩⟩
  refine resolve_of_goes isPath (by decide)
    (.linked (by decide) isName (by decide : linked.get? _ = some (.link "/dev/null"))
      (.inr rfl) ?_)
  exact .child (by decide) hname.1 (by decide : _ = some .dir) (by simp)
    (.child (by decide) hname.2 (by decide : _ = some .sink) (by simp) (.arrived (by decide)))

/-- What is written to a link to the device is gone, and the file has no size. -/
theorem write_linked :
    linked.write "a.png" smallImage = .ok linked ∧ linked.size "a.png" = .ok 0 := by
  constructor
  · rw [write, change, resolve_linked]
  · rw [size, stat, resolve_linked]
    rfl

end Studio

open Studio in
theorem screenshot_saved_studio :
    (∃ st', (quiet .empty).beginCall 0 (.screenshot "a.png") = (begun .empty, 0) ∧
      (begun .empty).Plays 0 [.captured (.ok Rehearsal.smallImage),
        .wrote "a.png" Rehearsal.smallImage] st' ∧
      st'.task? 0 = some (.operation 0 (.done (.ok (.saved "a.png" 8)))) ∧
      st'.files.size "a.png" = .ok 8) ∧
    ∃ st' f, (quiet linked).beginCall 0 (.screenshot "a.png") = (begun linked, 0) ∧
      (begun linked).Plays 0 [.captured (.ok Rehearsal.smallImage),
        .wrote "a.png" Rehearsal.smallImage] st' ∧
      st'.task? 0 = some (.operation 0 (.done (.error f))) ∧ f.code = .browser ∧
      ∀ e, st'.files.stat "a.png" ≠ .ok e := by
  constructor
  · have hplays := plays save_empty
    obtain ⟨image, size, -, hreport, -, hsize, -⟩ :=
      (screenshot_saved (beginCall_quiet .empty) hplays rfl).1 _ rfl
    obtain ⟨-, rfl⟩ := Report.saved.inj hreport
    exact ⟨_, beginCall_quiet _, hplays, rfl, hsize⟩
  · have hplays : (begun linked).Plays 0 _ _ := plays (Prod.eta _).symm
    obtain ⟨⟨f, hfails, hcode⟩, hgone⟩ :=
      (screenshot_saved (beginCall_quiet linked) hplays rfl).2.2 _ linked linked
        (List.mem_cons_of_mem _ (List.mem_cons_self ..)) (withParents_eq linked) write_linked.1
        write_linked.2
    refine ⟨_, f, beginCall_quiet _, hplays, ?_, hcode, hgone⟩
    rw [← hfails]
    rfl

end Stage

end ScriptSandbox
