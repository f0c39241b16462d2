import ScriptSandbox.Proofs.Browser.OperationMoves
import ScriptSandbox.Proofs.Browser.Work

/-!
# What an event does to the sessions

Of a task a session knows only where it stands in the line of the session and which page it has
(`Task.turn`). `apply_sessionStep` names all that an event can do to the sessions, to the turns of
the tasks and to what has been asked of the pages. No operation closes a page (`Task.IsMild`), so a
close asks for it alone.
-/

namespace ScriptSandbox

open Function

/-- What a task is at in the line of its session. -/
inductive Turn
  | away
  /-- An operation waits for its turn. -/
  | waiting (s : SessionId)
  /-- A close waits for its turn. -/
  | closing (s : SessionId)
  /-- An operation has its turn, and its page is still to be opened. -/
  | opening (s : SessionId)
  | working (s : SessionId) (page : Option PageId)
  /-- A close has had its turn. -/
  | closed (s : SessionId)
deriving DecidableEq

def Turn.session? : Turn → Option SessionId
  | .away => none
  | .waiting s | .closing s | .opening s | .working s _ | .closed s => some s

def Progress.turn (s : SessionId) : Progress → Turn
  | .queued _ => .waiting s
  | .acquiring _ _ | .opening _ _ => .opening s
  | .acting page _ | .pausing _ page _ | .saving page _ _ _ => .working s page
  | .asking page _ _ | .askingUntil _ page _ _ => .working s (some page)
  | .done _ => .away

def Task.turn : Task → Turn
  | .operation s p => p.turn s
  | .close s .queued => .closing s
  | .close s (.closingPage _ _) | .close s .done => .closed s
  | _ => .away

/-- Whether a task still has to do with its page what an operation may do, and does not close it. -/
def Task.IsMild : Task → Prop
  | .operation _ p =>
    match p with
    | .acting _ rest | .pausing _ _ rest => rest.Only Operation.LeavesOpen
    | .asking _ c next => c ≠ .close ∧ ∀ r, (next r).Only Operation.LeavesOpen
    | .askingUntil _ _ c next => c ≠ .close ∧ ∀ r, (next r).Only Operation.LeavesOpen
    | .saving _ _ _ next => ∀ r, (next r).Only Operation.LeavesOpen
    | _ => True
  | _ => True

def Scene.Request.isPage : Scene.Request → Bool
  | .page _ _ => true
  | _ => false

namespace Scene

def turn (w : Scene) (i : TaskId) : Turn := (w.task i).turn

variable {w w' : Scene} {e : Event} {i j : TaskId} {s : SessionId} {t t₀ : Task}

/-! ## Turns -/

theorem turn_congr (h : w'.tasks = w.tasks) : w'.turn = w.turn := by
  funext j; rw [turn, turn, task_congr h]

theorem turn_of_set (h : w'.tasks = w.tasks.set i t) (hi : w.tasks[i]? = some t₀) :
    w'.turn = update w.turn i t.turn := by
  show Task.turn ∘ w'.task = update (Task.turn ∘ w.task) i t.turn
  rw [task_of_set h (lt_length_of_getElem? hi), comp_update]

theorem turn_of_append (h : w'.tasks = w.tasks ++ [t]) :
    w'.turn = update w.turn w.tasks.length t.turn := by
  show Task.turn ∘ w'.task = update (Task.turn ∘ w.task) w.tasks.length t.turn
  rw [task_of_append h, comp_update]

theorem turn_eq_of_getElem? (h : w.tasks[i]? = some t) : w.turn i = t.turn := by
  rw [turn, task_eq_of_getElem? h]

@[simp] theorem turn_length : w.turn w.tasks.length = .away := by simp [turn, Task.turn]

/-! ## Calls -/

/-- The second scene has asked what the first has, perhaps something of a page, and perhaps more
that is asked of no page. -/
def Calls (w w' : Scene) (call : Option (PageId × PageCall)) : Prop :=
  ∃ others : List Request, (∀ o ∈ others, o.isPage = false) ∧
    w'.asked = others ++ ((call.map fun c => Request.page c.1 c.2).toList ++ w.asked)

theorem calls_none (h : w'.asked = w.asked) : Calls w w' none := ⟨[], by simp, by simpa using h⟩

theorem calls_other {r : Request} (h : w'.asked = r :: w.asked) (hr : r.isPage = false) :
    Calls w w' none := ⟨[r], by simpa using hr, by simpa using h⟩

theorem calls_page {page : PageId} {c : PageCall} (h : w'.asked = .page page c :: w.asked) :
    Calls w w' (some (page, c)) := ⟨[], by simp, by simpa using h⟩

theorem calls_move {α : Type} {m : PoolMove α}
    (h : w'.asked = (m.request.map PoolRequest.toRequest).toList ++ w.asked) :
    Calls w w' none := by
  refine ⟨(m.request.map PoolRequest.toRequest).toList, fun o ho => ?_, by simpa using h⟩
  rcases hr : m.request with _ | (_ | _) <;> simp [hr] at ho <;> subst ho <;> rfl

/-! ## Changes -/

/-- What is needed for the changes to be as few as they are: what is still to be done to a page
does not close it, and nobody has to do with a session that there is not. -/
structure Orderly (w : Scene) : Prop where
  mild : ∀ i, (w.task i).IsMild
  housed : ∀ i s, (w.turn i).session? = some s → s < w.sessions.length

/-- All that an event can do to the sessions and to the turns of the tasks. -/
inductive SessionChange (w w' : Scene) : Prop
  | rest (hs : w'.sessions = w.sessions) (ht : w'.turn = w.turn) (hp : w'.pages = w.pages)
      (ha : Calls w w' none)
  | opened (label : String) (options : SessionOptions)
      (hs : w'.sessions = w.sessions ++ [.opened label options w.now]) (ht : w'.turn = w.turn)
      (hp : w'.pages = w.pages) (ha : Calls w w' none)
  | expired (s : SessionId) (session : Session) (hsess : w.sessions[s]? = some session)
      (hs : w'.sessions = w.sessions.set s session.expire) (ht : w'.turn = w.turn)
      (hp : w'.pages = w.pages) (ha : Calls w w' none)
  | joined (s : SessionId) (i : TaskId) (session : Session) (hi : w.turn i = .away)
      (hsess : w.sessions[s]? = some session) (hopen : session.isClosed w.pool = false)
      (hs : w'.sessions = w.sessions.set s { session with line := session.line.join i })
      (ht : w'.turn = update w.turn i (.waiting s)) (hp : w'.pages = w.pages)
      (ha : Calls w w' none)
  | closing (s : SessionId) (i : TaskId) (session : Session) (hi : w.turn i = .away)
      (hsess : w.sessions[s]? = some session)
      (hs : w'.sessions = w.sessions.set s { session.expire with line := session.line.join i })
      (ht : w'.turn = update w.turn i (.closing s)) (hp : w'.pages = w.pages)
      (ha : Calls w w' none)
  | turned (s : SessionId) (i : TaskId) (session : Session) (x : Turn)
      (hi : w.turn i = .waiting s) (hsess : w.sessions[s]? = some session)
      (hserves : session.line.serves i = true) (hopen : session.isClosed w.pool = false)
      (hx : x = .opening s ∧ session.page = none ∨ x = .working s session.page)
      (hs : w'.sessions = w.sessions) (ht : w'.turn = update w.turn i x)
      (hp : w'.pages = w.pages) (ha : Calls w w' none)
  | called (s : SessionId) (i : TaskId) (page : PageId) (c : PageCall)
      (hi : w.turn i = .working s (some page)) (hc : c ≠ .close)
      (hs : w'.sessions = w.sessions) (ht : w'.turn = w.turn) (hp : w'.pages = w.pages)
      (ha : Calls w w' (some (page, c))) (hm : w'.task i ≠ w.task i)
  | paged (s : SessionId) (i : TaskId) (session : Session) (hi : w.turn i = .opening s)
      (hsess : w.sessions[s]? = some session) (hopen : session.isCancelled w.pool = false)
      (hs : w'.sessions = w.sessions.set s { session with page := some w.pages, active := true })
      (ht : w'.turn = update w.turn i (.working s (some w.pages))) (hp : w'.pages = w.pages + 1)
      (ha : Calls w w' none)
  | taken (s : SessionId) (i : TaskId) (session : Session) (hi : w.turn i = .closing s)
      (hsess : w.sessions[s]? = some session) (hserves : session.line.serves i = true)
      (hs : w'.sessions = w.sessions.set s { session.leave i with page := none })
      (ht : w'.turn = update w.turn i (.closed s)) (hp : w'.pages = w.pages)
      (ha : Calls w w' (session.page.map (·, .close)))
  | left (s : SessionId) (i : TaskId) (session session' : Session)
      (hi : (w.turn i).session? = some s) (hsess : w.sessions[s]? = some session)
      (hs' : session' = session ∨ session' = session.expire)
      (hs : w'.sessions = w.sessions.set s (session'.leave i))
      (ht : w'.turn = update w.turn i .away) (hp : w'.pages = w.pages) (ha : Calls w w' none)

/-- An event of an orderly scene: the scene stays orderly, no time is lost, and the sessions change
in one of the known ways. -/
structure SessionStep (w w' : Scene) : Prop where
  orderly : w'.Orderly
  now : w.now ≤ w'.now
  change : SessionChange w w'

theorem SessionStep.refl (ho : w.Orderly) : SessionStep w w :=
  ⟨ho, Nat.le_refl _, .rest rfl rfl rfl (calls_none rfl)⟩

theorem orderly_of_set (ho : w.Orderly) (hi : w.tasks[i]? = some t₀)
    (ht : w'.tasks = w.tasks.set i t) (hm : t.IsMild)
    (hlen : w.sessions.length ≤ w'.sessions.length)
    (hh : ∀ s, t.turn.session? = some s → s < w.sessions.length) : w'.Orderly where
  mild j := by
    rw [task_of_set ht (lt_length_of_getElem? hi)]
    by_cases hj : j = i
    · subst hj; rwa [update_self]
    · rw [update_of_ne hj]; exact ho.mild j
  housed j s hj := by
    rw [turn_of_set ht hi] at hj
    refine Nat.lt_of_lt_of_le ?_ hlen
    by_cases hji : j = i
    · subst hji
      rw [update_self] at hj
      exact hh s hj
    · rw [update_of_ne hji] at hj
      exact ho.housed j s hj

theorem orderly_of_append (ho : w.Orderly) (ht : w'.tasks = w.tasks ++ [t]) (hm : t.IsMild)
    (hlen : w.sessions.length ≤ w'.sessions.length)
    (hh : ∀ s, t.turn.session? = some s → s < w.sessions.length) : w'.Orderly where
  mild j := by
    rw [task_of_append ht]
    by_cases hj : j = w.tasks.length
    · subst hj; rwa [update_self]
    · rw [update_of_ne hj]; exact ho.mild j
  housed j s hj := by
    rw [turn_of_append ht] at hj
    refine Nat.lt_of_lt_of_le ?_ hlen
    by_cases hji : j = w.tasks.length
    · subst hji
      rw [update_self] at hj
      exact hh s hj
    · rw [update_of_ne hji] at hj
      exact ho.housed j s hj

theorem orderly_congr (ho : w.Orderly) (ht : w'.tasks = w.tasks)
    (hlen : w.sessions.length ≤ w'.sessions.length) : w'.Orderly where
  mild j := by rw [task_congr ht]; exact ho.mild j
  housed j s hj := by
    rw [turn_congr ht] at hj
    exact Nat.lt_of_lt_of_le (ho.housed j s hj) hlen

theorem Orderly.session_of_turn (ho : w.Orderly) (hi : w.tasks[i]? = some t)
    (ht : t.turn.session? = some s) : ∃ session, w.sessions[s]? = some session := by
  have := ho.housed i s (by rw [turn_eq_of_getElem? hi, ht])
  exact ⟨w.sessions[s], List.getElem?_eq_getElem this⟩

/-- A task that keeps its turn and asks nothing of a page changes no session. -/
theorem SessionStep.of_set (ho : w.Orderly) (hi : w.tasks[i]? = some t₀)
    (hs : w'.sessions = w.sessions) (ht : w'.tasks = w.tasks.set i t) (hm : t.IsMild)
    (hturn : t.turn = t₀.turn) (hp : w'.pages = w.pages) (hn : w'.now = w.now)
    (ha : Calls w w' none) : SessionStep w w' := by
  refine ⟨orderly_of_set ho hi ht hm (hs ▸ Nat.le_refl _) fun s h => ?_, Nat.le_of_eq hn.symm,
    .rest hs ?_ hp ha⟩
  · exact ho.housed i s (by rw [turn_eq_of_getElem? hi, ← hturn, h])
  · rw [turn_of_set ht hi, hturn, ← turn_eq_of_getElem? hi, update_eq_self]

theorem SessionStep.of_poolMove {α : Type} {m : PoolMove α} (ho : w.Orderly)
    (hi : w.tasks[i]? = some t₀) (hm : t.IsMild) (hturn : t.turn = t₀.turn) :
    SessionStep w ((w.takePoolMove m).put i t) :=
  .of_set ho hi (by simp) (by simp) hm hturn (by simp) (by simp) (calls_move (m := m) (by simp))

theorem SessionStep.of_append (ho : w.Orderly) (hs : w'.sessions = w.sessions)
    (ht : w'.tasks = w.tasks ++ [t]) (hm : t.IsMild) (hturn : t.turn = .away)
    (hp : w'.pages = w.pages) (hn : w'.now = w.now) (ha : w'.asked = w.asked) :
    SessionStep w w' := by
  refine ⟨orderly_of_append ho ht hm (hs ▸ Nat.le_refl _) fun s h => ?_, Nat.le_of_eq hn.symm,
    .rest hs ?_ hp (calls_none ha)⟩
  · rw [hturn] at h; simp [Turn.session?] at h
  · rw [turn_of_append ht, hturn, ← turn_length, update_eq_self]

/-- A task leaves the line of its session and is done with it. -/
theorem SessionStep.of_leave {session session' : Session} (ho : w.Orderly)
    (hi : w.tasks[i]? = some t₀) (hturn₀ : t₀.turn.session? = some s)
    (hsess : w.sessions[s]? = some session) (hs' : session' = session ∨ session' = session.expire)
    (hs : w'.sessions = w.sessions.set s (session'.leave i)) (ht : w'.tasks = w.tasks.set i t)
    (hm : t.IsMild) (hturn : t.turn = .away) (hp : w'.pages = w.pages) (hn : w'.now = w.now)
    (ha : w'.asked = w.asked) : SessionStep w w' := by
  refine ⟨orderly_of_set ho hi ht hm (by simp [hs]) fun s h => ?_, Nat.le_of_eq hn.symm,
    .left s i session session' ?_ hsess hs' hs ?_ hp (calls_none ha)⟩
  · rw [hturn] at h; simp [Turn.session?] at h
  · rw [turn_eq_of_getElem? hi, hturn₀]
  · rw [turn_of_set ht hi, hturn]

theorem SessionStep.of_finish (ho : w.Orderly) (hi : w.tasks[i]? = some t₀)
    (hturn₀ : t₀.turn.session? = some s) (r : Except Failure Report) :
    SessionStep w (w.finish s i r) := by
  obtain ⟨session, hsess⟩ := ho.session_of_turn hi hturn₀
  exact .of_leave ho hi hturn₀ hsess (.inl rfl)
    (by rw [finish_sessions, modify_of_getElem? _ hsess]) (finish_tasks r) trivial rfl
    (finish_pages r) (finish_now r) (finish_asked r)

/-- An operation that is sent away by its session, which may have expired. -/
theorem SessionStep.of_refusal {session session' : Session} (ho : w.Orderly)
    (hi : w.tasks[i]? = some t₀) (hturn₀ : t₀.turn.session? = some s)
    (hsess : w.sessions[s]? = some session) (hs' : session' = session ∨ session' = session.expire)
    (r : Except Failure Report) : SessionStep w ((w.putSession s session').finish s i r) := by
  refine .of_leave ho hi hturn₀ hsess hs' ?_ (finish_tasks r) trivial rfl (finish_pages r)
    (finish_now r) (finish_asked r)
  have hlt := (List.getElem?_eq_some_iff.1 hsess).1
  rw [finish_sessions, modify_of_getElem? (a := session') _ (by simp [hlt]), putSession_sessions,
    List.set_set]

/-! ## Operations -/

/-- An operation asks something of its page. -/
theorem SessionStep.of_call {page : PageId} {c : PageCall} (ho : w.Orderly)
    (hi : w.tasks[i]? = some t₀) (hturn₀ : t₀.turn = .working s (some page)) (hc : c ≠ .close)
    (hs : w'.sessions = w.sessions) (ht : w'.tasks = w.tasks.set i t) (hm : t.IsMild)
    (hturn : t.turn = t₀.turn) (hne : t ≠ t₀) (hp : w'.pages = w.pages) (hn : w'.now = w.now)
    (ha : w'.asked = .page page c :: w.asked) : SessionStep w w' := by
  refine ⟨orderly_of_set ho hi ht hm (hs ▸ Nat.le_refl _) fun s h => ?_, Nat.le_of_eq hn.symm,
    .called s i page c ?_ hc hs ?_ hp (calls_page ha) ?_⟩
  · exact ho.housed i s (by rw [turn_eq_of_getElem? hi, ← hturn, h])
  · rw [turn_eq_of_getElem? hi, hturn₀]
  · rw [turn_of_set ht hi, hturn, ← turn_eq_of_getElem? hi, update_eq_self]
  · rw [task_of_set ht (lt_length_of_getElem? hi), update_self, task_eq_of_getElem? hi]
    exact hne

/-- The next part of the work of an operation. -/
theorem SessionStep.of_act {page : Option PageId} {rest : Rest} (ho : w.Orderly)
    (hi : w.tasks[i]? = some (.operation s (.acting page rest))) :
    SessionStep w (w.act s i page rest) := by
  have hmild : rest.Only Operation.LeavesOpen := by
    have := ho.mild i
    rwa [task_eq_of_getElem? hi] at this
  cases hmild with
  | done r => exact .of_finish ho hi rfl r
  | @pause ms next h =>
    by_cases hms : ms = 0 <;> rw [act] <;> simp only [hms, if_true, if_false] <;>
      exact .of_set ho hi rfl (put_tasks ..) h rfl rfl rfl (calls_none rfl)
  | clock h => exact .of_set ho hi rfl (put_tasks ..) (h w.now) rfl rfl rfl (calls_none rfl)
  | @save path content next h =>
    exact .of_set ho hi rfl (put_tasks ..) h rfl rfl rfl
      (calls_other (r := .save path content) rfl rfl)
  | @call c next hc h =>
    cases page with
    | none => exact .of_set ho hi rfl (put_tasks ..) (h _) rfl rfl rfl (calls_none rfl)
    | some page =>
      exact .of_call ho hi rfl hc rfl (put_tasks ..) ⟨hc, h⟩ rfl (by simp) rfl rfl rfl
  | @callWithin ms c next hc h =>
    cases page with
    | none => exact .of_set ho hi rfl (put_tasks ..) (h _) rfl rfl rfl (calls_none rfl)
    | some page =>
      exact .of_call ho hi rfl hc rfl (put_tasks ..) ⟨hc, h⟩ rfl (by simp) rfl rfl rfl

/-- An operation takes its turn. -/
theorem SessionStep.of_turn {session : Session} {op : Operation} (ho : w.Orderly)
    (hi : w.tasks[i]? = some (.operation s (.queued op))) (hsess : w.sessions[s]? = some session)
    (hserves : session.line.serves i = true) (hopen : session.isClosed w.pool = false) :
    SessionStep w (w.beginWork s i session op) := by
  have hlt := (List.getElem?_eq_some_iff.1 hsess).1
  have take {x : Progress} (hm : (Task.operation s x).IsMild)
      (hx : x.turn s = .opening s ∧ session.page = none ∨ x.turn s = .working s session.page) :
      SessionStep w (w.put i (.operation s x)) := by
    refine ⟨orderly_of_set ho hi (put_tasks ..) hm (Nat.le_refl _) fun s' h => ?_, Nat.le_refl _,
      .turned s i session (x.turn s) (turn_eq_of_getElem? hi) hsess hserves hopen hx rfl
        (turn_of_set (t := .operation s x) (put_tasks ..) hi) rfl (calls_none rfl)⟩
    have hs' : s = s' := by
      rcases hx with ⟨hx, -⟩ | hx <;>
        simpa [Task.turn, hx, Turn.session?] using h
    exact hs' ▸ hlt
  unfold beginWork
  split
  · rename_i hpage
    exact take trivial (.inl ⟨rfl, hpage⟩)
  · exact take (Operation.work_only session.options op) (.inr rfl)

/-- The page of an operation has been opened. -/
theorem SessionStep.of_paged {session : Session} {op : Operation} {process : ProcessId}
    (ho : w.Orderly) (hi : w.tasks[i]? = some (.operation s (.opening op process)))
    (hs : w.sessions[s]? = some session) (hopen : session.isCancelled w.pool = false) :
    SessionStep w ((w.pageOpened s).put i
      (.operation s (.acting (some w.pages) (op.work session.options).run))) := by
  have hlt := (List.getElem?_eq_some_iff.1 hs).1
  rw [pageOpened_eq hs]
  refine ⟨orderly_of_set ho hi (put_tasks ..) (Operation.work_only session.options op) (by simp)
    fun s' h => ?_, Nat.le_refl _,
    .paged s i session (turn_eq_of_getElem? hi) hs hopen rfl
      (turn_of_set (put_tasks ..) hi) rfl (calls_none rfl)⟩
  obtain rfl : s = s' := by simpa [Task.turn, Progress.turn, Turn.session?] using h
  exact hlt

theorem SessionStep.of_operationMove {p : Progress} (ho : w.Orderly)
    (hi : w.tasks[i]? = some (.operation s p)) (h : w.OperationMove s i p w') :
    SessionStep w w' := by
  have hmild := ho.mild i
  rw [task_eq_of_getElem? hi] at hmild
  cases h with
  | broken _ session session' f hw hsess hf =>
    refine .of_refusal ho hi ?_ hsess (Session.interruption_eq_some hf) _
    cases p with
    | done r => simp [Progress.waits] at hw
    | _ => rfl
  | refused op session hsess =>
    exact .of_refusal ho hi rfl hsess ((session.ensureOpen_fst _ _).imp_right And.right) _
  | turned op session hsess hserves hopen =>
    exact .of_turn ho hi hsess hserves (Bool.eq_false_iff.2 fun hc => hopen (.inl hc))
  | unacquired | unopened => exact .of_finish ho hi rfl _
  | acquiring op a m => exact .of_poolMove ho hi trivial rfl
  | acquired op process =>
    exact .of_set ho hi rfl (put_tasks ..) trivial rfl rfl rfl
      (calls_other (r := .openPage process) rfl rfl)
  | opened op process session hsess hopen => exact .of_paged ho hi hsess hopen
  | lost op process hsess =>
    obtain ⟨session, hsess'⟩ := ho.session_of_turn (s := s) hi rfl
    rw [hsess] at hsess'
    simp at hsess'
  | acting page rest => exact .of_act ho hi
  | rested => exact .of_set ho hi rfl (put_tasks ..) hmild rfl rfl rfl (calls_none rfl)
  | answered | givenUp | answeredInTime =>
    exact .of_set ho hi rfl (put_tasks ..) (hmild.2 _) rfl rfl rfl (calls_none rfl)
  | saved => exact .of_set ho hi rfl (put_tasks ..) (hmild _) rfl rfl rfl (calls_none rfl)

/-! ## Closes and watches -/

theorem markClosed_eq {session : Session} (hs : w.sessions[s]? = some session) :
    w.markClosed s i =
      w.putSession s { session.expire with line := session.line.join i } := by
  unfold markClosed
  rw [hs]

/-- A close has its turn. -/
theorem SessionStep.of_taken {session : Session} {c : Closing} (ho : w.Orderly)
    (hi : w.tasks[i]? = some (.close s .queued)) (hsess : w.sessions[s]? = some session)
    (hserves : session.line.serves i = true) (hc : (Task.close s c).turn = .closed s)
    (hs : w'.sessions = w.sessions.set s { session.leave i with page := none })
    (ht : w'.tasks = w.tasks.set i (.close s c)) (hp : w'.pages = w.pages) (hn : w'.now = w.now)
    (ha : Calls w w' (session.page.map (·, .close))) : SessionStep w w' := by
  have hlt := (List.getElem?_eq_some_iff.1 hsess).1
  refine ⟨orderly_of_set ho hi ht trivial (by simp [hs]) fun s' h => ?_, Nat.le_of_eq hn.symm,
    .taken s i session (turn_eq_of_getElem? hi) hsess hserves hs (hc ▸ turn_of_set ht hi) hp ha⟩
  obtain rfl : s = s' := by simpa [hc, Turn.session?] using h
  exact hlt

theorem SessionStep.of_closingMove {c : Closing} (ho : w.Orderly)
    (hi : w.tasks[i]? = some (.close s c)) (h : w.ClosingMove s i c w') : SessionStep w w' := by
  cases h with
  | taken session page hsess hserves hpage =>
    refine .of_taken ho hi hsess hserves rfl rfl (put_tasks ..) rfl rfl ?_
    rw [hpage]
    exact calls_page rfl
  | takenNothing session hsess hserves hpage =>
    refine .of_taken ho hi hsess hserves rfl rfl (put_tasks ..) rfl rfl ?_
    rw [hpage]
    exact calls_none rfl
  | lost hsess =>
    obtain ⟨session, hsess'⟩ := ho.session_of_turn (s := s) hi rfl
    rw [hsess] at hsess'
    simp at hsess'
  | ended deadline page =>
    exact .of_set ho hi rfl (put_tasks ..) trivial rfl rfl rfl (calls_none rfl)

theorem SessionStep.of_stepWatch (ho : w.Orderly) (hi : w.tasks[i]? = some (.watch s))
    (h : w.stepWatch s i = some w') : SessionStep w w' := by
  unfold stepWatch at h
  split at h
  · simp at h
  · rename_i session hs
    obtain ⟨-, rfl⟩ : _ ∧ _ = w' := by simpa using h
    have hlt := (List.getElem?_eq_some_iff.1 hs).1
    rw [markClosed_eq hs]
    refine ⟨orderly_of_set ho hi (put_tasks ..) trivial (by simp) fun s' h => ?_, Nat.le_refl _,
      .closing s i session (turn_eq_of_getElem? hi) hs rfl
        (turn_of_set (t := .close s .queued) (put_tasks ..) hi) rfl (calls_none rfl)⟩
    obtain rfl : s = s' := by simpa [Task.turn, Turn.session?] using h
    exact hlt

/-! ## Events -/

/-- A look at a session leaves the sessions as they are or lets that one expire. -/
theorem ensureOpen_sessions_cases (w : Scene) (s : SessionId) :
    (w.ensureOpen s).1.sessions = w.sessions ∨
      ∃ session, w.sessions[s]? = some session ∧
        (w.ensureOpen s).1.sessions = w.sessions.set s session.expire := by
  cases hs : w.sessions[s]? with
  | none => exact .inl (by rw [ensureOpen_of_getElem?_none hs])
  | some session =>
    rw [ensureOpen_sessions hs]
    rcases session.ensureOpen_fst w.pool w.now with h | ⟨-, h⟩ <;> rw [h]
    · exact .inl (congrArg Scene.sessions (putSession_self hs))
    · exact .inr ⟨session, rfl, rfl⟩

theorem SessionStep.of_ensureOpen (ho : w'.Orderly)
    (hs : w'.sessions = (w.ensureOpen s).1.sessions) (ht : w'.turn = w.turn)
    (hp : w'.pages = w.pages) (hn : w'.now = w.now) (ha : w'.asked = w.asked) :
    SessionStep w w' := by
  refine ⟨ho, Nat.le_of_eq hn.symm, ?_⟩
  rcases ensureOpen_sessions_cases w s with h | ⟨session, hsess, h⟩ <;> rw [h] at hs
  · exact .rest hs ht hp (calls_none ha)
  · exact .expired s session hsess hs ht hp (calls_none ha)

theorem ensureOpen_sessions_length : (w.ensureOpen s).1.sessions.length = w.sessions.length := by
  rcases ensureOpen_sessions_cases w s with h | ⟨session, -, h⟩ <;> simp [h]

/-- A task that begins in the line of a session. -/
theorem orderly_of_start {session : Session} (ho : w.Orderly) (ht : w'.tasks = w.tasks ++ [t])
    (hm : t.IsMild) (hturn : t.turn.session? = some s) (hsess : w.sessions[s]? = some session)
    (hlen : w.sessions.length ≤ w'.sessions.length) : w'.Orderly := by
  refine orderly_of_append ho ht hm hlen fun s' h => ?_
  obtain rfl : s = s' := by simpa [hturn] using h
  exact (List.getElem?_eq_some_iff.1 hsess).1

theorem SessionStep.of_begun (ho : w.Orderly) (h : Begun w s w') : SessionStep w w' := by
  cases h with
  | refused f =>
    have ht : ((w.ensureOpen s).1.refuse s f).1.tasks =
        w.tasks ++ [.operation s (.done (.error f))] := by simp [refuse]
    refine .of_ensureOpen (s := s) (orderly_of_append ho ht trivial ?_ (by simp [Task.turn,
      Progress.turn, Turn.session?])) rfl ?_ (by simp [refuse]) (by simp [refuse])
      (by simp [refuse])
    · exact Nat.le_of_eq ensureOpen_sessions_length.symm
    · rw [turn_of_append ht, show (Task.operation s (.done (.error f))).turn = .away from rfl,
        ← turn_length, update_eq_self]
  | queued session op hs hopen =>
    rw [joinLine_eq hs]
    exact ⟨orderly_of_start (t := .operation s (.queued op)) ho rfl trivial rfl hs (by simp),
      Nat.le_refl _, .joined s w.tasks.length session turn_length hs
        (Bool.eq_false_iff.2 fun hc => hopen (.inl hc)) rfl
        (turn_of_append (t := .operation s (.queued op)) rfl) rfl (calls_none rfl)⟩
  | closing =>
    unfold beginClose
    cases hs : w.sessions[s]? with
    | none => exact .of_append (t := .gone) ho rfl rfl trivial rfl rfl rfl rfl
    | some session =>
      simp only [markClosed_eq hs]
      exact ⟨orderly_of_start (t := .close s .queued) ho rfl trivial rfl hs (by simp),
        Nat.le_refl _, .closing s w.tasks.length session turn_length hs rfl
          (turn_of_append (t := .close s .queued) rfl) rfl (calls_none rfl)⟩

theorem SessionStep.of_step (ho : w.Orderly) (h : w.step i = some w') : SessionStep w w' := by
  unfold step at h
  cases hi : w.tasks[i]? with
  | none => simp [hi] at h
  | some t =>
    simp only [hi] at h
    cases t with
    | acquire a =>
      obtain ⟨m, hm, rfl⟩ := Option.map_eq_some_iff.1 h
      exact .of_poolMove ho hi trivial rfl
    | teardown t =>
      obtain ⟨m, hm, rfl⟩ := Option.map_eq_some_iff.1 h
      exact .of_poolMove ho hi trivial rfl
    | operation s p => exact .of_operationMove ho hi (operationMove_of_step h)
    | close s c => exact .of_closingMove ho hi (closingMove_of_step h)
    | watch s => exact .of_stepWatch ho hi h
    | gone => simp at h

theorem SessionStep.of_answer (ho : w.Orderly) (answers : Answers) :
    SessionStep w (w.answer i answers) := by
  unfold answer
  cases hi : w.tasks[i]? with
  | none => exact .refl ho
  | some t =>
    cases t with
    | acquire a =>
      cases a with
      | launching => exact .of_poolMove ho hi trivial rfl
      | _ => exact .refl ho
    | teardown t =>
      cases t with
      | stopping p => exact .of_poolMove ho hi trivial rfl
      | _ => exact .refl ho
    | operation s p =>
      rcases operationMove_of_answer (w := w) (s := s) (i := i) (p := p) answers with heq | hmove
      · simp only [heq]
        exact .refl ho
      · exact .of_operationMove ho hi hmove
    | close s c =>
      cases c with
      | closingPage deadline page => exact .of_closingMove ho hi (.ended deadline page)
      | _ => exact .refl ho
    | watch | gone => exact .refl ho

theorem SessionStep.of_abandon (ho : w.Orderly) : SessionStep w (w.abandon i) := by
  unfold abandon
  cases hi : w.tasks[i]? with
  | none => exact .refl ho
  | some t =>
    cases hw : t.waits with
    | false => simp only [hw, Bool.not_false, if_true]; exact .refl ho
    | true =>
      simp only [hw, Bool.not_true, Bool.false_eq_true, if_false]
      have leave {s : SessionId} (hturn : t.turn.session? = some s) :
          SessionStep w ((w.withdraw s i).put i .gone) := by
        obtain ⟨session, hs⟩ := ho.session_of_turn hi hturn
        exact .of_leave (t := .gone) ho hi hturn hs (.inl rfl)
          (by rw [put_sessions, withdraw_sessions, modify_of_getElem? _ hs]) (by simp) trivial
          rfl (by simp) (by simp) (by simp)
      cases t with
      | operation s p =>
        refine leave ?_
        cases p with
        | done r => simp [Task.waits, Progress.waits] at hw
        | _ => rfl
      | close s c =>
        refine leave ?_
        cases c <;> rfl
      | acquire | teardown =>
        exact .of_set (t := .gone) ho hi rfl rfl trivial rfl rfl rfl (calls_none rfl)
      | watch | gone => simp [Task.waits] at hw

/-- What an event can do to the sessions. -/
theorem apply_sessionStep (ho : w.Orderly) (e : Event) : SessionStep w (w.apply e) := by
  cases e with
  | step i =>
    cases h : w.step i with
    | none => simp only [apply, h, Option.getD_none]; exact .refl ho
    | some w' => simp only [apply, h, Option.getD_some]; exact .of_step ho h
  | answer i answers => exact .of_answer ho answers
  | abandon i => exact .of_abandon ho
  | pass ms =>
    exact ⟨orderly_congr ho rfl (Nat.le_refl _), Nat.le_add_right _ _,
      .rest rfl (turn_congr rfl) rfl (calls_none rfl)⟩
  | openSession label options =>
    exact ⟨orderly_congr ho rfl (by simp [apply, openSession]), Nat.le_refl _,
      .opened label options rfl (turn_congr rfl) rfl (calls_none rfl)⟩
  | call s c => exact .of_begun ho (begun_beginCall c)
  | dispatch s m args => exact .of_begun ho (begun_dispatch m args)
  | beginClose s => exact .of_begun ho .closing
  | beginWatch s => exact .of_append (t := .watch s) ho rfl rfl trivial rfl rfl rfl rfl
  | beginAcquire => exact .of_append (t := .acquire .looking) ho rfl rfl trivial rfl rfl rfl rfl
  | beginTeardown =>
    exact .of_append (t := .teardown .arriving) ho rfl rfl trivial rfl rfl rfl rfl
  | ensureOpen s =>
    exact .of_ensureOpen (orderly_congr ho ensureOpen_tasks
      (Nat.le_of_eq ensureOpen_sessions_length.symm)) rfl (turn_congr ensureOpen_tasks)
      ensureOpen_pages ensureOpen_now ensureOpen_asked
  | cancelPool =>
    exact ⟨orderly_congr ho rfl (Nat.le_refl _), Nat.le_refl _,
      .rest rfl (turn_congr rfl) rfl (calls_none rfl)⟩

theorem orderly_fresh (options : LaunchOptions) : (fresh options).Orderly where
  mild i := trivial
  housed i s h := by
    have : (fresh options).turn i = .away := rfl
    rw [this] at h
    simp [Turn.session?] at h

/-- A run of an orderly scene keeps what each event of an orderly scene keeps. -/
theorem Orderly.run_induction {P : Scene → Prop} {events : List Event} (ho : w.Orderly) (hw : P w)
    (keep : ∀ w, w.Orderly → P w → ∀ e ∈ events, P (w.apply e)) : P (w.run events) :=
  run_induction_of_invariant (I := Orderly) (fun _ ho e => (apply_sessionStep ho e).orderly) ho hw
    keep

end Scene

end ScriptSandbox
