import Mathlib.Data.List.Basic
import Mathlib.Logic.Function.Basic
import ScriptSandbox.Browser.Scene

/-!
# The parts of a scene after a change

Each change of a scene touches few of its parts. The tasks are read through `Scene.task`, which a
change sets at one number.
-/

namespace ScriptSandbox.Scene

open Function

variable {w w' : Scene} {i j : TaskId} {s : SessionId} {t t₀ : Task}

/-! ## Tasks -/

theorem task_eq_of_getElem? (h : w.tasks[i]? = some t) : w.task i = t := by simp [task, h]

theorem lt_length_of_getElem? (h : w.tasks[i]? = some t) : i < w.tasks.length :=
  (List.getElem?_eq_some_iff.1 h).1

theorem task_congr (h : w'.tasks = w.tasks) : w'.task = w.task := by
  funext j; simp [task, h]

theorem task_of_set (h : w'.tasks = w.tasks.set i t) (hi : i < w.tasks.length) :
    w'.task = update w.task i t := by
  funext j
  by_cases hj : j = i
  · subst hj; simp [task, h, hi]
  · simp [task, h, hj, List.getElem?_set_ne (Ne.symm hj)]

theorem task_of_append (h : w'.tasks = w.tasks ++ [t]) :
    w'.task = update w.task w.tasks.length t := by
  funext j
  by_cases hj : j = w.tasks.length
  · subst hj; simp [task, h]
  · rcases Nat.lt_or_gt_of_ne hj with hlt | hgt
    · simp [task, h, hj, List.getElem?_append_left hlt]
    · rw [update_of_ne hj, task, task, h, List.getElem?_eq_none (by simp; omega),
        List.getElem?_eq_none (by omega)]

@[simp] theorem task_length : w.task w.tasks.length = .gone := by simp [task]

/-! ## Fields -/

@[simp] theorem ask_pool (r : Request) : (w.ask r).pool = w.pool := rfl
@[simp] theorem ask_tasks (r : Request) : (w.ask r).tasks = w.tasks := rfl
@[simp] theorem ask_sessions (r : Request) : (w.ask r).sessions = w.sessions := rfl
@[simp] theorem ask_pages (r : Request) : (w.ask r).pages = w.pages := rfl
@[simp] theorem ask_now (r : Request) : (w.ask r).now = w.now := rfl
@[simp] theorem ask_asked (r : Request) : (w.ask r).asked = r :: w.asked := rfl

@[simp] theorem put_pool : (w.put i t).pool = w.pool := rfl
@[simp] theorem put_tasks : (w.put i t).tasks = w.tasks.set i t := rfl
@[simp] theorem put_sessions : (w.put i t).sessions = w.sessions := rfl
@[simp] theorem put_pages : (w.put i t).pages = w.pages := rfl
@[simp] theorem put_now : (w.put i t).now = w.now := rfl
@[simp] theorem put_asked : (w.put i t).asked = w.asked := rfl

variable {session : Session}

@[simp] theorem putSession_pool : (w.putSession s session).pool = w.pool := rfl
@[simp] theorem putSession_tasks : (w.putSession s session).tasks = w.tasks := rfl
@[simp] theorem putSession_sessions :
    (w.putSession s session).sessions = w.sessions.set s session := rfl
@[simp] theorem putSession_pages : (w.putSession s session).pages = w.pages := rfl
@[simp] theorem putSession_now : (w.putSession s session).now = w.now := rfl
@[simp] theorem putSession_asked : (w.putSession s session).asked = w.asked := rfl

@[simp] theorem start_pool : (w.start t).1.pool = w.pool := rfl
@[simp] theorem start_tasks : (w.start t).1.tasks = w.tasks ++ [t] := rfl
@[simp] theorem start_sessions : (w.start t).1.sessions = w.sessions := rfl
@[simp] theorem start_pages : (w.start t).1.pages = w.pages := rfl
@[simp] theorem start_now : (w.start t).1.now = w.now := rfl
@[simp] theorem start_asked : (w.start t).1.asked = w.asked := rfl
@[simp] theorem start_snd : (w.start t).2 = w.tasks.length := rfl

section Pool

variable {α : Type} {m : PoolMove α}

@[simp] theorem takePoolMove_pool : (w.takePoolMove m).pool = m.pool := by
  unfold takePoolMove; cases m.request <;> rfl
@[simp] theorem takePoolMove_tasks : (w.takePoolMove m).tasks = w.tasks := by
  unfold takePoolMove; cases m.request <;> rfl
@[simp] theorem takePoolMove_sessions : (w.takePoolMove m).sessions = w.sessions := by
  unfold takePoolMove; cases m.request <;> rfl
@[simp] theorem takePoolMove_pages : (w.takePoolMove m).pages = w.pages := by
  unfold takePoolMove; cases m.request <;> rfl
@[simp] theorem takePoolMove_now : (w.takePoolMove m).now = w.now := by
  unfold takePoolMove; cases m.request <;> rfl
@[simp] theorem takePoolMove_asked :
    (w.takePoolMove m).asked = (m.request.map PoolRequest.toRequest).toList ++ w.asked := by
  unfold takePoolMove; cases m.request <;> rfl

end Pool

/-! ## Sessions -/

@[simp] theorem pageOpened_tasks : (w.pageOpened s).tasks = w.tasks := by
  unfold pageOpened; dsimp only; split <;> rfl

@[simp] theorem markClosed_pool : (w.markClosed s i).pool = w.pool := by
  unfold markClosed; split <;> rfl
@[simp] theorem markClosed_tasks : (w.markClosed s i).tasks = w.tasks := by
  unfold markClosed; split <;> rfl
@[simp] theorem markClosed_asked : (w.markClosed s i).asked = w.asked := by
  unfold markClosed; split <;> rfl

@[simp] theorem withdraw_pool : (w.withdraw s i).pool = w.pool.leave i := by
  unfold withdraw; dsimp only; split <;> rfl
@[simp] theorem withdraw_tasks : (w.withdraw s i).tasks = w.tasks := by
  unfold withdraw; dsimp only; split <;> rfl
@[simp] theorem withdraw_pages : (w.withdraw s i).pages = w.pages := by
  unfold withdraw; dsimp only; split <;> rfl
@[simp] theorem withdraw_now : (w.withdraw s i).now = w.now := by
  unfold withdraw; dsimp only; split <;> rfl
@[simp] theorem withdraw_asked : (w.withdraw s i).asked = w.asked := by
  unfold withdraw; dsimp only; split <;> rfl

theorem set_of_getElem?_none {α : Type} {l : List α} {k : Nat} {a : α} (h : l[k]? = none) :
    l.set k a = l := List.set_eq_of_length_le (List.getElem?_eq_none_iff.1 h)

theorem modify_of_getElem? {α : Type} {l : List α} {k : Nat} {a : α} (f : α → α)
    (h : l[k]? = some a) : l.modify k f = l.set k (f a) := by
  rw [List.modify_eq_set_getElem?, h]; rfl

theorem modify_of_getElem?_none {α : Type} {l : List α} {k : Nat} (f : α → α)
    (h : l[k]? = none) : l.modify k f = l := by
  rw [List.modify_eq_set_getElem?, h]; rfl

@[simp] theorem withdraw_sessions :
    (w.withdraw s i).sessions = w.sessions.modify s (·.leave i) := by
  unfold withdraw
  dsimp only
  split <;> rename_i h
  · rw [modify_of_getElem? _ h]; rfl
  · rw [modify_of_getElem?_none _ h]

@[simp] theorem finish_pool (r : Except Failure Report) :
    (w.finish s i r).pool = w.pool.leave i := by simp [finish]
@[simp] theorem finish_tasks (r : Except Failure Report) :
    (w.finish s i r).tasks = w.tasks.set i (.operation s (.done r)) := by simp [finish]
@[simp] theorem finish_sessions (r : Except Failure Report) :
    (w.finish s i r).sessions = w.sessions.modify s (·.leave i) := by simp [finish]
@[simp] theorem finish_pages (r : Except Failure Report) :
    (w.finish s i r).pages = w.pages := by simp [finish]
@[simp] theorem finish_now (r : Except Failure Report) :
    (w.finish s i r).now = w.now := by simp [finish]
@[simp] theorem finish_asked (r : Except Failure Report) :
    (w.finish s i r).asked = w.asked := by simp [finish]

end ScriptSandbox.Scene
