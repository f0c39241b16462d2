import Mathlib.Logic.Function.Basic
import ScriptSandbox.Browser.Line

/-!
# Lines that are kept

A line is kept when it holds exactly the tasks that stand in it, each once, and when nobody but the
first has what the line is for. Joining, taking one's turn and leaving keep it so.
-/

namespace ScriptSandbox

open Function

/-- Where a task is with regard to a line. -/
inductive Standing
  | out
  | waiting
  | holding
deriving DecidableEq

namespace Line

structure Kept (l : Line) (standing : TaskId → Standing) : Prop where
  nodup : l.Nodup
  mem_iff : ∀ i, i ∈ l ↔ standing i ≠ .out
  head : ∀ i, standing i = .holding → l.head? = some i

variable {l : Line} {standing : TaskId → Standing} {i j : TaskId}

theorem kept_nil (h : ∀ i, standing i = .out) : Kept [] standing :=
  ⟨List.nodup_nil, fun i => by simp [h i], fun i hi => by simp [h i] at hi⟩

theorem Kept.not_mem (h : Kept l standing) (hi : standing i = .out) : i ∉ l := by
  rw [h.mem_iff]; exact fun hne => hne hi

/-- Nobody shares what a line is for. -/
theorem Kept.holding_unique (h : Kept l standing) (hi : standing i = .holding)
    (hj : standing j = .holding) : i = j :=
  Option.some.inj ((h.head i hi).symm.trans (h.head j hj))

theorem Kept.holding_of_serves (h : Kept l standing) (hi : l.serves i = true)
    (hj : standing j = .holding) : j = i :=
  Option.some.inj ((h.head j hj).symm.trans (serves_iff.1 hi))

theorem Kept.join (h : Kept l standing) (hi : standing i = .out) :
    Kept (l.join i) (update standing i .waiting) where
  nodup := nodup_join h.nodup (h.not_mem hi)
  mem_iff j := by
    rw [mem_join, h.mem_iff]
    by_cases hj : j = i
    · subst hj; simp
    · simp [hj]
  head j hj := by
    by_cases hji : j = i
    · subst hji; simp at hj
    · rw [update_of_ne hji] at hj
      exact head_join (h.head j hj)

theorem Kept.turn (h : Kept l standing) (hi : l.serves i = true) :
    Kept l (update standing i .holding) where
  nodup := h.nodup
  mem_iff j := by
    by_cases hj : j = i
    · subst hj; simpa using mem_of_serves hi
    · rw [update_of_ne hj, h.mem_iff]
  head j hj := by
    by_cases hji : j = i
    · subst hji; exact serves_iff.1 hi
    · rw [update_of_ne hji] at hj
      exact h.head j hj

theorem Kept.leave (h : Kept l standing) : Kept (l.leave i) (update standing i .out) where
  nodup := nodup_leave h.nodup
  mem_iff j := by
    rw [mem_leave h.nodup, h.mem_iff]
    by_cases hj : j = i
    · subst hj; simp
    · simp [hj]
  head j hj := by
    by_cases hji : j = i
    · subst hji; simp at hj
    · rw [update_of_ne hji] at hj
      exact head_leave (h.head j hj) (Ne.symm hji)

/-- A task that keeps its standing changes nothing. -/
theorem Kept.stay {x : Standing} (h : Kept l standing) (hi : standing i = x) :
    Kept l (update standing i x) := by
  rw [← hi, update_eq_self]; exact h

end Line

end ScriptSandbox
