/-!
# Waiting lines

A line gives a thing to one task at a time, in the order in which they asked. The first task in it
has the thing; a task leaves when it is done, or when it no longer wants it.
-/

namespace ScriptSandbox

abbrev TaskId := Nat

abbrev Line := List TaskId

namespace Line

/-- Whether a task has what the line is for. -/
def serves (l : Line) (i : TaskId) : Bool := l.head? == some i

def join (l : Line) (i : TaskId) : Line := l ++ [i]

def leave (l : Line) (i : TaskId) : Line := l.erase i

variable {l : Line} {i j : TaskId}

theorem serves_iff : l.serves i = true ↔ l.head? = some i := by simp [serves]

theorem mem_of_serves (h : l.serves i = true) : i ∈ l := List.mem_of_mem_head? (serves_iff.1 h)

@[simp] theorem mem_join : j ∈ l.join i ↔ j ∈ l ∨ j = i := by simp [join]

theorem nodup_join (h : l.Nodup) (hi : i ∉ l) : (l.join i).Nodup := by
  rw [join, List.nodup_append]
  refine ⟨h, by simp, ?_⟩
  rintro a ha b hb rfl
  rw [List.mem_singleton] at hb
  exact hi (hb ▸ ha)

theorem head_join (h : l.head? = some j) : (l.join i).head? = some j := by
  cases l with
  | nil => simp at h
  | cons a l => simpa [join] using h

theorem mem_leave (h : l.Nodup) : j ∈ l.leave i ↔ j ∈ l ∧ j ≠ i := by
  rw [leave, h.mem_erase_iff, and_comm]

theorem nodup_leave (h : l.Nodup) : (l.leave i).Nodup := h.erase i

theorem head_leave (h : l.head? = some j) (hij : i ≠ j) : (l.leave i).head? = some j := by
  cases l with
  | nil => simp at h
  | cons a l =>
    obtain rfl : a = j := by simpa using h
    simp [leave, hij.symm]

end Line

end ScriptSandbox
