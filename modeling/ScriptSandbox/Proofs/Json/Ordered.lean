import Mathlib.Data.List.Basic
import Mathlib.Data.String.Basic
import ScriptSandbox.Json.Basic

/-!
# Fields in order

Whatever the order in which the fields of an object come, the object is the same
(`object_eq_of_perm`), as long as each name stands once.
-/

namespace ScriptSandbox.Json

variable {name : String} {value : Json} {fields gs : List (String × Json)}

/-- The fields are in increasing order of their names. -/
def InOrder (fields : List (String × Json)) : Prop := fields.Pairwise (·.1 < ·.1)

theorem InOrder.nodup (h : InOrder fields) : (fields.map Prod.fst).Nodup :=
  (List.pairwise_map.2 h).imp fun hlt => ne_of_lt hlt

theorem insertField_perm (hname : ∀ f ∈ fields, f.1 ≠ name) :
    (insertField name value fields).Perm ((name, value) :: fields) := by
  induction fields with
  | nil => exact .refl _
  | cons f fields ih =>
    obtain ⟨other, old⟩ := f
    have hne : name ≠ other := (hname _ List.mem_cons_self).symm
    unfold insertField
    rw [if_neg hne]
    split
    · exact .refl _
    · exact ((ih fun f hf => hname f (List.mem_cons_of_mem _ hf)).cons _).trans (.swap ..)

theorem InOrder.insertField (h : InOrder fields) (hname : ∀ f ∈ fields, f.1 ≠ name) :
    InOrder (insertField name value fields) := by
  induction fields with
  | nil => exact List.pairwise_singleton ..
  | cons f fields ih =>
    obtain ⟨other, old⟩ := f
    obtain ⟨hother, hfields⟩ := List.pairwise_cons.1 h
    have hne : name ≠ other := (hname _ List.mem_cons_self).symm
    have hrest : ∀ f ∈ fields, f.1 ≠ name := fun f hf => hname f (List.mem_cons_of_mem _ hf)
    unfold Json.insertField
    rw [if_neg hne]
    split
    · rename_i hlt
      refine List.pairwise_cons.2 ⟨fun f hf => ?_, h⟩
      rcases List.mem_cons.1 hf with rfl | hf
      · exact hlt
      · exact lt_trans hlt (hother f hf)
    · rename_i hle
      refine List.pairwise_cons.2 ⟨fun f hf => ?_, ih hfields hrest⟩
      rcases List.mem_cons.1 ((insertField_perm hrest).subset hf) with rfl | hf
      · exact lt_of_le_of_ne (not_lt.1 hle) hne.symm
      · exact hother f hf

theorem foldl_insertField (h : ((fields ++ gs).map Prod.fst).Nodup) (ho : InOrder fields) :
    InOrder (gs.foldl (fun acc f => insertField f.1 f.2 acc) fields) ∧
      (gs.foldl (fun acc f => insertField f.1 f.2 acc) fields).Perm (fields ++ gs) := by
  induction gs generalizing fields with
  | nil => exact ⟨ho, by rw [List.append_nil]; exact .refl _⟩
  | cons g gs ih =>
    obtain ⟨name, value⟩ := g
    have hname : ∀ f ∈ fields, f.1 ≠ name := by
      rw [List.map_append, List.nodup_append] at h
      exact fun f hf => h.2.2 f.1 (List.mem_map_of_mem hf) name (by simp)
    have hperm : (insertField name value fields ++ gs).Perm (fields ++ (name, value) :: gs) :=
      ((insertField_perm hname).append_right gs).trans List.perm_middle.symm
    obtain ⟨hin, hfold⟩ := @ih (insertField name value fields)
      (((hperm.map Prod.fst).nodup_iff).2 h) (ho.insertField hname)
    exact ⟨hin, hfold.trans hperm⟩

/-- The order in which fields come makes no difference. -/
theorem object_eq_of_perm (h : gs.Perm fields) (ho : InOrder fields) : object gs = .obj fields := by
  have hnodup : ((([] : List (String × Json)) ++ gs).map Prod.fst).Nodup :=
    ((h.map Prod.fst).nodup_iff).2 ho.nodup
  obtain ⟨hin, hperm⟩ := foldl_insertField hnodup List.Pairwise.nil
  have heq : gs.foldl (fun acc f => insertField f.1 f.2 acc) [] = fields :=
    (hperm.trans h).eq_of_pairwise (fun a b _ _ hab hba => absurd hab (lt_asymm hba)) hin ho
  rw [object, heq]

/-! ## Values that are not changed on the way -/

/-- Values without doubles, whose whole numbers have at most 53 bits, whose objects have their fields in
order, and whose arrays and objects nest at most so deep. -/
def Portable : Nat → Json → Prop
  | _, .null | _, .bool _ | _, .str _ => True
  | _, .num (.int i) => i.natAbs < 2 ^ 53
  | _, .num (.double _) => False
  | 0, .arr _ | 0, .obj _ => False
  | d + 1, .arr items => ∀ j ∈ items, Portable d j
  | d + 1, .obj fields => InOrder fields ∧ ∀ f ∈ fields, Portable d f.2

end ScriptSandbox.Json
