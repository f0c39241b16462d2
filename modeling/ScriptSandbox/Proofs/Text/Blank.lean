import Mathlib.Data.List.TakeWhile
import ScriptSandbox.Text.Blank

/-!
# Blanks around texts

Blanks around a text that has none are dropped, and the text stays as it is (`trim_padded`). Nothing
is left of a text exactly if it has nothing but blanks (`isEmpty_trim`).
-/

namespace ScriptSandbox.Text

theorem trim_padded {before word after : List Char} (hbefore : ∀ c ∈ before, isBlank c = true)
    (hafter : ∀ c ∈ after, isBlank c = true) (hword : ∀ c ∈ word, isBlank c = false) :
    trim (String.ofList (before ++ word ++ after)) = String.ofList word := by
  have hnone : ∀ cs : List Char, (∀ c ∈ cs, isBlank c = false) → cs.dropWhile isBlank = cs := by
    intro cs hcs
    cases cs with
    | nil => rfl
    | cons c cs => rw [List.dropWhile_cons_of_neg (by simp [hcs c List.mem_cons_self])]
  have hafter' : ∀ c ∈ after.reverse, isBlank c = true := fun c hc =>
    hafter c (List.mem_reverse.mp hc)
  rw [trim, String.toList_ofList, trimStart, List.append_assoc, List.dropWhile_append_of_pos hbefore]
  cases word with
  | nil => rw [List.nil_append, List.dropWhile_eq_nil_iff.2 hafter]; rfl
  | cons c word =>
    rw [List.cons_append, List.dropWhile_cons_of_neg (by simp [hword c List.mem_cons_self]),
      ← List.cons_append, trimEnd, List.reverse_append, List.dropWhile_append_of_pos hafter',
      hnone _ fun d hd => hword d (List.mem_reverse.mp hd), List.reverse_reverse]

theorem trimEnd_eq_nil_iff {cs : List Char} : trimEnd cs = [] ↔ ∀ c ∈ cs, isBlank c = true := by
  rw [trimEnd, List.reverse_eq_nil_iff, List.dropWhile_eq_nil_iff]
  simp only [List.mem_reverse]

theorem isEmpty_trim (text : String) : (trim text).isEmpty = isBlankText text := by
  have hend : trimEnd (trimStart text.toList) = [] ↔ trimStart text.toList = [] := by
    refine ⟨fun h => ?_, fun h => by rw [h]; rfl⟩
    by_contra hne
    -- the first character that is left is no blank
    have hhead : isBlank ((trimStart text.toList).head hne) = false :=
      List.head_dropWhile_not isBlank hne
    rw [trimEnd_eq_nil_iff.1 h _ (List.head_mem hne)] at hhead
    exact nomatch hhead
  rw [Bool.eq_iff_iff, String.isEmpty_iff, ← String.toList_eq_nil_iff, trim, String.toList_ofList,
    hend, trimStart, List.dropWhile_eq_nil_iff, isBlankText, List.all_eq_true]

end ScriptSandbox.Text
