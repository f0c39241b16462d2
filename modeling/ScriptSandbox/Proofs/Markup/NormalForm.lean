import ScriptSandbox.Proofs.Markup.Escaped
import Mathlib.Data.List.Destutter
import Mathlib.Data.List.DropRight

/-!
# The lines of a source that is not well formed

Three passes over the whole text see to its blanks: one closes the gaps, one the blank lines, and one
trims the lines and drops those that are empty. Together they give the same as one pass over the
lines, each taken on its own (`normalForm`), whatever the text is (`stripTags_eq`). So the text of a
source has the form that a normal form has, and a text that was escaped comes back in its normal
form.
-/

namespace ScriptSandbox.Markup

variable {cs l : List Char}

/-! ## The normal form -/

/-- Two characters that may stand side by side, which two spaces may not. -/
abbrev MayMeet (a b : Char) : Prop := ¬(a = ' ' ∧ b = ' ')

/-- A text with a space for each run of gaps. -/
def spaced (cs : List Char) : List Char :=
  (cs.map fun c => if isGap c then ' ' else c).destutter MayMeet

/-- A text without the blanks at its ends. -/
def trimmed (cs : List Char) : List Char := (cs.dropWhile Text.isBlank).rdropWhile Text.isBlank

/-- The trimmed lines of a text of which anything is left. -/
def shownLines (cs : List Char) : List (List Char) :=
  ((cs.splitOn '\n').map trimmed).filter (· ≠ [])

/-- The lines of a text, spaced and trimmed, without those of which nothing is left. -/
def normalForm (cs : List Char) : List Char :=
  ['\n'].intercalate (((cs.splitOn '\n').map fun l => trimmed (spaced l)).filter (· ≠ []))

/-! ## Gaps -/

theorem spaced_cons_of_not_isGap {c : Char} (hc : isGap c = false) :
    spaced (c :: cs) = c :: spaced cs := by
  have hspace : c ≠ ' ' := by
    rintro rfl
    exact absurd hc (by decide)
  unfold spaced
  rw [List.map_cons, if_neg (by rw [hc]; exact Bool.false_ne_true), List.destutter_cons']
  cases cs with
  | nil => rfl
  | cons d cs =>
    rw [List.map_cons, List.destutter'_cons_pos _ fun h => hspace h.1, List.destutter_cons']

theorem destutter'_space (cs : List Char) :
    (cs.map fun c => if isGap c then ' ' else c).destutter' MayMeet ' ' =
      ' ' :: spaced (cs.dropWhile isGap) := by
  induction cs with
  | nil => rfl
  | cons c cs ih =>
    by_cases hc : isGap c
    · rw [List.map_cons, if_pos hc, List.destutter'_cons_neg _ (not_not_intro ⟨rfl, rfl⟩), ih,
        List.dropWhile_cons_of_pos hc]
    · have hspace : c ≠ ' ' := by
        rintro rfl
        exact hc (by decide)
      rw [List.dropWhile_cons_of_neg hc, List.map_cons, if_neg hc,
        List.destutter'_cons_pos _ fun h => hspace h.2, ← List.destutter_cons']
      unfold spaced
      rw [List.map_cons, if_neg hc]

theorem closeGaps_eq (cs : List Char) : closeGaps cs = spaced cs := by
  induction cs using closeGaps.induct with
  | case1 => exact closeGaps.eq_1 ..
  | case2 c cs hc ih =>
    rw [closeGaps, if_pos hc, ih, ← destutter'_space]
    unfold spaced
    rw [List.map_cons, if_pos hc, List.destutter_cons']
  | case3 c cs hc ih =>
    rw [closeGaps, if_neg hc, ih, spaced_cons_of_not_isGap (Bool.eq_false_iff.2 hc)]

/-- A line break is no gap, so the gaps of each line are closed on their own. -/
theorem closeGaps_line (l cs : List Char) :
    closeGaps (l ++ '\n' :: cs) = closeGaps l ++ '\n' :: closeGaps cs := by
  have hbreak : ¬ isGap '\n' = true := by decide
  induction l using closeGaps.induct with
  | case1 => rw [List.nil_append, closeGaps.eq_2, if_neg hbreak, closeGaps.eq_1, List.nil_append]
  | case2 c l hc ih =>
    have hrest : (l ++ '\n' :: cs).dropWhile isGap = l.dropWhile isGap ++ '\n' :: cs := by
      rw [List.dropWhile_append]
      split
      · rename_i hempty
        rw [List.isEmpty_iff.1 hempty, List.dropWhile_cons_of_neg hbreak, List.nil_append]
      · rfl
    rw [List.cons_append, closeGaps, if_pos hc, hrest, ih, closeGaps.eq_2 c l, if_pos hc,
      List.cons_append]
  | case3 c l hc ih =>
    rw [List.cons_append, closeGaps, if_neg hc, ih, closeGaps.eq_2 c l, if_neg hc, List.cons_append]

theorem not_mem_spaced (hl : '\n' ∉ l) : '\n' ∉ spaced l := by
  intro h
  obtain ⟨c, hc, heq⟩ := List.mem_map.1 ((List.destutter_sublist _ _).subset h)
  split at heq
  · cases heq
  · exact hl (heq ▸ hc)

/-- A line has no line break, and is a part of the text. -/
theorem line_of_mem_splitOn (h : l ∈ cs.splitOn '\n') : '\n' ∉ l ∧ l ⊆ cs := by
  induction cs generalizing l with
  | nil =>
    rw [List.splitOn_nil, List.mem_singleton] at h
    simp [h]
  | cons c cs ih =>
    obtain ⟨line, rest, hsplit⟩ := List.exists_cons_of_ne_nil (List.splitOn_ne_nil '\n' cs)
    rw [List.splitOn_cons_eq_if_modifyHead, hsplit] at h
    rw [hsplit] at ih
    split at h
    · rcases List.mem_cons.1 h with rfl | h
      · simp
      · exact ⟨(ih h).1, List.subset_cons_of_subset c (ih h).2⟩
    · rename_i hc
      rcases List.mem_cons.1 h with rfl | h
      · obtain ⟨hmem, hsubset⟩ := ih List.mem_cons_self
        refine ⟨fun hbreak => ?_, List.cons_subset_cons c hsubset⟩
        rcases List.mem_cons.1 hbreak with rfl | hbreak
        · exact hc rfl
        · exact hmem hbreak
      · have hrest := ih (List.mem_cons_of_mem _ h)
        exact ⟨hrest.1, List.subset_cons_of_subset c hrest.2⟩

theorem closeGaps_intercalate (ls : List (List Char)) :
    closeGaps (['\n'].intercalate ls) = ['\n'].intercalate (ls.map closeGaps) := by
  induction ls with
  | nil => exact closeGaps.eq_1 ..
  | cons l ls ih =>
    cases ls with
    | nil => simp
    | cons l' ls =>
      rw [List.intercalate_cons_cons, List.append_assoc, List.singleton_append, closeGaps_line, ih]
      simp [List.intercalate_cons_cons]

theorem splitOn_closeGaps (cs : List Char) :
    (closeGaps cs).splitOn '\n' = (cs.splitOn '\n').map spaced := by
  have hjoin : ['\n'].intercalate (cs.splitOn '\n') = cs := List.intercalate_splitOn '\n'
  conv_lhs => rw [← hjoin, closeGaps_intercalate]
  rw [funext closeGaps_eq, List.splitOn_intercalate]
  · intro l hl
    obtain ⟨line, hline, rfl⟩ := List.mem_map.1 hl
    exact not_mem_spaced (line_of_mem_splitOn hline).1
  · simp

/-! ## Blank lines -/

theorem shownLines_line (l cs : List Char) :
    shownLines (l ++ '\n' :: cs) = shownLines l ++ shownLines cs := by
  unfold shownLines
  rw [List.splitOn_append_cons_self, List.map_append, List.filter_append]

theorem shownLines_of_blank (h : cs.all Text.isBlank) : shownLines cs = [] := by
  unfold shownLines
  rw [List.filter_eq_nil_iff]
  intro line hline
  obtain ⟨l, hl, rfl⟩ := List.mem_map.1 hline
  have hblank : ∀ c ∈ l, Text.isBlank c := fun c hc =>
    List.all_eq_true.1 h c ((line_of_mem_splitOn hl).2 hc)
  have hnil : trimmed l = [] := by
    rw [trimmed, List.dropWhile_eq_nil_iff.2 hblank, List.rdropWhile_nil]
  simp [hnil]

/-- What is passed over with a line break are blank lines. -/
theorem exists_of_afterBlankLines {rest : List Char} (h : afterBlankLines cs = some rest) :
    ∃ blanks, cs = blanks ++ '\n' :: rest ∧ blanks.all Text.isBlank := by
  induction cs with
  | nil => cases h
  | cons c cs ih =>
    unfold afterBlankLines at h
    split at h
    · rename_i hc
      rcases Option.or_eq_some_iff.1 h with h | ⟨-, h⟩
      · obtain ⟨blanks, rfl, hblanks⟩ := ih h
        exact ⟨c :: blanks, rfl, by rw [List.all_cons, hc, hblanks]; rfl⟩
      · split at h
        · rename_i hbreak
          cases h
          exact ⟨[], by rw [hbreak, List.nil_append], rfl⟩
        · cases h
    · cases h

theorem closeBlankLines_of_some {after : List Char} (h : afterBlankLines cs = some after) :
    closeBlankLines ('\n' :: cs) = '\n' :: closeBlankLines after := by
  have hmatch : (if '\n' = '\n' then afterBlankLines cs else none) = some after := by rw [if_pos rfl, h]
  rw [closeBlankLines]
  split
  · rename_i heq
    rw [Option.some.inj (hmatch.symm.trans heq)]
  · rename_i heq
    cases hmatch.symm.trans heq

theorem closeBlankLines_of_none {c : Char} (h : c = '\n' → afterBlankLines cs = none) :
    closeBlankLines (c :: cs) = c :: closeBlankLines cs := by
  have hmatch : (if c = '\n' then afterBlankLines cs else none) = none := by
    split
    · exact h ‹_›
    · rfl
  rw [closeBlankLines]
  split
  · rename_i heq
    cases hmatch.symm.trans heq
  · rfl

/-- The lines that are shown do not change where blank lines are closed, whatever stands in front of
them. -/
theorem shownLines_closeBlankLines (l cs : List Char) :
    shownLines (l ++ closeBlankLines cs) = shownLines (l ++ cs) := by
  induction cs using closeBlankLines.induct generalizing l with
  | case1 => rw [closeBlankLines.eq_1]
  | case2 c cs after hafter ih =>
    obtain ⟨rfl, hafter⟩ : c = '\n' ∧ afterBlankLines cs = some after := by
      split at hafter
      · exact ⟨‹_›, hafter⟩
      · cases hafter
    obtain ⟨blanks, rfl, hblanks⟩ := exists_of_afterBlankLines hafter
    rw [closeBlankLines_of_some hafter, shownLines_line, shownLines_line, shownLines_line,
      shownLines_of_blank hblanks, List.nil_append]
    exact congrArg _ (ih [])
  | case3 c cs hnone ih =>
    have hnone : c = '\n' → afterBlankLines cs = none := fun hc => by rwa [dif_pos hc] at hnone
    rw [closeBlankLines_of_none hnone]
    simpa using ih (l ++ [c])

/-! ## The lines together -/

theorem lines_eq (cs : List Char) : lines cs = cs.splitOn '\n' := by
  induction cs with
  | nil => rfl
  | cons c cs ih =>
    rw [List.splitOn_cons_eq_if_modifyHead, ← ih]
    by_cases hc : c = '\n'
    · simp [lines, hc]
    · simp [lines, hc]

theorem tidy_eq (cs : List Char) : tidy cs = ['\n'].intercalate (shownLines cs) := by
  have hfilter : (fun l : List Char => !l.isEmpty) = fun l => decide (l ≠ []) := by
    funext l
    cases l <;> rfl
  unfold tidy joinLines shownLines
  rw [lines_eq, hfilter]
  rfl

/-- The passes give the normal form of the text without its tags. -/
theorem stripTags_eq (source : List Char) :
    stripTags source = normalForm (decodePlain (dropTags (dropCode source))) := by
  generalize hcs : decodePlain (dropTags (dropCode source)) = cs
  have hshown := shownLines_closeBlankLines [] (closeGaps cs)
  rw [List.nil_append, List.nil_append] at hshown
  rw [stripTags, hcs, tidy_eq, hshown, shownLines, splitOn_closeGaps, List.map_map]
  rfl

/-! ## What a normal form looks like -/

/-- A line as it is shown: there is something in it, and no blank at its ends. -/
structure Shown (line : List Char) : Prop where
  ne_nil : line ≠ []
  head : ∀ c ∈ line.head?, ¬ Text.isBlank c
  last : ∀ c ∈ line.getLast?, ¬ Text.isBlank c

theorem infix_trimmed (cs : List Char) : trimmed cs <:+: cs :=
  (List.rdropWhile_prefix _ _).isInfix.trans (List.dropWhile_suffix _).isInfix

theorem isChain_within {ls : List Char} (h : cs.IsChain MayMeet) (hls : ls <:+: cs) :
    ls.IsChain MayMeet := by
  obtain ⟨front, behind, rfl⟩ := hls
  exact h.left_of_append.right_of_append

theorem Shown.of_trimmed (h : trimmed cs ≠ []) : Shown (trimmed cs) where
  ne_nil := h
  head := by
    intro c hc
    have hrest : cs.dropWhile Text.isBlank ≠ [] := fun hnil => h (by rw [trimmed, hnil]; rfl)
    have hhead : (cs.dropWhile Text.isBlank).head hrest = c := by
      rw [← (List.rdropWhile_prefix Text.isBlank _).head h]
      exact List.head_of_mem_head? hc
    rw [← hhead, List.head_dropWhile_not Text.isBlank hrest]
    exact Bool.false_ne_true
  last := by
    intro c hc
    have hlast : (trimmed cs).getLast h = c := List.mem_getLast?_eq_getLast hc |>.2.symm
    rw [← hlast]
    exact List.rdropWhile_last_not Text.isBlank _ h

/-- The lines of a normal form are shown lines in which no two spaces meet. -/
theorem line_of_normal (h : l ∈ ((cs.splitOn '\n').map fun l => trimmed (spaced l)).filter (· ≠ [])) :
    '\n' ∉ l ∧ Shown l ∧ l.IsChain MayMeet := by
  obtain ⟨hl, hne⟩ := List.mem_filter.1 h
  obtain ⟨line, hline, rfl⟩ := List.mem_map.1 hl
  have hmem := not_mem_spaced (line_of_mem_splitOn hline).1
  exact ⟨fun hbreak => hmem ((infix_trimmed _).subset hbreak), .of_trimmed (of_decide_eq_true hne),
    isChain_within (List.isChain_destutter _ _) (infix_trimmed _)⟩

/-- Lines in which no two spaces meet have none that meet when they are put together. -/
theorem isChain_intercalate {ls : List (List Char)} (h : ∀ l ∈ ls, l.IsChain MayMeet) :
    (['\n'].intercalate ls).IsChain MayMeet := by
  induction ls with
  | nil => exact List.isChain_nil
  | cons l ls ih =>
    obtain ⟨hl, hls⟩ := List.forall_mem_cons.1 h
    cases ls with
    | nil => rwa [List.intercalate_singleton]
    | cons l' ls =>
      rw [List.intercalate_cons_cons, List.append_assoc, List.isChain_append]
      refine ⟨hl, ?_, by simp⟩
      rw [List.singleton_append, List.isChain_cons]
      exact ⟨by simp, ih hls⟩

theorem splitOn_normalForm (cs : List Char) :
    normalForm cs = [] ∨ ∀ line ∈ (normalForm cs).splitOn '\n', Shown line := by
  unfold normalForm
  by_cases hnil : ((cs.splitOn '\n').map fun l => trimmed (spaced l)).filter (· ≠ []) = []
  · exact .inl (by rw [hnil]; rfl)
  · rw [List.splitOn_intercalate '\n' (fun l hl => (line_of_normal hl).1) hnil]
    exact .inr fun l hl => (line_of_normal hl).2.1

/-- A text that was escaped comes back in its normal form, and is decoded once. Whatever the source
is, its text has no line that is empty or has a blank at an end, and no two spaces side by side. -/
theorem stripTags_normal :
    (∀ text, stripTags (escaped text) = normalForm text) ∧
      ∀ source, (stripTags source = [] ∨ ∀ line ∈ (stripTags source).splitOn '\n', Shown line) ∧
        ¬ [' ', ' '] <:+: stripTags source := by
  refine ⟨fun text => ?_, fun source => ?_⟩
  · rw [stripTags_eq, dropCode_of_not_mem (not_mem_escaped text),
      dropTags_of_not_mem (not_mem_escaped text), decodePlain_escaped]
  · rw [stripTags_eq]
    refine ⟨splitOn_normalForm _, fun hinfix => ?_⟩
    have hmeet := isChain_within (isChain_intercalate fun l hl => (line_of_normal hl).2.2) hinfix
    exact List.isChain_pair.1 hmeet ⟨rfl, rfl⟩

end ScriptSandbox.Markup
