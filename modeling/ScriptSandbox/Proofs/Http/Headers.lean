import Mathlib.Data.List.Induction
import ScriptSandbox.Http.Message

/-!
# Headers

A list of headers is read by `lookup`. Each way to put a header into a list says what is found
there then, and keeps the names apart (`Headers.Apart`); so the headers of an option are those that
are written in it, and of two whose names differ in case only the later counts
(`Headers.lookup_ofFields`).
-/

namespace ScriptSandbox.Headers

variable {hs : Headers} {name value : String} {fields : List (String × Json)}

/-- No two headers have one name. -/
def Apart (hs : Headers) : Prop := hs.Pairwise fun h h' => h.1 ≠ h'.1

/-! ## Putting a header in its place -/

theorem lookup_eq_none_iff : hs.lookup name = none ↔ ∀ h ∈ hs, h.1 ≠ name := by
  rw [List.lookup_eq_none_iff]
  simp only [bne_iff_ne, ne_comm]

theorem lookup_remaining (hs : Headers) (name key : String) :
    (hs.filter (·.1 != name)).lookup key = if key = name then none else hs.lookup key := by
  induction hs with
  | nil => simp
  | cons h hs ih =>
    obtain ⟨other, old⟩ := h
    by_cases hname : other = name
    · subst hname
      rw [List.filter_cons_of_neg (by simp), ih, List.lookup_cons]
      split
      · rfl
      · rename_i hne
        rw [beq_false_of_ne hne]
    · rw [List.filter_cons_of_pos (by simpa using hname), List.lookup_cons, List.lookup_cons, ih]
      by_cases hkey : key = other
      · subst hkey
        simp [hname]
      · rw [beq_false_of_ne hkey]

theorem lookup_set (hs : Headers) (name value key : String) :
    (hs.set name value).lookup key = if key = name then some value else hs.lookup key := by
  rw [set, List.lookup_append, lookup_remaining]
  split
  · rename_i heq
    simp [heq]
  · rename_i hne
    simp [List.lookup_cons, beq_false_of_ne hne]

/-- A header stands behind others whose names are apart, and none of which has its name. -/
theorem Apart.concat (h : hs.Apart) (hname : ∀ h ∈ hs, h.1 ≠ name) (value : String) :
    Apart (hs ++ [(name, value)]) :=
  List.pairwise_append.2 ⟨h, List.pairwise_singleton .., fun _ hmem _ hlast => by
    rw [List.mem_singleton.1 hlast]
    exact hname _ hmem⟩

theorem Apart.set (h : hs.Apart) (name value : String) : (hs.set name value).Apart :=
  Apart.concat (List.Pairwise.filter _ h)
    (fun _ hmem => bne_iff_ne.1 (List.mem_filter.1 hmem).2) value

/-- Headers have come in behind others, each with a name of its own. -/
structure Keeps (hs hs' : Headers) : Prop where
  lookup : ∀ name text, hs.lookup name = some text → hs'.lookup name = some text
  apart : hs.Apart → hs'.Apart

theorem Keeps.refl (hs : Headers) : hs.Keeps hs := ⟨fun _ _ h => h, id⟩

theorem Keeps.trans {hs' hs'' : Headers} (h : hs.Keeps hs') (h' : hs'.Keeps hs'') :
    hs.Keeps hs'' :=
  ⟨fun name text hname => h'.lookup name text (h.lookup name text hname),
    fun hapart => h'.apart (h.apart hapart)⟩

theorem keeps_setDefault (hs : Headers) (name value : String) :
    hs.Keeps (hs.setDefault name value) := by
  unfold setDefault
  split
  · exact .refl hs
  · rename_i hnone
    exact ⟨fun other text h => by rw [List.lookup_append, h, Option.some_or],
      fun h => h.concat (lookup_eq_none_iff.1 (Option.not_isSome_iff_eq_none.1 hnone)) value⟩

theorem keeps_setDefaults (hs defaults : Headers) :
    hs.Keeps (defaults.foldl (fun hs h => hs.setDefault h.1 h.2) hs) := by
  induction defaults generalizing hs with
  | nil => exact .refl hs
  | cons h defaults ih => exact (keeps_setDefault hs h.1 h.2).trans (ih _)

/-! ## The headers of an option -/

/-- The text of a value. -/
def textOf : Json → String
  | .str s => s
  | other => other.compact

/-- The field gives a header: its name is a name of headers, and its text may be a value. -/
def IsHeader (field : String × Json) : Prop :=
  isToken field.1 = true ∧ isValue (textOf field.2) = true

instance : DecidablePred IsHeader := fun _ => inferInstanceAs (Decidable (_ ∧ _))

/-- The headers as they are written in an option, one for each field. -/
def written (fields : List (String × Json)) : Headers :=
  fields.map fun f => (Text.lowerAscii f.1, textOf f.2)

theorem addField_eq (hs : Headers) (given : String) (value : Json) :
    addField hs (given, value) =
      let name := Text.lowerAscii given
      if isToken given = false then .error (.invalidInput s!"invalid header name '{given}'")
      else if isValue (textOf value) = false then
        .error (.invalidInput s!"invalid value for header '{name}'")
      else .ok (hs.set name (textOf value)) := by
  have hdo : addField hs (given, value) = (do
      if !isToken given then throw (.invalidInput s!"invalid header name '{given}'")
      let name := Text.lowerAscii given
      if !isValue (textOf value) then throw (.invalidInput s!"invalid value for header '{name}'")
      return hs.set name (textOf value)) := rfl
  rw [hdo]
  cases isToken given <;> cases isValue (textOf value) <;> rfl

theorem addField_of_isHeader {field : String × Json} (h : IsHeader field) (hs : Headers) :
    addField hs field = .ok (hs.set (Text.lowerAscii field.1) (textOf field.2)) := by
  rw [addField_eq]
  simp only [h.1, h.2, Bool.true_eq_false, if_false]

theorem addField_of_not {field : String × Json} (h : ¬ IsHeader field) (hs : Headers) :
    ∃ message, addField hs field = .error (.invalidInput message) := by
  rw [addField_eq]
  dsimp only
  split
  · exact ⟨_, rfl⟩
  · rename_i hname
    rw [if_pos (eq_false_of_ne_true fun hvalue => h ⟨eq_true_of_ne_false hname, hvalue⟩)]
    exact ⟨_, rfl⟩

/-- The headers of the fields, put in one after the other. -/
def ofFields (fields : List (String × Json)) : Headers :=
  (written fields).foldl (fun hs h => hs.set h.1 h.2) []

theorem foldlM_addField (h : ∀ f ∈ fields, IsHeader f) (hs : Headers) :
    fields.foldlM addField hs = .ok ((written fields).foldl (fun hs h => hs.set h.1 h.2) hs) := by
  induction fields generalizing hs with
  | nil => rfl
  | cons field fields ih =>
    rw [List.foldlM_cons, addField_of_isHeader (h field List.mem_cons_self)]
    exact ih (fun f hf => h f (List.mem_cons_of_mem _ hf)) _

theorem foldlM_addField_of_not (h : ∃ f ∈ fields, ¬ IsHeader f) (hs : Headers) :
    ∃ message, fields.foldlM addField hs = .error (.invalidInput message) := by
  induction fields generalizing hs with
  | nil => simp at h
  | cons field fields ih =>
    rw [List.foldlM_cons]
    by_cases hfield : IsHeader field
    · rw [addField_of_isHeader hfield]
      obtain ⟨f, hmem, hf⟩ := h
      rcases List.mem_cons.1 hmem with rfl | hrest
      · exact absurd hfield hf
      · exact ih ⟨f, hrest, hf⟩ _
    · obtain ⟨message, hmessage⟩ := addField_of_not hfield hs
      exact ⟨message, by rw [hmessage]; rfl⟩

/-- Of two names that differ in case only the later counts. -/
theorem lookup_ofFields (fields : List (String × Json)) (name : String) :
    (ofFields fields).lookup name = (written fields).reverse.lookup name := by
  unfold ofFields
  induction written fields using List.reverseRecOn with
  | nil => rfl
  | append_singleton hs h ih =>
    rw [List.foldl_append, List.reverse_append]
    show (Headers.set _ h.1 h.2).lookup name = (h :: hs.reverse).lookup name
    rw [lookup_set, ih, List.lookup_cons]
    by_cases heq : name = h.1
    · rw [if_pos heq, beq_iff_eq.2 heq]
    · rw [if_neg heq, beq_false_of_ne heq]

theorem apart_ofFields (fields : List (String × Json)) : (ofFields fields).Apart := by
  unfold ofFields
  induction written fields using List.reverseRecOn with
  | nil => exact .nil
  | append_singleton hs h ih =>
    rw [List.foldl_append]
    exact ih.set h.1 h.2

theorem eq_ofFields (h : ofJson (.obj fields) = .ok hs) : hs = ofFields fields := by
  by_cases hall : ∀ f ∈ fields, IsHeader f
  · rw [ofJson, foldlM_addField hall] at h
    exact (Except.ok.inj h).symm
  · obtain ⟨f, hmem, hf⟩ : ∃ f ∈ fields, ¬ IsHeader f := by simpa using hall
    obtain ⟨message, hmessage⟩ := foldlM_addField_of_not ⟨f, hmem, hf⟩ []
    rw [ofJson, hmessage] at h
    exact nomatch h

theorem apart_of_ofJson {option : Json} (h : ofJson option = .ok hs) : hs.Apart := by
  cases option with
  | null =>
    obtain rfl : [] = hs := Except.ok.inj h
    exact .nil
  | obj fields =>
    rw [eq_ofFields h]
    exact apart_ofFields fields
  | bool | num | str | arr => exact nomatch h

end ScriptSandbox.Headers
