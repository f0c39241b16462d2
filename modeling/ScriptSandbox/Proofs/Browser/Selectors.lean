import ScriptSandbox.Proofs.Browser.Elements
import ScriptSandbox.Proofs.Json.ReadBack

/-!
# Selectors stay within their literals

A script that is about an element is a fixed text, one literal and another fixed text. The literal is
read as the selector and ends where it ends whatever stands behind it (`isLiteral_quote`), so a script
can be taken apart in one way only (`IsLiteral.unique`): nothing in a selector is read as a part of the
script around it (`selectors_contained`).
-/

namespace ScriptSandbox

/-- A text that is read as one JSON string, and in the same way whatever stands behind it. -/
def IsLiteral (literal : Bytes) (s : String) : Prop :=
  ∀ depth n rest, Json.readValue depth (n + 1) (literal ++ rest) = .ok (.str s, rest)

theorem isLiteral_quote (s : String) : IsLiteral (Utf8.encode (Json.quote s)) s :=
  Json.readValue_quote s

/-- A text begins with one literal at most. -/
theorem IsLiteral.unique {literal literal' rest rest' : Bytes} {s s' : String}
    (h : IsLiteral literal s) (h' : IsLiteral literal' s')
    (htext : literal ++ rest = literal' ++ rest') :
    s = s' ∧ literal = literal' ∧ rest = rest' := by
  have hread := h 0 0 rest
  rw [htext, h' 0 0 rest'] at hread
  obtain ⟨hs, rfl⟩ := Prod.mk.inj (Except.ok.inj hread)
  exact ⟨(Json.str.inj hs).symm, List.append_cancel_right htext, rfl⟩

namespace PageScript

/-- The scripts about an element. -/
def aboutElement : List Template := [visibility, clearing, submitting]

namespace Template

theorem encode_fill (t : Template) (s : String) : Utf8.encode (t.fill s) =
    Utf8.encode t.before ++ (Utf8.encode (Json.quote s) ++ Utf8.encode t.after) := by
  rw [fill, Utf8.encode_append, Utf8.encode_append, List.append_assoc]

/-- However a script is taken apart behind its first text, it is taken apart as it was put
together. -/
theorem parts_unique {t : Template} {s s' : String} {literal rest : Bytes}
    (h : IsLiteral literal s')
    (hscript : Utf8.encode (t.fill s) = Utf8.encode t.before ++ (literal ++ rest)) :
    s = s' ∧ literal = Utf8.encode (Json.quote s) ∧ rest = Utf8.encode t.after := by
  rw [encode_fill, List.append_cancel_left_eq] at hscript
  obtain ⟨hs, hliteral, hrest⟩ := (isLiteral_quote s).unique h hscript
  exact ⟨hs, hliteral.symm, hrest.symm⟩

theorem fill_injective (t : Template) : Function.Injective t.fill := by
  intro s s' h
  have hscript : Utf8.encode (t.fill s) =
      Utf8.encode t.before ++ (Utf8.encode (Json.quote s') ++ Utf8.encode t.after) := by
    rw [h, encode_fill]
  exact (parts_unique (isLiteral_quote s') hscript).1

end Template

/-- A script says which of the scripts it is. -/
theorem eq_of_fill_eq {t t' : Template} (ht : t ∈ aboutElement) (ht' : t' ∈ aboutElement)
    {s s' : String} (h : t.fill s = t'.fill s') : t = t' := by
  simp only [aboutElement, List.mem_cons, List.not_mem_nil, or_false] at ht ht'
  rcases ht with rfl | rfl | rfl <;> rcases ht' with rfl | rfl | rfl
  · rfl
  · exact absurd h (visibility_ne_clearing _ _)
  · exact absurd h (visibility_ne_submitting _ _)
  · exact absurd h.symm (visibility_ne_clearing _ _)
  · rfl
  · exact absurd h (clearing_ne_submitting _ _)
  · exact absurd h.symm (visibility_ne_submitting _ _)
  · exact absurd h.symm (clearing_ne_submitting _ _)
  · rfl

/-- A script about an element, whatever the selector:

* it is the fixed text before, a literal of the selector, and the fixed text behind;
* read at the end of the text before, the literal is the selector and no more than the literal, also
  where anything else stands behind;
* there is no other way to take the script apart into the text before, a literal and a rest;
* another selector, and another of these scripts, give another text. -/
theorem selectors_contained (t : Template) (ht : t ∈ aboutElement) (selector : String) :
    ∃ literal, IsLiteral literal selector ∧
      Utf8.encode (t.fill selector) = Utf8.encode t.before ++ (literal ++ Utf8.encode t.after) ∧
      (∀ depth n rest,
        Json.readValue depth (n + 1)
            ((Utf8.encode t.before ++ (literal ++ rest)).drop (Utf8.encode t.before).length) =
          .ok (.str selector, rest)) ∧
      (∀ other literal' rest, IsLiteral literal' other →
        Utf8.encode (t.fill selector) = Utf8.encode t.before ++ (literal' ++ rest) →
          other = selector ∧ literal' = literal ∧ rest = Utf8.encode t.after) ∧
      ∀ t' ∈ aboutElement, ∀ other, t.fill selector = t'.fill other → t = t' ∧ selector = other := by
  refine ⟨Utf8.encode (Json.quote selector), isLiteral_quote selector, t.encode_fill selector,
    fun depth n rest => ?_, fun other literal' rest hliteral hscript => ?_,
    fun t' ht' other h => ?_⟩
  · rw [List.drop_left]
    exact isLiteral_quote selector depth n rest
  · obtain ⟨hs, hrest⟩ := Template.parts_unique hliteral hscript
    exact ⟨hs.symm, hrest⟩
  · obtain rfl := eq_of_fill_eq ht ht' h
    exact ⟨rfl, t.fill_injective h⟩

/-- A selector that tries to end its literal, and to call a function of its own. -/
theorem selectors_contained_breakout :
    clearing ∈ aboutElement ∧
    ∃ literal, IsLiteral literal "\"); steal(document.cookie); //\n\\" ∧
      Utf8.encode (clearing.fill "\"); steal(document.cookie); //\n\\") =
        Utf8.encode clearing.before ++ (literal ++ Utf8.encode clearing.after) := by
  have hmem : clearing ∈ aboutElement := List.mem_cons_of_mem _ List.mem_cons_self
  obtain ⟨literal, hliteral, hscript, -⟩ :=
    selectors_contained clearing hmem "\"); steal(document.cookie); //\n\\"
  exact ⟨hmem, literal, hliteral, hscript⟩

end PageScript

end ScriptSandbox
