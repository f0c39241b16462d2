import ScriptSandbox.Markup.Content

/-!
# Entities that are decoded once

The entities are decoded one after the other, over the whole text each time. A text in which all
special characters have been escaped at once comes back all the same (`decodePlain_escaped`): while one
entity is decoded, every ampersand that is left begins an entity that is still to come, so nothing
is taken for an entity that was not written as one.
-/

namespace ScriptSandbox.Markup

variable {old new block rest cs : List Char} {c : Char}

/-! ## Escaping -/

/-- The characters that markup does not take as they are, each with its entity. -/
abbrev Escapes := List (Char × List Char)

/-- The entities that `stripTags` knows, in the order in which it decodes them. -/
def Escapes.all : Escapes :=
  [('<', "&lt;".toList), ('>', "&gt;".toList), ('"', "&quot;".toList), ('\'', "&#39;".toList),
    ('&', "&amp;".toList)]

/-- Puts entities for the characters that have one here, all at once. -/
def Escapes.apply (es : Escapes) (cs : List Char) : List Char :=
  cs.flatMap fun c => (es.lookup c).getD [c]

/-- A text as it is written in markup. -/
def escaped (cs : List Char) : List Char := Escapes.all.apply cs

theorem Escapes.apply_cons (es : Escapes) (c : Char) (cs : List Char) :
    es.apply (c :: cs) = (es.lookup c).getD [c] ++ es.apply cs := List.flatMap_cons

/-! ## Putting one text for another -/

theorem substitute_skip (h : old.isPrefixOf (c :: rest) = false) :
    substitute old new (c :: rest) = c :: substitute old new rest := by
  rw [substitute, h, if_neg Bool.false_ne_true]

/-- Where the text stands, the other one is put. -/
theorem substitute_append (hold : old ≠ []) :
    substitute old new (old ++ rest) = new ++ substitute old new rest := by
  obtain ⟨c, cs, rfl⟩ := List.exists_cons_of_ne_nil hold
  have hprefix : (c :: cs).isPrefixOf (c :: (cs ++ rest)) = true :=
    List.isPrefixOf_iff_prefix.2 (List.prefix_append (c :: cs) rest)
  rw [List.cons_append, substitute, if_pos hprefix]
  simp

/-- A text that begins with an ampersand does not begin anywhere else. -/
theorem substitute_plain (hold : old.head? = some '&') (hblock : '&' ∉ block) :
    substitute old new (block ++ rest) = block ++ substitute old new rest := by
  obtain ⟨old, rfl⟩ := List.head?_eq_some_iff.1 hold
  induction block with
  | nil => rfl
  | cons c block ih =>
    have hc : ('&' == c) = false := beq_false_of_ne fun h => hblock (h ▸ List.mem_cons_self)
    rw [List.cons_append, substitute_skip, ih fun h => hblock (List.mem_cons_of_mem _ h),
      List.cons_append]
    rw [List.isPrefixOf, hc, Bool.false_and]

/-- It is not found where another one stands that is neither a part of it nor has it as a part. -/
theorem substitute_other (hold : old.head? = some '&') (hne : block ≠ []) (hblock : '&' ∉ block.tail)
    (hapart : ¬ old <+: block ∧ ¬ block <+: old) :
    substitute old new (block ++ rest) = block ++ substitute old new rest := by
  obtain ⟨c, cs, rfl⟩ := List.exists_cons_of_ne_nil hne
  have hprefix : old.isPrefixOf (c :: cs ++ rest) = false := by
    rw [← Bool.not_eq_true, List.isPrefixOf_iff_prefix]
    intro h
    exact (List.prefix_or_prefix_of_prefix h (List.prefix_append _ rest)).elim hapart.1 hapart.2
  rw [List.cons_append] at hprefix ⊢
  have htail : '&' ∉ cs := hblock
  rw [substitute_skip hprefix, substitute_plain hold htail, List.cons_append]

/-! ## Decoding one entity after the other -/

/-- Each of these entities has an ampersand in front and nowhere else, and so has this one, which is
none of them and no part of them. -/
structure Escapes.Spares (es : Escapes) (old : List Char) : Prop where
  head : old.head? = some '&'
  ne_nil : ∀ e ∈ es, e.2 ≠ []
  tail : ∀ e ∈ es, '&' ∉ e.2.tail
  apart : ∀ e ∈ es, ¬ old <+: e.2 ∧ ¬ e.2 <+: old

/-- What has been put for a character stays, and so does any other character but an ampersand. -/
theorem Escapes.Spares.substitute_lookup {es : Escapes} (h : es.Spares old)
    (hc : c = '&' → (es.lookup c).isSome) :
    substitute old new ((es.lookup c).getD [c] ++ rest) =
      (es.lookup c).getD [c] ++ substitute old new rest := by
  cases hlookup : es.lookup c with
  | none =>
    refine substitute_plain h.head fun hmem => ?_
    have hsome := hc (List.mem_singleton.1 hmem).symm
    rw [hlookup] at hsome
    cases hsome
  | some entity =>
    have hmem : (c, entity) ∈ es := by
      obtain ⟨l₁, l₂, rfl, -⟩ := List.lookup_eq_some_iff.1 hlookup
      simp
    exact substitute_other h.head (h.ne_nil _ hmem) (h.tail _ hmem) (h.apart _ hmem)

/-- An entity that has been put for no character is not found. -/
theorem Escapes.Spares.substitute_apply {es : Escapes} (h : es.Spares old)
    (hamp : (es.lookup '&').isSome) (cs : List Char) :
    substitute old new (es.apply cs) = es.apply cs := by
  induction cs with
  | nil => exact substitute.eq_1 ..
  | cons c cs ih => rw [Escapes.apply_cons, h.substitute_lookup (fun hc => hc ▸ hamp), ih]

/-- The first of some entities is decoded, and the others are left. -/
theorem Escapes.Spares.substitute_first {es : Escapes} (h : es.Spares old) (hc : es.lookup c = none)
    (hamp : c = '&' ∨ (es.lookup '&').isSome) (cs : List Char) :
    substitute old [c] (Escapes.apply ((c, old) :: es) cs) = es.apply cs := by
  have hold : old ≠ [] := fun hnil => by simpa [hnil] using h.head
  induction cs with
  | nil => exact substitute.eq_1 ..
  | cons d cs ih =>
    rw [Escapes.apply_cons, Escapes.apply_cons]
    by_cases hd : d = c
    · subst hd
      rw [List.lookup_cons_self, hc, Option.getD_some, Option.getD_none, substitute_append hold, ih]
    · rw [List.lookup_cons, beq_false_of_ne hd]
      show substitute _ _ ((es.lookup d).getD [d] ++ _) = _
      rw [h.substitute_lookup, ih]
      rintro rfl
      exact hamp.resolve_left fun h => hd h.symm

/-- These entities can be decoded one after the other: none is touched before its turn, and the
ampersand comes last. -/
def Escapes.InTurn : Escapes → Prop
  | [] => True
  | (c, old) :: es => Escapes.Spares es old ∧ es.lookup c = none ∧ (c = '&' ∨ (es.lookup '&').isSome) ∧
      InTurn es

theorem Escapes.InTurn.decode {es : Escapes} (h : es.InTurn) (cs : List Char) :
    es.foldl (fun cs e => substitute e.2 [e.1] cs) (es.apply cs) = cs := by
  induction es with
  | nil => simp [Escapes.apply]
  | cons e es ih =>
    obtain ⟨hspares, hnone, hamp, hrest⟩ := h
    rw [List.foldl_cons, hspares.substitute_first hnone hamp, ih hrest]

theorem Escapes.inTurn_all : Escapes.all.InTurn :=
  ⟨⟨by decide, by decide, by decide, by decide⟩, rfl, .inr rfl,
    ⟨by decide, by decide, by decide, by decide⟩, rfl, .inr rfl,
    ⟨by decide, by decide, by decide, by decide⟩, rfl, .inr rfl,
    ⟨by decide, by decide, by decide, by decide⟩, rfl, .inr rfl,
    ⟨by decide, by decide, by decide, by decide⟩, rfl, .inl rfl, trivial⟩

theorem Escapes.spares_nbsp : Escapes.all.Spares "&nbsp;".toList :=
  ⟨by decide, by decide, by decide, by decide⟩

/-- What has been escaped is decoded to what it was. -/
theorem decodePlain_escaped (cs : List Char) : decodePlain (escaped cs) = cs := by
  show Escapes.all.foldl (fun cs e => substitute e.2 [e.1] cs)
    (substitute "&nbsp;".toList [' '] (Escapes.all.apply cs)) = cs
  rw [Escapes.spares_nbsp.substitute_apply rfl, Escapes.inTurn_all.decode]

/-! ## Tags -/

/-- A text that has been escaped has no tag. -/
theorem not_mem_escaped (cs : List Char) : '<' ∉ escaped cs := by
  have hall : ∀ e ∈ Escapes.all, '<' ∉ e.2 := by decide
  unfold escaped Escapes.apply
  rw [List.mem_flatMap]
  rintro ⟨c, -, hc⟩
  cases hlookup : Escapes.all.lookup c with
  | none =>
    rw [hlookup, Option.getD_none, List.mem_singleton] at hc
    subst hc
    cases hlookup
  | some entity =>
    rw [hlookup] at hc
    obtain ⟨l₁, l₂, hsplit, -⟩ := List.lookup_eq_some_iff.1 hlookup
    exact hall (c, entity) (by rw [hsplit]; simp) hc

theorem afterCodeOpen_of_head (hc : c ≠ '<') (cs : List Char) : afterCodeOpen (c :: cs) = none := by
  unfold afterCodeOpen
  split
  · rename_i heq
    exact absurd (List.cons.inj heq).1 hc
  · rfl

theorem dropCode_of_some {after : List Char}
    (h : (afterCodeOpen (c :: cs)).bind afterFirstClose = some after) :
    dropCode (c :: cs) = ' ' :: dropCode after := by
  rw [dropCode]
  split
  · rename_i heq
    rw [Option.some.inj (h.symm.trans heq)]
  · rename_i heq
    cases h.symm.trans heq

theorem dropCode_of_none (h : (afterCodeOpen (c :: cs)).bind afterFirstClose = none) :
    dropCode (c :: cs) = c :: dropCode cs := by
  rw [dropCode]
  split
  · rename_i heq
    cases h.symm.trans heq
  · rfl

theorem dropCode_of_not_mem (h : '<' ∉ cs) : dropCode cs = cs := by
  induction cs with
  | nil => exact dropCode.eq_1 ..
  | cons c cs ih =>
    obtain ⟨hc, hcs⟩ : '<' ≠ c ∧ '<' ∉ cs := by simpa using h
    have hnone : (afterCodeOpen (c :: cs)).bind afterFirstClose = none := by
      rw [afterCodeOpen_of_head hc.symm]
      rfl
    rw [dropCode_of_none hnone, ih hcs]

theorem dropTags_of_not_mem (h : '<' ∉ cs) : dropTags cs = cs := by
  induction cs with
  | nil => exact dropTags.eq_1 ..
  | cons c cs ih =>
    obtain ⟨hc, hcs⟩ : '<' ≠ c ∧ '<' ∉ cs := by simpa using h
    rw [dropTags.eq_def]
    split
    · rename_i heq
      cases heq
    · rename_i heq
      exact absurd (List.cons.inj heq).1.symm hc
    · rename_i heq
      obtain ⟨rfl, rfl⟩ := List.cons.inj heq
      rw [ih hcs]

end ScriptSandbox.Markup
