import ScriptSandbox.Proofs.Markup.Page

/-!
# Continuations that are read alike

Two continuations of a page are alike if the reader gathers the same lines from both, whatever
elements are open and whatever text stands before them. They stay alike behind any text and any tag,
and what stands in an element is passed over if its name is one of code as the reader knows them
(`Alike.body`). So a page has the same text as the page without that code
(`wellFormedText_emptied`).
-/

namespace ScriptSandbox.Markup

variable {t cs X X' X'' : List Char} {depth : Nat} {opened : List (List Char)}

/-! ## Events from texts and tags -/

theorem eventsFrom_eq (opened : List (List Char)) (X : List Char) :
    eventsFrom opened X =
      match X.dropWhile isSpace with
      | [] => .ok []
      | c :: rest =>
        if c = '<' then
          if rest.isEmpty then .ok []
          else
            match Tag.read rest with
            | .error e => .error e
            | .ok (tag, rest) =>
              match tag.event opened with
              | .error e => .error e
              | .ok (e, opened) => (eventsFrom opened rest).map (e :: ·)
        else
          (eventsFrom opened (rest.dropWhile (· ≠ '<'))).map
            (.text (trimEndBy isSpace (c :: rest.takeWhile (· ≠ '<'))) :: ·) := by
  rw [eventsFrom.eq_def]
  split
  · rename_i h
    rw [h]
  · rename_i rest h
    rw [h]
    dsimp only
    rw [if_pos rfl]
    split
    · rfl
    · split
      · rename_i hread
        rw [hread]
      · rename_i tag rest hread
        cases hevent : tag.event opened <;> simp only [hread, hevent]
  · rename_i c rest hc h
    rw [h]
    dsimp only
    rw [if_neg hc]

theorem eventsFrom_tag {tag : Tag} (hread : Tag.read (cs ++ X) = .ok (tag, X)) :
    eventsFrom opened ('<' :: (cs ++ X)) =
      match tag.event opened with
      | .error e => .error e
      | .ok (e, opened) => (eventsFrom opened X).map (e :: ·) := by
  have hne : ¬ (cs ++ X).isEmpty = true := by
    intro hempty
    rw [List.isEmpty_iff.1 hempty] at hread
    cases hread
  rw [eventsFrom_eq, List.dropWhile_cons_of_neg (by decide)]
  dsimp only
  rw [if_pos rfl, if_neg hne, hread]

/-- What stands before the next tag is reported, and then what follows. -/
theorem eventsFrom_text (ht : '<' ∉ t) (hX : ∀ c ∈ X.head?, c = '<') :
    eventsFrom opened (t ++ X) = (eventsFrom opened X).map (reported t ++ ·) := by
  unfold reported
  split
  · rename_i hblank
    have hdrop : (t ++ X).dropWhile isSpace = X.dropWhile isSpace :=
      List.dropWhile_append_of_pos (List.all_eq_true.1 hblank)
    rw [eventsFrom_eq, hdrop, ← eventsFrom_eq]
    cases eventsFrom opened X <;> rfl
  · rename_i hblank
    have hne : t.dropWhile isSpace ≠ [] := fun hnil =>
      hblank (List.all_eq_true.2 (List.dropWhile_eq_nil_iff.1 hnil))
    obtain ⟨c, rest, hrest⟩ := List.exists_cons_of_ne_nil hne
    have hplain : ∀ d ∈ c :: rest, d ≠ '<' := fun d hd heq =>
      ht (heq ▸ (List.dropWhile_sublist isSpace).subset (hrest ▸ hd))
    have hpos : ∀ d ∈ rest, decide (d ≠ '<') = true := fun d hd =>
      decide_eq_true (hplain d (List.mem_cons_of_mem c hd))
    have hstop : X.takeWhile (· ≠ '<') = [] ∧ X.dropWhile (· ≠ '<') = X := by
      cases X with
      | nil => exact ⟨rfl, rfl⟩
      | cons d X =>
        obtain rfl : d = '<' := hX d rfl
        exact ⟨rfl, rfl⟩
    have hdrop : (t ++ X).dropWhile isSpace = c :: (rest ++ X) := by
      rw [List.dropWhile_append, if_neg (by rwa [List.isEmpty_iff]), hrest, List.cons_append]
    rw [eventsFrom_eq, hdrop]
    dsimp only
    rw [if_neg (hplain c List.mem_cons_self), List.takeWhile_append_of_pos hpos,
      List.dropWhile_append_of_pos hpos, hstop.1, hstop.2, List.append_nil, hrest]
    rfl

/-! ## Lines from texts and tags -/

/-- The lines gathered from between two tags, with the names of the elements that are open and the
count of those of code among them. -/
def linesFrom (depth : Nat) (opened : List (List Char)) (cs : List Char) :
    Option (List (List Char)) :=
  (eventsFrom opened cs).toOption.bind (parts depth)

theorem linesFrom_text (ht : '<' ∉ t) (hX : ∀ c ∈ X.head?, c = '<') :
    linesFrom depth opened (t ++ X) =
      Option.map₂ (· ++ ·) (if depth = 0 then (Leaf.text t).decoded.map textPart else some [])
        (linesFrom depth opened X) := by
  unfold linesFrom
  rw [eventsFrom_text ht hX]
  cases eventsFrom opened X with
  | error e => exact (Option.map₂_none_right ..).symm
  | ok events => exact parts_reported depth t events

/-- An event adds lines, and changes the count. -/
theorem exists_parts_cons (depth : Nat) (e : Event) :
    ∃ lines depth', ∀ events, parts depth (e :: events) =
      Option.map₂ (· ++ ·) lines (parts depth' events) := by
  have hnone (events : List Event) (depth' : Nat) :
      parts depth' events = Option.map₂ (· ++ ·) (some []) (parts depth' events) := by
    cases parts depth' events <;> rfl
  cases e with
  | open_ name => exact ⟨_, _, fun events => hnone events _⟩
  | close name => exact ⟨_, _, fun events => hnone events _⟩
  | empty name => exact ⟨_, _, fun events => hnone events _⟩
  | aside => exact ⟨_, _, fun events => hnone events _⟩
  | text raw => exact ⟨_, _, parts_text depth raw⟩
  | section_ raw => exact ⟨_, _, parts_section depth raw⟩

theorem linesFrom_tag {tag : Tag} (hread : Tag.read (cs ++ X) = .ok (tag, X)) :
    linesFrom depth opened ('<' :: (cs ++ X)) =
      (tag.event opened).toOption.bind fun r =>
        (eventsFrom r.2 X).toOption.bind fun events => parts depth (r.1 :: events) := by
  unfold linesFrom
  rw [eventsFrom_tag hread]
  rcases tag.event opened with e | ⟨e, opened'⟩
  · rfl
  · show ((eventsFrom opened' X).map _).toOption.bind _ = (eventsFrom opened' X).toOption.bind _
    cases eventsFrom opened' X <;> rfl

theorem StartTag.nameOf_content (tag : StartTag) : nameOf tag.content = tag.name := by
  have hname : ∀ c ∈ tag.name, (!isSpace c) = true := fun c hc =>
    (Bool.and_eq_true_iff.1 (List.all_eq_true.1 tag.plain c hc)).1
  have hapart : tag.inside.takeWhile (!isSpace ·) = [] := by
    cases hinside : tag.inside with
    | nil => rfl
    | cons c inside =>
      have hspace := tag.isSpace_of_inside hinside
      exact List.takeWhile_cons_of_neg (by rw [hspace]; decide)
  rw [nameOf, StartTag.content, List.takeWhile_append_of_pos hname, hapart, List.append_nil]

theorem StartTag.getLast?_content (tag : StartTag) : tag.content.getLast? ≠ some '/' := by
  intro h
  rcases List.mem_append.1 (List.mem_of_getLast? h) with hname | hinside
  · exact absurd (List.all_eq_true.1 tag.plain _ hname) (by decide)
  · refine tag.isOpen ?_
    rwa [StartTag.content, List.getLast?_append_of_ne_nil _ (List.ne_nil_of_mem hinside)] at h

/-- A start tag opens an element, and counts if its name is one of code. -/
theorem linesFrom_startTag (tag : StartTag) (X : List Char) :
    linesFrom depth opened (tag.chars ++ X) =
      linesFrom (if isCode tag.name then depth + 1 else depth) (tag.name :: opened) X := by
  have hevent : (Tag.open_ tag.content).event opened = .ok (.open_ tag.name, tag.name :: opened) := by
    rw [Tag.event, if_neg tag.getLast?_content, tag.nameOf_content]
  rw [StartTag.chars, List.cons_append, linesFrom_tag (tag.read X), hevent]
  rfl

/-! ## Alike continuations -/

/-- The reader gathers the same from both behind a text, within a page and at its front. -/
structure Alike (X X' : List Char) : Prop where
  within : ∀ t, '<' ∉ t → ∀ depth opened,
    linesFrom depth opened (t ++ X) = linesFrom depth opened (t ++ X')
  atFront : ∀ t, '<' ∉ t → wellFormedText (t ++ X) = wellFormedText (t ++ X')

theorem Alike.refl (X : List Char) : Alike X X := ⟨fun _ _ _ _ => rfl, fun _ _ => rfl⟩

theorem Alike.trans (h : Alike X X') (h' : Alike X' X'') : Alike X X'' :=
  ⟨fun t ht depth opened => (h.within t ht depth opened).trans (h'.within t ht depth opened),
    fun t ht => (h.atFront t ht).trans (h'.atFront t ht)⟩

theorem Alike.text (h : Alike X X') (ht : '<' ∉ t) : Alike (t ++ X) (t ++ X') := by
  have hmem {s : List Char} (hs : '<' ∉ s) : '<' ∉ s ++ t := by simp [hs, ht]
  constructor
  · intro s hs depth opened
    rw [← List.append_assoc, ← List.append_assoc]
    exact h.within (s ++ t) (hmem hs) depth opened
  · intro s hs
    rw [← List.append_assoc, ← List.append_assoc]
    exact h.atFront (s ++ t) (hmem hs)

theorem wellFormedText_cons (c : Char) (cs : List Char) :
    wellFormedText (c :: cs) =
      (linesFrom 0 [] (if c = Char.ofNat 0xFEFF then cs else c :: cs)).map joinLines := by
  unfold wellFormedText events linesFrom contentOf
  rw [String.toList_ofList]
  dsimp only
  cases eventsFrom [] (if c = Char.ofNat 0xFEFF then cs else c :: cs) <;> rfl

/-- Behind an angle nothing is left to say of the front. -/
theorem Alike.of_angle
    (h : ∀ depth opened, linesFrom depth opened ('<' :: X) = linesFrom depth opened ('<' :: X')) :
    Alike ('<' :: X) ('<' :: X') := by
  have hwithin : ∀ t, '<' ∉ t → ∀ depth opened,
      linesFrom depth opened (t ++ '<' :: X) = linesFrom depth opened (t ++ '<' :: X') := by
    intro t ht depth opened
    have hangle (X : List Char) : ∀ c ∈ ('<' :: X).head?, c = '<' := fun c hc =>
      (Option.some.inj hc).symm
    rw [linesFrom_text ht (hangle X), linesFrom_text ht (hangle X'), h]
  refine ⟨hwithin, fun t ht => ?_⟩
  cases t with
  | nil =>
    rw [List.nil_append, List.nil_append, wellFormedText_cons, wellFormedText_cons,
      if_neg (by decide), if_neg (by decide), h]
  | cons c t =>
    rw [List.cons_append, List.cons_append, wellFormedText_cons, wellFormedText_cons]
    split
    · rw [hwithin t fun hmem => ht (List.mem_cons_of_mem c hmem)]
    · rw [← List.cons_append, hwithin (c :: t) ht, List.cons_append]

theorem Alike.tag (h : Alike X X') (htag : IsTag cs) :
    Alike ('<' :: (cs ++ X)) ('<' :: (cs ++ X')) := by
  obtain ⟨tag, hread⟩ := htag
  refine Alike.of_angle fun depth opened => ?_
  rw [linesFrom_tag (hread X), linesFrom_tag (hread X')]
  rcases tag.event opened with e | ⟨e, opened'⟩
  · rfl
  · obtain ⟨lines, depth', hparts⟩ := exists_parts_cons depth e
    have hbind (X : List Char) :
        ((eventsFrom opened' X).toOption.bind fun events => parts depth (e :: events)) =
          Option.map₂ (· ++ ·) lines (linesFrom depth' opened' X) := by
      unfold linesFrom
      cases eventsFrom opened' X with
      | error e => exact (Option.map₂_none_right ..).symm
      | ok events => exact hparts events
    have hsame := h.within [] List.not_mem_nil depth' opened'
    rw [List.nil_append, List.nil_append] at hsame
    show ((eventsFrom opened' X).toOption.bind _) = ((eventsFrom opened' X').toOption.bind _)
    rw [hbind, hbind, hsame]

/-- What is in an element of code is passed over. -/
theorem Alike.body {body : List Char} (c : CodeElement) (hsmall : c.isSmall) (hbody : '<' ∉ body)
    (X : List Char) : Alike (c.chars body ++ X) (c.chars [] ++ X) := by
  have hcode : isCode c.tag.name = true := hsmall
  have hlines (body : List Char) (hbody : '<' ∉ body) (depth : Nat) (opened : List (List Char)) :
      linesFrom depth opened (c.chars body ++ X) =
        Option.map₂ (· ++ ·) (some [])
          (linesFrom (depth + 1) (c.tag.name :: opened) (c.ending.chars ++ X)) := by
    have hangle : ∀ d ∈ (c.ending.chars ++ X).head?, d = '<' := fun d hd => (Option.some.inj hd).symm
    rw [CodeElement.chars, List.append_assoc, List.append_assoc, linesFrom_startTag, if_pos hcode,
      linesFrom_text hbody hangle, if_neg (Nat.succ_ne_zero depth)]
  refine Alike.of_angle fun depth opened => ?_
  exact (hlines body hbody depth opened).trans (hlines [] List.not_mem_nil depth opened).symm

/-! ## Pages without their code -/

theorem Alike.code {body : List Char} (h : Alike X X') (c : CodeElement) (hbody : '<' ∉ body) :
    Alike (c.chars body ++ X) (c.chars body ++ X') := by
  have happend (X : List Char) : c.chars body ++ X =
      '<' :: (c.tag.content ++ ['>'] ++ (body ++
        '<' :: ('/' :: (c.ending.name ++ c.ending.blanks ++ ['>']) ++ X))) := by
    simp [CodeElement.chars, StartTag.chars, EndTag.chars]
  rw [happend, happend]
  exact ((h.tag c.ending.isTag).text hbody).tag c.tag.isTag

theorem alike_emptied (p : CodeElement → Bool) (hp : ∀ c, p c → c.isSmall) (page : Page)
    (h : Alike X X') : Alike (page.chars ++ X) ((page.emptied p).chars ++ X') := by
  induction page generalizing X X' with
  | nil => exact h
  | text t plain rest ih =>
    rw [Page.emptied, Page.chars, Page.chars, List.append_assoc, List.append_assoc]
    exact (ih h).text plain
  | mark m rest ih =>
    obtain ⟨cs, hcs, htag⟩ := m.exists_isTag
    rw [Page.emptied, Page.chars, Page.chars, hcs, List.append_assoc, List.append_assoc]
    exact (ih h).tag htag
  | element tag ending other ends inner rest ihinner ihrest =>
    have happend (inside behind X : List Char) :
        tag.chars ++ (inside ++ behind) ++ X =
          '<' :: (tag.content ++ ['>'] ++ (inside ++ (behind ++ X))) := by
      simp [StartTag.chars]
    have hrest : Alike (ending.elim [] EndTag.chars ++ rest.chars ++ X)
        (ending.elim [] EndTag.chars ++ (rest.emptied p).chars ++ X') := by
      rw [List.append_assoc, List.append_assoc]
      cases ending with
      | none => exact ihrest h
      | some ending => exact (ihrest h).tag ending.isTag
    rw [Page.emptied, Page.chars, Page.chars, happend, happend]
    exact (ihinner hrest).tag tag.isTag
  | code c body plain rest ih =>
    rw [Page.emptied]
    split
    · rename_i hc
      rw [Page.chars, Page.chars, List.append_assoc, List.append_assoc]
      exact (Alike.body c (hp c hc) plain _).trans ((ih h).code c List.not_mem_nil)
    · rw [Page.chars, Page.chars, List.append_assoc, List.append_assoc]
      exact (ih h).code c plain

theorem wellFormedText_emptied (p : CodeElement → Bool) (hp : ∀ c, p c → c.isSmall) (page : Page) :
    wellFormedText page.chars = wellFormedText (page.emptied p).chars := by
  have h := (alike_emptied p hp page (Alike.refl [])).atFront [] List.not_mem_nil
  rwa [List.nil_append, List.nil_append, List.append_nil, List.append_nil] at h

end ScriptSandbox.Markup
