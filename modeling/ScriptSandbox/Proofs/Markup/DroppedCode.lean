import ScriptSandbox.Proofs.Markup.Page

/-!
# Code that is dropped from a source

A source that is not well formed loses what stands from the opening tag of an element of code to the
first closing tag behind it. Both are found by their first characters, between which no other tag
begins, so that an angle behind a text cuts none of them (`afterCodeOpen_open`, `afterFirstClose_open`).
Whatever stands in front of an element of code, the search is behind it as soon as it has come to it:
what is in it makes no difference (`exists_dropCode`).
-/

namespace ScriptSandbox.Markup

variable {cs u body letters : List Char}

/-! ## Words in any case -/

/-- What follows some letters, in any case. -/
def afterLetters : List Char → List Char → Option (List Char)
  | [], cs => some cs
  | _ :: _, [] => none
  | l :: letters, c :: cs => if sameLetter c l then afterLetters letters cs else none

theorem afterWord_eq (word : String) (cs : List Char) :
    afterWord word cs = afterLetters word.toList cs := by
  have hlist (letters cs : List Char) :
      (if letters.length ≤ cs.length ∧ (cs.zip letters).all fun p => sameLetter p.1 p.2 then
        some (cs.drop letters.length) else none) = afterLetters letters cs := by
    induction letters generalizing cs with
    | nil => simp [afterLetters]
    | cons l letters ih =>
      cases cs with
      | nil => rfl
      | cons c cs =>
        rw [afterLetters, ← ih]
        simp only [List.length_cons, Nat.add_le_add_iff_right, List.zip_cons_cons, List.all_cons,
          List.drop_succ_cons]
        cases sameLetter c l with
        | true => rw [Bool.true_and, if_pos rfl]
        | false =>
          rw [Bool.false_and, if_neg fun h => Bool.false_ne_true h.2, if_neg Bool.false_ne_true]
  exact hlist word.toList cs

/-- A character that is no letter of a word is not in the word. -/
theorem afterLetters_append {b : Char} (hb : letters.all (!sameLetter b ·)) (u Z : List Char) :
    afterLetters letters (u ++ b :: Z) = (afterLetters letters u).map (· ++ b :: Z) := by
  induction letters generalizing u with
  | nil => rfl
  | cons l letters ih =>
    obtain ⟨hl, hletters⟩ := Bool.and_eq_true_iff.1 hb
    cases u with
    | nil =>
      show (if sameLetter b l then _ else none) = none
      rw [Bool.not_eq_true'] at hl
      rw [hl, if_neg Bool.false_ne_true]
    | cons c u =>
      rw [List.cons_append, afterLetters, afterLetters, ih hletters]
      split <;> rfl

theorem afterLetters_of_lower {name : List Char} (h : name.map Char.toLower = letters)
    (rest : List Char) : afterLetters letters (name ++ rest) = some rest := by
  subst h
  induction name with
  | nil => rfl
  | cons c name ih =>
    have hc : sameLetter c c.toLower = true := by simp [sameLetter]
    rw [List.map_cons, List.cons_append, afterLetters, if_pos hc, ih]

theorem afterCodeName_append {b : Char}
    (hb : ("script".toList ++ "style".toList).all (!sameLetter b ·)) (u Z : List Char) :
    afterCodeName (u ++ b :: Z) = (afterCodeName u).map (· ++ b :: Z) := by
  rw [List.all_append, Bool.and_eq_true_iff] at hb
  unfold afterCodeName
  rw [afterWord_eq, afterWord_eq, afterWord_eq, afterWord_eq, afterLetters_append hb.1,
    afterLetters_append hb.2]
  cases afterLetters "script".toList u <;> rfl

theorem afterCodeName_of_isCode {name : List Char} (h : isCode (name.map Char.toLower))
    (rest : List Char) : afterCodeName (name ++ rest) = some rest := by
  unfold afterCodeName
  rw [afterWord_eq, afterWord_eq]
  rcases Bool.or_eq_true_iff.1 h with h | h
  · rw [afterLetters_of_lower (of_decide_eq_true h)]
    rfl
  · have hlower : name.map Char.toLower = "style".toList := of_decide_eq_true h
    have hscript : afterLetters "script".toList (name ++ rest) = none := by
      match name, hlower with
      | [], hlower | [_], hlower => exact absurd (congrArg List.length hlower) (by simp)
      | c :: d :: name, hlower =>
        have hd : d.toLower = 't' := (List.cons.inj (List.cons.inj hlower).2).1
        have hne : ¬ sameLetter d 'c' = true := by simp [sameLetter, hd]
        show (if sameLetter c 's' then if sameLetter d 'c' then _ else none else none) = none
        rw [if_neg hne, ite_self]
    rw [hscript, afterLetters_of_lower hlower]
    rfl

/-! ## Closing tags -/

/-- What follows the name in a closing tag of code. -/
def afterClosingName : List Char → Option (List Char)
  | '<' :: '/' :: rest => afterCodeName rest
  | _ => none

/-- What follows the angle behind some blanks. -/
def afterBlanks (cs : List Char) : Option (List Char) :=
  match cs.dropWhile Text.isBlank with
  | '>' :: rest => some rest
  | _ => none

theorem afterCodeClose_eq (cs : List Char) :
    afterCodeClose cs = (afterClosingName cs).bind afterBlanks := by
  unfold afterCodeClose
  split
  · rfl
  · rename_i h
    rw [afterClosingName.eq_2 cs h]
    rfl

theorem afterClosingName_of_head {c : Char} (hc : c ≠ '<') (cs : List Char) :
    afterClosingName (c :: cs) = none := by
  unfold afterClosingName
  split
  · rename_i heq
    exact absurd (List.cons.inj heq).1 hc
  · rfl

theorem afterClosingName_of_second {c : Char} (hc : c ≠ '/') (cs : List Char) :
    afterClosingName ('<' :: c :: cs) = none := by
  unfold afterClosingName
  split
  · rename_i heq
    exact absurd (List.cons.inj (List.cons.inj heq).2).1 hc
  · rfl

theorem afterClosingName_append {b : Char} (hslash : b ≠ '/')
    (hb : ("script".toList ++ "style".toList).all (!sameLetter b ·)) (c : Char) (u Z : List Char) :
    afterClosingName (c :: u ++ b :: Z) = (afterClosingName (c :: u)).map (· ++ b :: Z) := by
  rw [List.cons_append]
  by_cases hc : c = '<'
  · subst hc
    cases u with
    | nil => exact afterClosingName_of_second hslash Z
    | cons d u =>
      by_cases hd : d = '/'
      · subst hd
        exact afterCodeName_append hb u Z
      · rw [List.cons_append, afterClosingName_of_second hd, afterClosingName_of_second hd]
        rfl
  · rw [afterClosingName_of_head hc, afterClosingName_of_head hc]
    rfl

theorem dropWhile_append_of_stop {b : Char} (hb : Text.isBlank b = false) (cs Z : List Char) :
    (cs ++ b :: Z).dropWhile Text.isBlank = cs.dropWhile Text.isBlank ++ b :: Z := by
  rw [List.dropWhile_append]
  split
  · rename_i hempty
    rw [List.isEmpty_iff.1 hempty, List.dropWhile_cons_of_neg (by rw [hb]; exact Bool.false_ne_true),
      List.nil_append]
  · rfl

/-- A closing tag is not ended by another one that opens. -/
theorem afterCodeClose_open (c : Char) (u Z : List Char) :
    afterCodeClose (c :: u ++ '<' :: Z) = (afterCodeClose (c :: u)).map (· ++ '<' :: Z) := by
  have hblanks (cs : List Char) :
      afterBlanks (cs ++ '<' :: Z) = (afterBlanks cs).map (· ++ '<' :: Z) := by
    unfold afterBlanks
    rw [dropWhile_append_of_stop (by decide)]
    cases cs.dropWhile Text.isBlank with
    | nil => rfl
    | cons d cs => by_cases hd : d = '>' <;> simp [hd]
  rw [afterCodeClose_eq, afterCodeClose_eq, afterClosingName_append (by decide) (by decide)]
  cases afterClosingName (c :: u) with
  | none => rfl
  | some rest => exact hblanks rest

/-- It ends with the first angle that closes. -/
theorem afterCodeClose_close (c : Char) (u Z : List Char) :
    afterCodeClose (c :: u ++ '>' :: Z) = (afterCodeClose (c :: u ++ ['>'])).map (· ++ Z) := by
  have hblanks (cs : List Char) :
      afterBlanks (cs ++ '>' :: Z) = (afterBlanks (cs ++ ['>'])).map (· ++ Z) := by
    unfold afterBlanks
    rw [dropWhile_append_of_stop (by decide), dropWhile_append_of_stop (by decide)]
    cases cs.dropWhile Text.isBlank with
    | nil => rfl
    | cons d cs => by_cases hd : d = '>' <;> simp [hd]
  rw [afterCodeClose_eq, afterCodeClose_eq, afterClosingName_append (by decide) (by decide),
    afterClosingName_append (by decide) (by decide)]
  cases afterClosingName (c :: u) with
  | none => rfl
  | some rest => exact hblanks rest

theorem EndTag.afterCodeClose_chars (ending : EndTag) (hcode : isCode (ending.name.map Char.toLower))
    (rest : List Char) : afterCodeClose (ending.chars ++ rest) = some rest := by
  have hblank : ∀ c ∈ ending.blanks, Text.isBlank c := fun c hc => by
    have hspace := List.all_eq_true.1 ending.blank c hc
    rcases Bool.or_eq_true_iff.1 hspace with h | h
    · exact isBlank_of_isSpace h
    · rw [of_decide_eq_true h]
      decide
  have happend : ending.chars ++ rest =
      '<' :: '/' :: (ending.name ++ (ending.blanks ++ '>' :: rest)) := by
    simp [EndTag.chars]
  rw [happend, afterCodeClose_eq]
  show (afterCodeName _).bind afterBlanks = some rest
  rw [afterCodeName_of_isCode hcode, Option.bind_some, afterBlanks, List.dropWhile_append_of_pos hblank,
    List.dropWhile_cons_of_neg (by decide)]
  rfl

/-! ## The first closing tag -/

theorem afterFirstClose_of_not_mem (h : '<' ∉ cs) : afterFirstClose cs = none := by
  induction cs with
  | nil => rfl
  | cons c cs ih =>
    obtain ⟨hc, hcs⟩ : '<' ≠ c ∧ '<' ∉ cs := by simpa using h
    rw [afterFirstClose, afterCodeClose_eq, afterClosingName_of_head hc.symm, ih hcs]
    rfl

/-- The first closing tag is in a text, or else in what stands behind it and begins another tag. -/
theorem afterFirstClose_open (u Z : List Char) :
    afterFirstClose (u ++ '<' :: Z) =
      ((afterFirstClose u).map (· ++ '<' :: Z)).or (afterFirstClose ('<' :: Z)) := by
  induction u with
  | nil => rfl
  | cons c u ih =>
    rw [List.cons_append, afterFirstClose, ← List.cons_append, afterCodeClose_open, ih,
      afterFirstClose.eq_2 c u]
    cases afterCodeClose (c :: u) <;> rfl

/-- A tag that has no closing tag in it has none either where a text follows. -/
theorem afterFirstClose_close (h : afterFirstClose (u ++ ['>']) = none) (hbody : '<' ∉ body) :
    afterFirstClose (u ++ '>' :: body) = none := by
  induction u with
  | nil => exact afterFirstClose_of_not_mem (by simpa using hbody)
  | cons c u ih =>
    rw [List.cons_append, afterFirstClose, ← List.cons_append, Option.or_eq_none_iff] at h
    rw [List.cons_append, afterFirstClose, ← List.cons_append, afterCodeClose_close, h.1, ih h.2]
    rfl

theorem afterFirstClose_of_append (h : afterFirstClose (u ++ cs) = none) :
    afterFirstClose cs = none := by
  induction u with
  | nil => exact h
  | cons c u ih =>
    rw [List.cons_append, afterFirstClose, Option.or_eq_none_iff] at h
    exact ih h.2

/-! ## Elements of code -/

/-- There is no closing tag within the start tag. -/
def CodeElement.isPlain (c : CodeElement) : Bool := (afterFirstClose c.tag.chars).isNone

/-- Behind a start tag, or a part of it, in which there is no closing tag, the first one is that of the
element. -/
theorem CodeElement.afterFirstClose_ending (c : CodeElement)
    (hu : afterFirstClose (u ++ ['>']) = none) (hbody : '<' ∉ body) (rest : List Char) :
    afterFirstClose (u ++ '>' :: (body ++ c.ending.chars ++ rest)) = some rest := by
  have hending : isCode (c.ending.name.map Char.toLower) := by
    rw [c.ends]
    exact c.named
  have hclose : afterCodeClose ('<' :: ('/' :: (c.ending.name ++ c.ending.blanks ++ ['>']) ++ rest)) =
      some rest := c.ending.afterCodeClose_chars hending rest
  have happend : u ++ '>' :: (body ++ c.ending.chars ++ rest) =
      (u ++ '>' :: body) ++ '<' :: ('/' :: (c.ending.name ++ c.ending.blanks ++ ['>']) ++ rest) := by
    simp [EndTag.chars]
  rw [happend, afterFirstClose_open, afterFirstClose_close hu hbody, afterFirstClose, hclose]
  rfl

theorem StartTag.head?_inside (tag : StartTag) (rest : List Char) :
    ((tag.inside ++ '>' :: rest).head?.any Text.isWordChar) = false := by
  cases hinside : tag.inside with
  | nil => rfl
  | cons c inside =>
    have hspace := tag.isSpace_of_inside hinside
    simp only [isSpace, Bool.or_eq_true, decide_eq_true_eq] at hspace
    rcases hspace with ((rfl | rfl) | rfl) | rfl <;> rfl

theorem CodeElement.afterCodeOpen_chars (c : CodeElement) (body rest : List Char) :
    afterCodeOpen (c.chars body ++ rest) =
      some (c.tag.inside ++ '>' :: (body ++ c.ending.chars ++ rest)) := by
  have happend : c.chars body ++ rest =
      '<' :: (c.tag.name ++ (c.tag.inside ++ '>' :: (body ++ c.ending.chars ++ rest))) := by
    simp [CodeElement.chars, StartTag.chars, StartTag.content]
  rw [happend]
  show (afterCodeName _).filter _ = _
  rw [afterCodeName_of_isCode c.named, Option.filter_some, c.tag.head?_inside]
  rfl

theorem afterCodeOpen_open (c : Char) (u Z : List Char) :
    afterCodeOpen (c :: u ++ '<' :: Z) = (afterCodeOpen (c :: u)).map (· ++ '<' :: Z) := by
  by_cases hc : c = '<'
  · subst hc
    show (afterCodeName (u ++ '<' :: Z)).filter _ = ((afterCodeName u).filter _).map _
    rw [afterCodeName_append (by decide)]
    cases afterCodeName u with
    | none => rfl
    | some rest =>
      cases rest with
      | nil => rfl
      | cons d rest =>
        rw [Option.map_some, Option.filter_some, Option.filter_some, List.cons_append, List.head?_cons,
          List.head?_cons]
        split <;> rfl
  · rw [List.cons_append, afterCodeOpen_of_head hc, afterCodeOpen_of_head hc]
    rfl

/-! ## What is left -/

/-- Where an element of code opens in a text, it ends in the text, or else behind it. -/
theorem afterCodeOpen_bind (c : Char) (u Z : List Char) :
    (afterCodeOpen (c :: (u ++ '<' :: Z))).bind afterFirstClose =
      (afterCodeOpen (c :: u)).bind fun rest =>
        ((afterFirstClose rest).map (· ++ '<' :: Z)).or (afterFirstClose ('<' :: Z)) := by
  rw [← List.cons_append, afterCodeOpen_open]
  cases afterCodeOpen (c :: u) with
  | none => rfl
  | some rest => exact afterFirstClose_open rest Z

/-- What is in an element of code makes no difference to what is left, whatever stands before it and
behind it. -/
theorem exists_dropCode (c : CodeElement) (hc : c.isPlain) (pre post : List Char) :
    ∃ left, ∀ body, '<' ∉ body → dropCode (pre ++ (c.chars body ++ post)) = left := by
  have htag : afterFirstClose ('<' :: c.tag.content ++ ['>']) = none := Option.isNone_iff_eq_none.1 hc
  have hinside : afterFirstClose (c.tag.inside ++ ['>']) = none := by
    refine afterFirstClose_of_append (u := '<' :: c.tag.name) ?_
    rwa [← List.append_assoc]
  have hchars (body : List Char) : c.chars body ++ post =
      '<' :: (c.tag.content ++ '>' :: (body ++ c.ending.chars ++ post)) := by
    simp [CodeElement.chars, StartTag.chars]
  have hclose (body : List Char) (hbody : '<' ∉ body) :
      afterFirstClose ('<' :: (c.tag.content ++ '>' :: (body ++ c.ending.chars ++ post))) = some post :=
    c.afterFirstClose_ending htag hbody post
  have hbind (d : Char) (pre body : List Char) :=
    afterCodeOpen_bind d pre (c.tag.content ++ '>' :: (body ++ c.ending.chars ++ post))
  induction pre using dropCode.induct with
  | case1 =>
    refine ⟨' ' :: dropCode post, fun body hbody => ?_⟩
    have hfirst : (afterCodeOpen (c.chars body ++ post)).bind afterFirstClose = some post := by
      rw [c.afterCodeOpen_chars, Option.bind_some, c.afterFirstClose_ending hinside hbody]
    rw [hchars] at hfirst
    rw [List.nil_append, hchars, dropCode_of_some hfirst]
  | case2 d pre after hafter ih =>
    obtain ⟨left, hleft⟩ := ih
    obtain ⟨rest, hopen, hafter⟩ := Option.bind_eq_some_iff.1 hafter
    refine ⟨' ' :: left, fun body hbody => ?_⟩
    have hfirst := hbind d pre body
    rw [hopen, Option.bind_some, hafter, Option.map_some, Option.some_or] at hfirst
    rw [List.cons_append, hchars, dropCode_of_some hfirst, ← hchars, hleft body hbody]
  | case3 d pre hnone ih =>
    obtain ⟨left, hleft⟩ := ih
    cases hopen : afterCodeOpen (d :: pre) with
    | none =>
      refine ⟨d :: left, fun body hbody => ?_⟩
      have hfirst := hbind d pre body
      rw [hopen, Option.bind_none] at hfirst
      rw [List.cons_append, hchars, dropCode_of_none hfirst, ← hchars, hleft body hbody]
    | some rest =>
      refine ⟨' ' :: dropCode post, fun body hbody => ?_⟩
      have hfirst := hbind d pre body
      rw [hopen, Option.bind_some] at hnone
      rw [hopen, Option.bind_some, hnone, Option.map_none, Option.none_or, hclose body hbody] at hfirst
      rw [List.cons_append, hchars, dropCode_of_some hfirst]

/-! ## Pages without their code -/

theorem dropCode_emptied (p : CodeElement → Bool) (hp : ∀ c, p c → c.isPlain) (page : Page)
    (pre post : List Char) :
    dropCode (pre ++ (page.chars ++ post)) = dropCode (pre ++ ((page.emptied p).chars ++ post)) := by
  induction page generalizing pre post with
  | nil => rfl
  | text t plain rest ih => simpa [Page.emptied, Page.chars] using ih (pre ++ t) post
  | mark m rest ih => simpa [Page.emptied, Page.chars] using ih (pre ++ m.chars) post
  | element tag ending other ends inner rest ihinner ihrest =>
    have hinner := ihinner (pre ++ tag.chars) (ending.elim [] EndTag.chars ++ rest.chars ++ post)
    have hrest :=
      ihrest (pre ++ tag.chars ++ (inner.emptied p).chars ++ ending.elim [] EndTag.chars) post
    simp only [List.append_assoc] at hinner hrest
    rw [Page.emptied, Page.chars, Page.chars]
    simp only [List.append_assoc]
    exact hinner.trans hrest
  | code c body plain rest ih =>
    rw [Page.emptied]
    split
    · rename_i hc
      obtain ⟨left, hleft⟩ := exists_dropCode c (hp c hc) pre (rest.chars ++ post)
      rw [Page.chars, Page.chars, List.append_assoc, List.append_assoc, hleft body plain,
        ← hleft [] List.not_mem_nil]
      simpa using ih (pre ++ c.chars []) post
    · simpa [Page.chars] using ih (pre ++ c.chars body) post

theorem stripTags_emptied (p : CodeElement → Bool) (hp : ∀ c, p c → c.isPlain) (page : Page) :
    stripTags page.chars = stripTags (page.emptied p).chars := by
  have h := dropCode_emptied p hp page [] []
  rw [List.nil_append, List.nil_append, List.append_nil, List.append_nil] at h
  rw [stripTags, stripTags, h]

end ScriptSandbox.Markup
