import ScriptSandbox.Proofs.Markup.Tree

/-!
# Pages

A page is a tree, written down with the tags of its elements, of which some may be left open. An
element of code has no other element in it, and its name may be in any case. Whatever stands behind a
tag, the reader takes it up to its end (`StartTag.read_append`, `EndTag.isTag`, `Mark.exists_isTag`).
-/

namespace ScriptSandbox.Markup

variable {cs : List Char} {quote : Option Char}

/-! ## How a page is written -/

def isNameChar (c : Char) : Bool := !isSpace c && !"<>/'\"".toList.contains c

/-- Whether no angle ends a tag among these characters, before which `quote` is open, and no quote is
open behind them. -/
def isContent : Option Char → List Char → Bool
  | quote, [] => quote.isNone
  | some q, c :: cs => isContent (if c = q then none else some q) cs
  | none, c :: cs => c ≠ '>' && isContent (if c = '\'' ∨ c = '"' then some c else none) cs

/-- A start tag: a name that begins with a letter, and what is said of the element. -/
structure StartTag where
  name : List Char
  inside : List Char
  letter : name.head?.any Char.isAlpha
  plain : name.all isNameChar
  apart : inside.head?.all isSpace
  whole : isContent none inside
  isOpen : inside.getLast? ≠ some '/'

def StartTag.content (tag : StartTag) : List Char := tag.name ++ tag.inside

def StartTag.chars (tag : StartTag) : List Char := '<' :: (tag.content ++ ['>'])

structure EndTag where
  name : List Char
  blanks : List Char
  plain : name.all isNameChar
  blank : blanks.all isNameSpace

def EndTag.chars (tag : EndTag) : List Char := '<' :: '/' :: (tag.name ++ tag.blanks ++ ['>'])

/-- Names are the same in any case of their letters. -/
def EndTag.Ends (ending : EndTag) (tag : StartTag) : Prop :=
  ending.name.map Char.toLower = tag.name.map Char.toLower

/-- What stands between angles and is no start or end of an element. -/
inductive Mark
  | comment (text : List Char) (plain : ¬ ['-', '-', '>'] <:+: text)
  | section_ (text : List Char) (plain : ¬ [']', ']', '>'] <:+: text)
  | documentType (text : List Char) (plain : '<' ∉ text ∧ '>' ∉ text)
  | instruction (text : List Char) (plain : '>' ∉ text)
  /-- An element that is closed at once. -/
  | empty (tag : StartTag)

def Mark.chars : Mark → List Char
  | .comment text _ => ['<', '!', '-', '-'] ++ text ++ ['-', '-', '>']
  | .section_ text _ => ['<', '!', '[', 'C', 'D', 'A', 'T', 'A', '['] ++ text ++ [']', ']', '>']
  | .documentType text _ => ['<', '!', 'D', 'O', 'C', 'T', 'Y', 'P', 'E'] ++ text ++ ['>']
  | .instruction text _ => ['<', '?'] ++ text ++ ['?', '>']
  | .empty tag => '<' :: (tag.content ++ ['/', '>'])

/-- An element of code: its name is that of a script or a style in any case. -/
structure CodeElement where
  tag : StartTag
  ending : EndTag
  named : isCode (tag.name.map Char.toLower)
  ends : ending.Ends tag

def CodeElement.chars (c : CodeElement) (body : List Char) : List Char :=
  c.tag.chars ++ (body ++ c.ending.chars)

/-- Whether its name is in small letters, as the reader knows it. -/
def CodeElement.isSmall (c : CodeElement) : Bool := isCode c.tag.name

/-- What stands side by side in a page, the first of it and the rest. -/
inductive Page
  | nil
  | text (t : List Char) (plain : '<' ∉ t) (rest : Page)
  | mark (m : Mark) (rest : Page)
  /-- An element other than code, whose end tag may be missing. -/
  | element (tag : StartTag) (ending : Option EndTag)
      (other : ¬ isCode (tag.name.map Char.toLower)) (ends : ∀ e ∈ ending, e.Ends tag)
      (inner rest : Page)
  | code (c : CodeElement) (body : List Char) (plain : '<' ∉ body) (rest : Page)

/-- A page as it is written. -/
def Page.chars : Page → List Char
  | .nil => []
  | .text t _ rest => t ++ rest.chars
  | .mark m rest => m.chars ++ rest.chars
  | .element tag ending _ _ inner rest =>
    tag.chars ++ (inner.chars ++ (ending.elim [] EndTag.chars ++ rest.chars))
  | .code c body _ rest => c.chars body ++ rest.chars

/-- A page as a text. -/
def Page.source (page : Page) : String := String.ofList page.chars

/-- A page with nothing in these elements of code. -/
def Page.emptied (p : CodeElement → Bool) : Page → Page
  | .nil => .nil
  | .text t plain rest => .text t plain (rest.emptied p)
  | .mark m rest => .mark m (rest.emptied p)
  | .element tag ending other ends inner rest =>
    .element tag ending other ends (inner.emptied p) (rest.emptied p)
  | .code c body plain rest =>
    if p c then .code c [] List.not_mem_nil (rest.emptied p) else .code c body plain (rest.emptied p)

/-! ## Where a character stands -/

section Split

variable {c : Char} {l r u v : List Char}

/-- A character of the whole that is not in the first part is in the second. -/
theorem exists_of_not_mem_left (hl : c ∉ l) (h : l ++ r = u ++ c :: v) :
    ∃ a, u = l ++ a ∧ r = a ++ c :: v := by
  rcases List.append_eq_append_iff.1 h with ⟨a, hu, hr⟩ | ⟨a, hu, hr⟩
  · exact ⟨a, hu, hr⟩
  · cases a with
    | nil => exact ⟨[], by simp [hu], by simpa using hr.symm⟩
    | cons d a =>
      obtain ⟨rfl, -⟩ := List.cons.inj hr
      exact absurd (hu ▸ List.mem_append_right u List.mem_cons_self) hl

/-- A character of the whole that is not in the second part is in the first. -/
theorem exists_of_not_mem_right (hr : c ∉ r) (h : l ++ r = u ++ c :: v) :
    ∃ b, l = u ++ c :: b ∧ v = b ++ r := by
  rcases List.append_eq_append_iff.1 h with ⟨a, -, hv⟩ | ⟨a, hl, hv⟩
  · exact absurd (hv ▸ List.mem_append_right a List.mem_cons_self) hr
  · cases a with
    | nil =>
      rw [List.nil_append] at hv
      exact absurd (hv ▸ List.mem_cons_self) hr
    | cons d a =>
      obtain ⟨rfl, hrest⟩ := List.cons.inj hv
      exact ⟨a, hl, hrest⟩

theorem exists_of_not_mem_ends {m : List Char} (hl : c ∉ l) (hr : c ∉ r)
    (h : l ++ m ++ r = u ++ c :: v) : ∃ a b, m = a ++ c :: b ∧ u = l ++ a := by
  obtain ⟨b, hlm, -⟩ := exists_of_not_mem_right hr h
  obtain ⟨a, hu, hm⟩ := exists_of_not_mem_left hl hlm
  exact ⟨a, b, hm, hu⟩

end Split

/-! ## Tags are read to their ends -/

/-- What stands behind an opening angle is read up to its end, whatever stands behind it. -/
def IsTag (cs : List Char) : Prop := ∃ tag, ∀ rest, Tag.read (cs ++ rest) = .ok (tag, rest)

theorem splitTag_of_isContent (h : isContent quote cs) (seen rest : List Char) :
    splitTag quote seen (cs ++ '>' :: rest) = some (seen.reverse ++ cs, rest) := by
  induction cs generalizing quote seen with
  | nil =>
    obtain rfl := Option.isNone_iff_eq_none.1 h
    rw [List.nil_append, List.append_nil]
    rfl
  | cons c cs ih =>
    have happend : seen.reverse ++ c :: cs = (c :: seen).reverse ++ cs := by simp
    rw [happend]
    cases quote with
    | some q => exact ih h (c :: seen)
    | none =>
      obtain ⟨hc, h⟩ := Bool.and_eq_true_iff.1 h
      rw [List.cons_append, splitTag, if_neg (of_decide_eq_true hc)]
      exact ih h (c :: seen)

theorem isContent_append {cs' : List Char} (h : isContent quote cs) (h' : isContent none cs') :
    isContent quote (cs ++ cs') := by
  induction cs generalizing quote with
  | nil =>
    obtain rfl := Option.isNone_iff_eq_none.1 h
    exact h'
  | cons c cs ih =>
    cases quote with
    | some q => exact ih h
    | none =>
      obtain ⟨hc, h⟩ := Bool.and_eq_true_iff.1 h
      exact Bool.and_eq_true_iff.2 ⟨hc, ih h⟩

theorem isContent_of_names (h : cs.all isNameChar) : isContent none cs := by
  induction cs with
  | nil => rfl
  | cons c cs ih =>
    obtain ⟨hc, hcs⟩ := Bool.and_eq_true_iff.1 h
    have hplain : c ≠ '>' ∧ ¬ (c = '\'' ∨ c = '"') := by
      refine ⟨?_, ?_⟩
      · rintro rfl
        exact absurd hc (by decide)
      · rintro (rfl | rfl) <;> exact absurd hc (by decide)
    rw [isContent, if_neg hplain.2, ih hcs, decide_eq_true hplain.1]
    rfl

theorem StartTag.isSpace_of_inside (tag : StartTag) {c : Char} {inside : List Char}
    (h : tag.inside = c :: inside) : isSpace c = true := by
  have hapart := tag.apart
  rwa [h] at hapart

theorem StartTag.isContent_content (tag : StartTag) : isContent none tag.content :=
  isContent_append (isContent_of_names tag.plain) tag.whole

/-- What begins as a start tag does is read up to the first angle that is in no quotes. -/
theorem StartTag.read_append (tag : StartTag) {cs : List Char} (h : isContent none cs)
    (rest : List Char) :
    Tag.read (tag.content ++ cs ++ '>' :: rest) = .ok (.open_ (tag.content ++ cs), rest) := by
  have hsplit := splitTag_of_isContent (isContent_append tag.isContent_content h) [] rest
  obtain ⟨c, hhead, hletter⟩ := (Option.any_eq_true _ _).1 tag.letter
  obtain ⟨name, hname⟩ := List.head?_eq_some_iff.1 hhead
  have hfirst {d : Char} (hd : d.isAlpha = false) (rest' : List Char) :
      tag.content ++ cs ++ '>' :: rest ≠ d :: rest' := by
    rw [StartTag.content, hname]
    intro h
    rw [(List.cons.inj h).1, hd] at hletter
    cases hletter
  rw [Tag.read.eq_4 _ (hfirst (by decide)) (hfirst (by decide)) (hfirst (by decide)), hsplit]
  rfl

theorem StartTag.read (tag : StartTag) (rest : List Char) :
    Tag.read (tag.content ++ ['>'] ++ rest) = .ok (.open_ tag.content, rest) := by
  have hnil : isContent none [] := rfl
  have hread := tag.read_append hnil rest
  rwa [List.append_nil, ← List.singleton_append, ← List.append_assoc] at hread

theorem StartTag.isTag (tag : StartTag) : IsTag (tag.content ++ ['>']) :=
  ⟨.open_ tag.content, tag.read⟩

theorem splitAtFirst_append {stop : Char} (h : stop ∉ cs) (rest : List Char) :
    splitAtFirst stop (cs ++ stop :: rest) = (cs, rest) := by
  have hpos : ∀ c ∈ cs, decide (c ≠ stop) = true := fun c hc =>
    decide_eq_true fun heq => h (heq ▸ hc)
  unfold splitAtFirst
  rw [List.takeWhile_append_of_pos hpos, List.dropWhile_append_of_pos hpos]
  simp

theorem EndTag.not_mem (ending : EndTag) : '>' ∉ ending.name ++ ending.blanks := by
  rw [List.mem_append]
  rintro (h | h)
  · exact absurd (List.all_eq_true.1 ending.plain _ h) (by decide)
  · exact absurd (List.all_eq_true.1 ending.blank _ h) (by decide)

theorem EndTag.isTag (ending : EndTag) : IsTag ('/' :: (ending.name ++ ending.blanks ++ ['>'])) := by
  refine ⟨.close (ending.name ++ ending.blanks), fun rest => ?_⟩
  rw [List.cons_append, List.append_assoc, List.singleton_append, Tag.read,
    splitAtFirst_append ending.not_mem]

/-- Where what a bang started ends at the first angle at which it may end. -/
theorem splitBang_of_first {b : Bang} {seen : List Char} (hend : b.endsAt (cs.reverse ++ seen))
    (hfirst : ∀ u v, cs = u ++ '>' :: v → ¬ b.endsAt (u.reverse ++ seen)) (rest : List Char) :
    splitBang b seen (cs ++ '>' :: rest) = some (seen.reverse ++ cs, rest) := by
  induction cs generalizing seen with
  | nil =>
    rw [List.nil_append, List.append_nil, splitBang, if_pos ⟨rfl, hend⟩]
  | cons c cs ih =>
    have hgo : ¬ (c = '>' ∧ b.endsAt seen = true) := by
      rintro ⟨rfl, h⟩
      exact hfirst [] cs rfl h
    have happend : seen.reverse ++ c :: cs = (c :: seen).reverse ++ cs := by simp
    rw [List.cons_append, splitBang, if_neg hgo, happend]
    refine ih (by simpa using hend) fun u v huv => ?_
    have := hfirst (c :: u) v (by rw [huv, List.cons_append])
    simpa using this

/-- What ends with a character twice, and then an angle. -/
theorem infix_of_twice {e : Char} {a b front : List Char} (hlength : 2 ≤ a.length)
    (htwice : [e, e].isPrefixOf (front ++ a).reverse) : [e, e, '>'] <:+: a ++ '>' :: b := by
  rw [List.reverse_append, List.isPrefixOf_iff_prefix] at htwice
  obtain ⟨w, hw⟩ : [e, e] <+: a.reverse :=
    List.prefix_of_prefix_length_le htwice (List.prefix_append _ _) (by simpa using hlength)
  obtain rfl : a = w.reverse ++ [e, e] := by
    rw [← List.reverse_reverse a, ← hw]
    simp
  exact ⟨w.reverse, b, by simp⟩

theorem not_endsAt_comment {text u v : List Char} (h : ¬ ['-', '-', '>'] <:+: text)
    (hsplit : ['!', '-', '-'] ++ text ++ ['-', '-'] = u ++ '>' :: v) :
    ¬ Bang.comment.endsAt u.reverse := by
  obtain ⟨a, b, rfl, rfl⟩ := exists_of_not_mem_ends (by decide) (by decide) hsplit
  intro hend
  obtain ⟨hlength, htwice⟩ := Bool.and_eq_true_iff.1 hend
  refine h (infix_of_twice ?_ htwice)
  have hlength := of_decide_eq_true hlength
  rw [List.length_reverse, List.length_append] at hlength
  exact Nat.lt_of_add_lt_add_left hlength

theorem not_endsAt_section {text u v : List Char} (h : ¬ [']', ']', '>'] <:+: text)
    (hsplit : ['!', '[', 'C', 'D', 'A', 'T', 'A', '['] ++ text ++ [']', ']'] = u ++ '>' :: v) :
    ¬ Bang.section_.endsAt u.reverse := by
  obtain ⟨a, b, rfl, rfl⟩ := exists_of_not_mem_ends (by decide) (by decide) hsplit
  intro htwice
  refine h (infix_of_twice ?_ htwice)
  -- The bracket that opens the section is none of the two that close it.
  match a, htwice with
  | [], htwice => exact absurd htwice (by decide)
  | [c], htwice => simp [Bang.endsAt] at htwice
  | _ :: _ :: a, _ => simp

theorem balance_of_not_mem (h : '<' ∉ cs ∧ '>' ∉ cs) : balance cs = 0 := by
  unfold balance
  generalize (0 : Int) = n
  induction cs with
  | nil => rfl
  | cons c cs ih =>
    obtain ⟨hopen, hclose⟩ := h
    rw [List.mem_cons, not_or] at hopen hclose
    rw [List.foldl_cons, if_neg (Ne.symm hopen.1), if_neg (Ne.symm hclose.1)]
    exact ih ⟨hopen.2, hclose.2⟩

/-- What a bang started is read up to the first angle that may end it. -/
theorem isTag_bang {b : Bang} {c : Char} (hbang : Bang.ofChar (some c) = .ok b)
    (hend : b.endsAt ('!' :: c :: cs).reverse)
    (hfirst : ∀ u v, '!' :: c :: cs = u ++ '>' :: v → ¬ b.endsAt u.reverse) :
    IsTag ('!' :: c :: (cs ++ ['>'])) := by
  refine ⟨.bang b ('!' :: c :: cs), fun rest => ?_⟩
  have hsplit : splitBang b [] ('!' :: c :: (cs ++ '>' :: rest)) = some ('!' :: c :: cs, rest) :=
    splitBang_of_first (by rwa [List.append_nil])
      (fun u v huv => by rw [List.append_nil]; exact hfirst u v huv) rest
  rw [List.cons_append, List.cons_append, List.append_assoc, List.singleton_append, Tag.read.eq_1,
    List.head?_cons, hbang]
  dsimp only
  rw [hsplit]

/-- What stands behind the first angle of a mark is read to its end. -/
theorem Mark.exists_isTag (m : Mark) : ∃ cs, m.chars = '<' :: cs ∧ IsTag cs := by
  cases m with
  | comment text plain =>
    refine ⟨'!' :: '-' :: ('-' :: (text ++ ['-', '-']) ++ ['>']), by simp [Mark.chars], ?_⟩
    refine isTag_bang rfl ?_ fun u v => not_endsAt_comment plain
    simp [Bang.endsAt]
  | section_ text plain =>
    refine ⟨'!' :: '[' :: (['C', 'D', 'A', 'T', 'A', '['] ++ text ++ [']', ']'] ++ ['>']),
      by simp [Mark.chars], ?_⟩
    refine isTag_bang rfl ?_ fun u v huv => not_endsAt_section plain huv
    simp [Bang.endsAt]
  | documentType text plain =>
    refine ⟨'!' :: 'D' :: (['O', 'C', 'T', 'Y', 'P', 'E'] ++ text ++ ['>']), by simp [Mark.chars], ?_⟩
    have hplain : '<' ∉ '!' :: 'D' :: (['O', 'C', 'T', 'Y', 'P', 'E'] ++ text) ∧
        '>' ∉ '!' :: 'D' :: (['O', 'C', 'T', 'Y', 'P', 'E'] ++ text) := by simpa using plain
    have hbalance : balance ('!' :: 'D' :: (['O', 'C', 'T', 'Y', 'P', 'E'] ++ text)).reverse = 0 :=
      balance_of_not_mem (by simpa only [List.mem_reverse] using hplain)
    refine isTag_bang rfl ?_ fun u v huv => ?_
    · rw [Bang.endsAt, hbalance]
      rfl
    · exact absurd (huv ▸ List.mem_append_right u List.mem_cons_self) hplain.2
  | instruction text plain =>
    refine ⟨'?' :: (text ++ ['?'] ++ ['>']), by simp [Mark.chars], .instruction (text ++ ['?']), ?_⟩
    intro rest
    have hplain : '>' ∉ text ++ ['?'] := by simpa using plain
    rw [List.cons_append, List.append_assoc, List.singleton_append, Tag.read.eq_3,
      splitAtFirst_append hplain]
  | empty tag =>
    refine ⟨tag.content ++ ['/'] ++ ['>'], by simp [Mark.chars], .open_ (tag.content ++ ['/']), ?_⟩
    intro rest
    rw [List.append_assoc, List.singleton_append, tag.read_append (by decide)]

end ScriptSandbox.Markup
