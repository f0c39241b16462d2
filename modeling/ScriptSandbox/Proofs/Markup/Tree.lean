import Mathlib.Data.Option.NAry
import ScriptSandbox.Proofs.Markup.NormalForm

/-!
# The text of a document

The reader reports a document, which is a tree, as a sequence of events, and the text is gathered by a
count of the elements of code that are open. The count stands for the ancestors (`parts_stream`):
what is gathered are the texts and sections of the tree that have no element of code above them, each
decoded and without the blanks around it, in their order (`content_of_document`).
-/

namespace ScriptSandbox.Markup

/-- What stands side by side in a document, the first of it and the rest. -/
inductive Document
  | nil
  | text (raw : List Char) (rest : Document)
  | section_ (raw : List Char) (rest : Document)
  /-- A comment, a document type or a processing instruction. -/
  | aside (rest : Document)
  | empty (name : List Char) (rest : Document)
  | element (name : List Char) (inner rest : Document)
deriving DecidableEq, Repr

/-- A part of a document that has text. -/
inductive Leaf
  | text (raw : List Char)
  | section_ (raw : List Char)
deriving DecidableEq, Repr

variable {cs blanks : List Char} {above : List (List Char)}

/-! ## The two sides -/

/-- The events of a text: it is reported without the blanks around it, and not at all if it has nothing
else. -/
def reported (raw : List Char) : List Event :=
  if raw.all isSpace then [] else [.text (trimEndBy isSpace (raw.dropWhile isSpace))]

/-- The events of a document. -/
def Document.stream : Document → List Event
  | .nil => []
  | .text raw rest => reported raw ++ rest.stream
  | .section_ raw rest => .section_ raw :: rest.stream
  | .aside rest => .aside :: rest.stream
  | .empty name rest => .empty name :: rest.stream
  | .element name inner rest => .open_ name :: (inner.stream ++ .close name :: rest.stream)

/-- The texts and sections of a document in their order, each with the names of the elements it is in,
innermost first. -/
def Document.leaves (above : List (List Char)) : Document → List (List (List Char) × Leaf)
  | .nil => []
  | .text raw rest => (above, .text raw) :: rest.leaves above
  | .section_ raw rest => (above, .section_ raw) :: rest.leaves above
  | .aside rest | .empty _ rest => rest.leaves above
  | .element name inner rest => inner.leaves (name :: above) ++ rest.leaves above

/-- Those of the texts and sections that are in no element of code. -/
def shownOf (leaves : List (List (List Char) × Leaf)) : List Leaf :=
  (leaves.filter fun l => "script".toList ∉ l.1 ∧ "style".toList ∉ l.1).map Prod.snd

/-- The texts and sections of a document that are in no element of code, in their order. -/
def Document.shown (d : Document) : List Leaf := shownOf (d.leaves [])

/-- The characters of a leaf: those of a text stand for its entities, if these are all known. -/
def Leaf.decoded : Leaf → Option (List Char)
  | .text raw => decodeEntities raw
  | .section_ raw => some raw

/-- The lines of some leaves, without those of which nothing is left. -/
def linesOf (leaves : List Leaf) : Option (List (List Char)) :=
  (leaves.mapM Leaf.decoded).map fun texts => (texts.map trimmed).filter (· ≠ [])

/-! ## Entities among blanks -/

theorem isBlank_of_isSpace {c : Char} (h : isSpace c = true) : Text.isBlank c = true := by
  simp only [isSpace, Bool.or_eq_true, decide_eq_true_eq] at h
  rcases h with ((rfl | rfl) | rfl) | rfl <;> decide

theorem ne_of_isSpace {c : Char} (h : isSpace c = true) : c ≠ '&' ∧ c ≠ ';' := by
  constructor <;> (rintro rfl; exact absurd h (by decide))

theorem decodeEntities_cons {c : Char} (hc : c ≠ '&') (cs : List Char) :
    decodeEntities (c :: cs) = (decodeEntities cs).map (c :: ·) :=
  decodeEntities.eq_3 c cs hc

theorem decodeEntities_amp (cs : List Char) :
    decodeEntities ('&' :: cs) = (entityName cs).bind fun r =>
      Option.map₂ List.cons (entity r.1) (decodeEntities r.2) := by
  rw [decodeEntities.eq_2]
  split
  · rename_i h
    rw [h]
    rfl
  · rename_i name rest h
    rw [h, Option.bind_some]
    cases entity name <;> cases decodeEntities rest <;> rfl

theorem decodeEntities_blanks (h : blanks.all isSpace) (cs : List Char) :
    decodeEntities (blanks ++ cs) = (decodeEntities cs).map (blanks ++ ·) := by
  induction blanks with
  | nil => simp
  | cons c blanks ih =>
    obtain ⟨hc, hblanks⟩ := Bool.and_eq_true_iff.1 h
    rw [List.cons_append, decodeEntities_cons (ne_of_isSpace hc).1, ih hblanks, Option.map_map]
    rfl

/-- An entity does not end among blanks. -/
theorem entityName_blanks (h : blanks.all isSpace) (cs : List Char) :
    entityName (cs ++ blanks) = (entityName cs).map fun r => (r.1, r.2 ++ blanks) := by
  induction cs with
  | nil =>
    show entityName blanks = none
    induction blanks with
    | nil => rfl
    | cons c blanks ih =>
      obtain ⟨hc, hblanks⟩ := Bool.and_eq_true_iff.1 h
      obtain ⟨hamp, hend⟩ := ne_of_isSpace hc
      rw [entityName, if_neg hend, if_neg hamp, ih hblanks]
      rfl
  | cons c cs ih =>
    rw [List.cons_append, entityName, entityName]
    split
    · rfl
    · split
      · rfl
      · rw [ih, Option.map_map, Option.map_map]
        rfl

theorem decodeEntities_append_blanks (h : blanks.all isSpace) (cs : List Char) :
    decodeEntities (cs ++ blanks) = (decodeEntities cs).map (· ++ blanks) := by
  induction cs using decodeEntities.induct with
  | case1 =>
    have := decodeEntities_blanks h []
    simpa [decodeEntities] using this
  | case2 cs hnone =>
    rw [List.cons_append, decodeEntities_amp, decodeEntities_amp, entityName_blanks h, hnone]
    rfl
  | case3 cs name rest hname ih =>
    rw [List.cons_append, decodeEntities_amp, decodeEntities_amp, entityName_blanks h, hname]
    dsimp only [Option.map_some, Option.bind_some]
    rw [ih]
    cases entity name <;> cases decodeEntities rest <;> rfl
  | case4 c cs hc ih =>
    rw [List.cons_append, decodeEntities_cons hc, decodeEntities_cons hc, ih, Option.map_map,
      Option.map_map]
    rfl

/-! ## Trimmed texts -/

theorem trimmed_blanks (h : blanks.all Text.isBlank) (cs : List Char) :
    trimmed (blanks ++ cs) = trimmed cs := by
  rw [trimmed, List.dropWhile_append_of_pos (List.all_eq_true.1 h)]
  rfl

theorem trimmed_append_blanks (h : blanks.all Text.isBlank) (cs : List Char) :
    trimmed (cs ++ blanks) = trimmed cs := by
  unfold trimmed
  rw [List.dropWhile_append]
  split
  · rename_i hempty
    rw [List.dropWhile_eq_nil_iff.2 (List.all_eq_true.1 h), List.isEmpty_iff.1 hempty]
  · have hreverse : ∀ c ∈ blanks.reverse, Text.isBlank c := fun c hc =>
      List.all_eq_true.1 h c (List.mem_reverse.1 hc)
    rw [List.rdropWhile, List.reverse_append, List.dropWhile_append_of_pos hreverse]
    rfl

theorem textPart_eq (cs : List Char) : textPart cs = [trimmed cs].filter (· ≠ []) := by
  show (if (trimmed cs).isEmpty then [] else [trimmed cs]) = _
  cases trimmed cs <;> rfl

theorem exists_trimEndBy (p : Char → Bool) (cs : List Char) :
    ∃ blanks, cs = trimEndBy p cs ++ blanks ∧ blanks.all p := by
  refine ⟨cs.rtakeWhile p, List.rdropWhile_append_rtakeWhile.symm, List.all_eq_true.2 fun c hc => ?_⟩
  exact List.mem_rtakeWhile_imp hc

/-- A text gives the same line without the blanks around it. -/
theorem textPart_decodeEntities_trim (raw : List Char) :
    (decodeEntities raw).map textPart =
      (decodeEntities (trimEndBy isSpace (raw.dropWhile isSpace))).map textPart := by
  have hblank {cs : List Char} (h : cs.all isSpace) : cs.all Text.isBlank :=
    List.all_eq_true.2 fun c hc => isBlank_of_isSpace (List.all_eq_true.1 h c hc)
  have hfront : (raw.takeWhile isSpace).all isSpace := List.all_takeWhile
  obtain ⟨back, hraw, hback⟩ := exists_trimEndBy isSpace (raw.dropWhile isSpace)
  conv_lhs =>
    rw [← List.takeWhile_append_dropWhile (p := isSpace) (l := raw), hraw,
      decodeEntities_blanks hfront, decodeEntities_append_blanks hback, Option.map_map, Option.map_map]
  congr 1
  funext cs
  rw [Function.comp_apply, Function.comp_apply, textPart_eq, textPart_eq,
    trimmed_blanks (hblank hfront), trimmed_append_blanks (hblank hback)]

/-! ## Lines -/

theorem linesOf_nil : linesOf [] = some [] := rfl

theorem linesOf_cons (leaf : Leaf) (leaves : List Leaf) :
    linesOf (leaf :: leaves) =
      Option.map₂ (· ++ ·) (leaf.decoded.map textPart) (linesOf leaves) := by
  unfold linesOf
  rw [List.mapM_cons]
  cases leaf.decoded with
  | none => rfl
  | some text =>
    cases leaves.mapM Leaf.decoded with
    | none => rfl
    | some texts =>
      show some (((text :: texts).map trimmed).filter (· ≠ [])) = some (textPart text ++ _)
      rw [textPart_eq, List.map_cons, ← List.filter_append, List.singleton_append]

theorem linesOf_append (l₁ l₂ : List Leaf) :
    linesOf (l₁ ++ l₂) = Option.map₂ (· ++ ·) (linesOf l₁) (linesOf l₂) := by
  induction l₁ with
  | nil => rw [List.nil_append, linesOf_nil]; cases linesOf l₂ <;> rfl
  | cons leaf l₁ ih =>
    rw [List.cons_append, linesOf_cons, ih, linesOf_cons, Option.map₂_assoc List.append_assoc]

theorem linesOf_eq_none_iff {leaves : List Leaf} :
    linesOf leaves = none ↔ ∃ leaf ∈ leaves, leaf.decoded = none := by
  induction leaves with
  | nil => simp [linesOf_nil]
  | cons leaf leaves ih =>
    rw [linesOf_cons, Option.map₂_eq_none_iff, Option.map_eq_none_iff, ih, List.exists_mem_cons_iff]

/-! ## From events to lines -/

theorem shownOf_append (l₁ l₂ : List (List (List Char) × Leaf)) :
    shownOf (l₁ ++ l₂) = shownOf l₁ ++ shownOf l₂ := by
  unfold shownOf
  rw [List.filter_append, List.map_append]

/-- The count of the elements of code that are open is zero where a leaf is shown. -/
theorem countP_isCode_eq_zero_iff :
    above.countP isCode = 0 ↔ "script".toList ∉ above ∧ "style".toList ∉ above := by
  rw [List.countP_eq_zero]
  constructor
  · intro h
    exact ⟨fun hmem => h _ hmem (by decide), fun hmem => h _ hmem (by decide)⟩
  · rintro ⟨hscript, hstyle⟩ name hname hcode
    rcases Bool.or_eq_true_iff.1 hcode with h | h
    · exact hscript (of_decide_eq_true h ▸ hname)
    · exact hstyle (of_decide_eq_true h ▸ hname)

theorem shownOf_cons (leaf : Leaf) (leaves : List (List (List Char) × Leaf)) :
    shownOf ((above, leaf) :: leaves) =
      if above.countP isCode = 0 then leaf :: shownOf leaves else shownOf leaves := by
  unfold shownOf
  rw [List.filter_cons]
  by_cases hcount : above.countP isCode = 0
  · rw [if_pos hcount, if_pos (decide_eq_true (countP_isCode_eq_zero_iff.1 hcount)), List.map_cons]
  · rw [if_neg hcount, if_neg fun h => hcount (countP_isCode_eq_zero_iff.2 (of_decide_eq_true h))]

theorem linesOf_shownOf_cons (leaf : Leaf) (leaves : List (List (List Char) × Leaf)) :
    linesOf (shownOf ((above, leaf) :: leaves)) =
      Option.map₂ (· ++ ·) (if above.countP isCode = 0 then leaf.decoded.map textPart else some [])
        (linesOf (shownOf leaves)) := by
  rw [shownOf_cons]
  split
  · exact linesOf_cons leaf _
  · cases linesOf (shownOf leaves) <;> rfl

theorem parts_text (n : Nat) (raw : List Char) (events : List Event) :
    parts n (.text raw :: events) =
      Option.map₂ (· ++ ·) (if n = 0 then (Leaf.text raw).decoded.map textPart else some [])
        (parts n events) := by
  rw [parts, Leaf.decoded]
  split
  · cases decodeEntities raw <;> cases parts n events <;> rfl
  · cases parts n events <;> rfl

theorem parts_reported (n : Nat) (raw : List Char) (events : List Event) :
    parts n (reported raw ++ events) =
      Option.map₂ (· ++ ·) (if n = 0 then (Leaf.text raw).decoded.map textPart else some [])
        (parts n events) := by
  have htrim := textPart_decodeEntities_trim raw
  unfold reported
  split
  · rename_i hblank
    have hnil : raw.dropWhile isSpace = [] := List.dropWhile_eq_nil_iff.2 (List.all_eq_true.1 hblank)
    have hdecoded : (Leaf.text raw).decoded.map textPart = some [] := by
      rw [Leaf.decoded, htrim, hnil]
      exact congrArg (Option.map textPart) decodeEntities.eq_1
    rw [hdecoded, ite_self, List.nil_append]
    cases parts n events <;> rfl
  · rw [List.singleton_append, parts_text, Leaf.decoded, Leaf.decoded, htrim]

theorem parts_section (n : Nat) (raw : List Char) (events : List Event) :
    parts n (.section_ raw :: events) =
      Option.map₂ (· ++ ·) (if n = 0 then (Leaf.section_ raw).decoded.map textPart else some [])
        (parts n events) := by
  rw [parts]
  split
  · cases parts n events <;> rfl
  · cases parts n events <;> rfl

/-- Where `above` are the names of the elements that are open, the count of those of code among them
tells which leaves are shown. -/
theorem parts_stream (d : Document) (above : List (List Char)) (events : List Event) :
    parts (above.countP isCode) (d.stream ++ events) =
      Option.map₂ (· ++ ·) (linesOf (shownOf (d.leaves above)))
        (parts (above.countP isCode) events) := by
  induction d generalizing above events with
  | nil =>
    show parts _ events = Option.map₂ (· ++ ·) (some []) _
    cases parts (above.countP isCode) events <;> rfl
  | text raw rest ih =>
    rw [Document.stream, List.append_assoc, parts_reported, ih, Document.leaves, linesOf_shownOf_cons,
      Option.map₂_assoc List.append_assoc]
  | section_ raw rest ih =>
    rw [Document.stream, List.cons_append, parts_section, ih, Document.leaves, linesOf_shownOf_cons,
      Option.map₂_assoc List.append_assoc]
  | aside rest ih => exact ih above events
  | empty name rest ih => exact ih above events
  | element name inner rest ihinner ihrest =>
    have hopen : (if isCode name then above.countP isCode + 1 else above.countP isCode) =
        (name :: above).countP isCode := by
      rw [List.countP_cons]
      split <;> rfl
    have hclose : (if isCode name then (name :: above).countP isCode - 1
        else (name :: above).countP isCode) = above.countP isCode := by
      rw [List.countP_cons]
      split <;> rfl
    rw [Document.stream, List.cons_append, List.append_assoc, List.cons_append, parts, hopen, ihinner,
      parts, hclose, ihrest, Document.leaves, shownOf_append, linesOf_append,
      Option.map₂_assoc List.append_assoc]

/-! ## The text of well-formed markup -/

/-- The text of markup that can be read, and whose texts can be decoded. -/
def wellFormedText (source : List Char) : Option (List Char) :=
  (events (String.ofList source)).toOption.bind contentOf

theorem textOf_eq (source : String) :
    textOf source =
      String.ofList ((wellFormedText source.toList).getD (stripTags source.toList)) := by
  unfold textOf wellFormedText
  rw [String.ofList_toList]
  cases events source <;> rfl

/-- What is gathered from a source with the events of a document are the lines of the texts and
sections that have no element of code above them, all of them and in their order, put one below
another. There is no text if one of them has an entity that is not known; entities elsewhere do not
matter. -/
theorem content_of_document (d : Document) :
    contentOf d.stream = (linesOf d.shown).map (['\n'].intercalate) ∧
      (contentOf d.stream = none ↔ ∃ leaf ∈ d.shown, leaf.decoded = none) ∧
      ∀ source, events (String.ofList source) = .ok d.stream →
        wellFormedText source = (linesOf d.shown).map (['\n'].intercalate) := by
  have hcontent : contentOf d.stream = (linesOf d.shown).map (['\n'].intercalate) := by
    have hparts := parts_stream d [] []
    rw [List.append_nil, List.countP_nil] at hparts
    unfold contentOf Document.shown
    rw [hparts]
    cases linesOf (shownOf (d.leaves [])) with
    | none => rfl
    | some lines => exact congrArg some (congrArg joinLines (List.append_nil lines))
  refine ⟨hcontent, ?_, fun source hsource => ?_⟩
  · rw [hcontent, Option.map_eq_none_iff, linesOf_eq_none_iff]
  · rw [wellFormedText, hsource, ← hcontent]
    rfl

namespace Report

/-- A report with a style. -/
def source : List Char := "<doc><title>Report</title><style>p{}</style><p>A &amp; B</p></doc>".toList

def document : Document :=
  .element "doc".toList
    (.element "title".toList (.text "Report".toList .nil) <|
      .element "style".toList (.text "p{}".toList .nil) <|
      .element "p".toList (.text "A &amp; B".toList .nil) .nil)
    .nil

end Report

/-- The lines of the report are its title and its paragraph. -/
theorem content_of_report : wellFormedText Report.source = some "Report\nA & B".toList := by
  have hsource : events (String.ofList Report.source) = .ok Report.document.stream := by decide +kernel
  have hlines : linesOf Report.document.shown = some ["Report".toList, "A & B".toList] := by
    decide +kernel
  rw [(content_of_document Report.document).2.2 _ hsource, hlines]
  rfl

end ScriptSandbox.Markup
