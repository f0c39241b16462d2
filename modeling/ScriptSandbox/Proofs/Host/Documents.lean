import ScriptSandbox.Proofs.Files.Sniffing
import ScriptSandbox.Proofs.Host.FileReads

/-!
# Documents that are read

Who asks for the text of a document gets it if the file may be looked into and its kind has a text,
and is refused otherwise (`run_extractText`). The kind is read off the first bytes of the file.

A text without a NUL that does not begin with known first bytes is a text to those who ask for the
text of a document, and they get it as it is. The first bytes of a bitmap are known ones that a text
may well have: `BM` and anything behind it, if only there is enough of it. Such a text is refused as
a picture (`not_every_text_kept`).
-/

namespace ScriptSandbox.Documents

open FileKind FileTree HostAction

variable {s : Settings} {args : Arguments} {w : Surroundings} {path : String} {bytes : Bytes}

/-- The arguments give the path of a file that may be looked into, and it has these bytes. -/
structure Readable (s : Settings) (args : Arguments) (w : Surroundings) (path : String)
    (bytes : Bytes) : Prop where
  isPath : args.requireText 0 "path" = .ok path
  allows : s.allows path = true
  size : ∃ n ≤ s.maxFileSize, w.files.size path = .ok n
  read : w.files.read path = .ok bytes

/-- What is answered with the text of a document. -/
def answer (path format text : String) : Json :=
  successWith [("path", .str path), ("format", .str format), ("length", .nat text.length),
    ("text", .str text)]

/-- What is said of a document without a text. -/
def noText (path mime : String) : Failure :=
  { code := .document, message := s!"cannot extract text from {path} ({mime})" }

/-- What looks into a file gets the bytes. -/
theorem Readable.run_gated (h : Readable s args w path bytes) (code : Code)
    (k : String → Nat → Bytes → HostAction Json) : ∃ n ≤ s.maxFileSize,
      w.files.size path = .ok n ∧
        (Gate.gated (.ofTypes code s) args k).run w = (k path n bytes).run w := by
  obtain ⟨n, hn, hsize⟩ := h.size
  have hrefusal : (Gate.ofTypes code s).refusal? args w.files.size = none := by
    have hadmits : (Gate.ofTypes code s).admits path = true := h.allows
    unfold Gate.refusal?
    rw [h.isPath]
    dsimp only
    rw [if_pos hadmits, hsize]
    exact if_neg (Nat.not_lt.2 hn)
  refine ⟨n, hn, hsize, ?_⟩
  rw [Gate.run_gated, hrefusal]
  dsimp only
  rw [run_bind_ofExcept, h.isPath]
  dsimp only
  rw [run_bind_look, hsize]
  dsimp only
  rw [run_bind_look, h.read]

theorem run_extractText (h : Readable s args w path bytes) :
    (HostFunction.extractText.action s args).run w =
      match textOf path bytes with
      | none => (.error (.failure (noText path (kindOf bytes).mime)), w)
      | some (format, text) => (.ok (answer path format text), w) := by
  obtain ⟨n, -, -, hrun⟩ := h.run_gated .document _
  refine (Gate.run_document s args w _).trans (hrun.trans ?_)
  rcases textOf path bytes with _ | ⟨format, text⟩ <;> rfl

/-! ## Kinds of documents -/

theorem kindOf_eq (bytes : Bytes) :
    kindOf bytes = (ofMagic? bytes).getD (ofContent (bytes.take window)) := by
  rw [kindOf, sniff_eq, ofMagic?_take (by decide)]

/-! ## A file beside the program -/

namespace Kept

def files (name : String) (content : Bytes) : FileTree :=
  ⟨[(home, .dir), (home ++ [name], .file content)]⟩

def start (name : String) (content : Bytes) : Surroundings := { files := files name content }

theorem plain_files (name : String) (content : Bytes) : (files name content).Plain :=
  plain_of_entries fun a ha => by
    obtain rfl | rfl : a = (home, .dir) ∨ a = (home ++ [name], .file content) := by
      simpa [files] using ha
    · exact ⟨rfl, rfl⟩
    · exact ⟨rfl, rfl⟩

theorem reaches_file {name : String} (content : Bytes) (hname : IsName name) (hpath : IsPath name)
    (hroute : Route.ofPath name = ⟨false, [name], false⟩) :
    (files name content).Reaches name (.found (home ++ [name]) (.file content)) := by
  have hhome : (files name content).get? home = some .dir := rfl
  have hfile : (files name content).get? (home ++ [name]) = some (.file content) := by
    simp [FileTree.get?, files, home, List.lookup_cons]
  exact FileCall.Detour.reaches_of_route hpath hroute (.child hhome hname hfile (.arrived hfile))

theorem readable {name : String} {content : Bytes} (hname : IsName name) (hpath : IsPath name)
    (htext : args.requireText 0 "path" = .ok name)
    (hroute : Route.ofPath name = ⟨false, [name], false⟩)
    (hsize : content.length ≤ ({} : Settings).maxFileSize) :
    Readable {} args (start name content) name content := by
  have hplain := plain_files name content
  have hreaches := reaches_file content hname hpath hroute
  exact ⟨htext, rfl, ⟨_, hsize, size_of_reaches hplain hreaches⟩,
    (read_eq_ok_iff hplain).2 ⟨_, hreaches⟩⟩

end Kept

/-! ## Kinds of texts -/

variable {text : String}

/-- The kind of a text is read off the characters that are whole within the window. -/
theorem kindOf_text (h0 : 0 ∉ Utf8.encode text) (hmagic : NoMagic (Utf8.encode text)) :
    kindOf (Utf8.encode text) = ofText (Utf8.fitting window text.toList) := by
  rw [kindOf_eq, ofMagic?_eq_none_iff.2 hmagic]
  exact ofContent_take h0 window

/-- A document with an extension that markup does not have. -/
def NotMarkup (path : String) : Prop :=
  Text.lower ((Path.extension? path).getD "") ∉ markupExtensions

instance : Decidable (NotMarkup path) := inferInstanceAs (Decidable (_ ∉ _))

theorem isMarkup_eq (h : NotMarkup path) (kind : FileKind) :
    isMarkup path kind = (kind.extension == "xml" || kind.extension == "html") := by
  have hcontains : markupExtensions.contains (Text.lower ((Path.extension? path).getD "")) = false := by
    rw [← Bool.not_eq_true, List.contains_iff_mem]
    exact h
  rw [isMarkup, hcontains, Bool.false_or]

theorem textOf_text (h0 : 0 ∉ Utf8.encode text) (hmagic : NoMagic (Utf8.encode text))
    (hpath : NotMarkup path) (hhtml : kindOf (Utf8.encode text) ≠ html) :
    textOf path (Utf8.encode text) = some ("text", text) := by
  have hkind : kindOf (Utf8.encode text) = json ∨ kindOf (Utf8.encode text) = FileKind.text := by
    rw [kindOf_text h0 hmagic] at hhtml ⊢
    exact (ofText_cases _).resolve_left hhtml
  have hplain : isMarkup path (kindOf (Utf8.encode text)) = false ∧
      isOpaque (kindOf (Utf8.encode text)) = false := by
    rw [isMarkup_eq hpath]
    rcases hkind with h | h <;> rw [h] <;> decide
  unfold textOf
  dsimp only
  rw [hplain.1, hplain.2, Utf8.decodeLossy_encode]
  rfl

/-- A text with the first bytes of a bitmap. -/
theorem ofMagic?_bitmap (hwebp : ¬ IsRiffWebp bytes) (hbmp : isBmp bytes = true) :
    ofMagic? bytes = some bmp := by
  rw [ofMagic?, if_neg (isWebp_iff.not.2 hwebp), if_pos hbmp]

theorem textOf_bitmap (hmagic : ofMagic? bytes = some bmp) (hpath : NotMarkup path) :
    textOf path bytes = none := by
  have hkind : kindOf bytes = bmp := by rw [kindOf_eq, hmagic, Option.getD_some]
  unfold textOf
  dsimp only
  rw [hkind, isMarkup_eq hpath]
  rfl

/-- A text without a NUL that begins neither with a signature nor as a WEBP picture does, from which
its text is asked for:

* if it does not begin as a bitmap does, it is of a kind of text, and comes back as it is, unless its
  kind is HTML or its extension one of markup;
* if it begins as a bitmap does, which is to say with `BM` and in all with 26 bytes, it is taken for
  a bitmap, and refused. -/
theorem text_extracted (text : String) (h0 : 0 ∉ Utf8.encode text)
    (hsignature : ∀ s ∈ signatures, ¬ s.1 <+: Utf8.encode text)
    (hwebp : ¬ IsRiffWebp (Utf8.encode text)) :
    (¬ (Utf8.encode "BM" <+: Utf8.encode text ∧ 26 ≤ (Utf8.encode text).length) →
      IsText (sniff (Utf8.encode text)) ∧
      ∀ s args w path, Readable s args w path (Utf8.encode text) → NotMarkup path →
        kindOf (Utf8.encode text) ≠ html →
        (HostFunction.extractText.action s args).run w = (.ok (answer path "text" text), w)) ∧
    (Utf8.encode "BM" <+: Utf8.encode text ∧ 26 ≤ (Utf8.encode text).length →
      sniff (Utf8.encode text) = bmp ∧
      ∀ s args w path, Readable s args w path (Utf8.encode text) → NotMarkup path →
        (HostFunction.extractText.action s args).run w =
          (.error (.failure (noText path "image/bmp")), w)) := by
  have hbitmap := isBmp_iff h0
  refine ⟨fun hbmp => ?_, fun hbmp => ?_⟩
  · have hmagic : NoMagic (Utf8.encode text) :=
      ⟨Bool.eq_false_iff.2 (isWebp_iff.not.2 hwebp), Bool.eq_false_iff.2 (hbitmap.not.2 hbmp),
        hsignature⟩
    refine ⟨?_, fun s args w path hfile hpath hhtml => ?_⟩
    · rw [sniff_eq, ofMagic?_eq_none_iff.2 hmagic]
      exact (ofContent_encodeChars h0).symm ▸ isText_ofText _
    · rw [run_extractText hfile, textOf_text h0 hmagic hpath hhtml]
  · have hmagic := ofMagic?_bitmap hwebp (hbitmap.2 hbmp)
    refine ⟨by rw [sniff_eq, hmagic, Option.getD_some], fun s args w path hfile hpath => ?_⟩
    rw [run_extractText hfile, textOf_bitmap hmagic hpath, kindOf_eq, hmagic]
    rfl

/-! ## Two notes -/

namespace Note

/-- A note in a file of plain text. -/
def kept (text : String) : Surroundings := Kept.start "a.txt" (Utf8.encode text)

theorem readable {text : String} (h : (Utf8.encode text).length ≤ ({} : Settings).maxFileSize) :
    Readable {} [.str "a.txt"] (kept text) "a.txt" (Utf8.encode text) :=
  Kept.readable ⟨by decide, by decide, by decide⟩ ⟨by decide, by decide, by decide⟩ (by decide)
    (by decide) h

/-- A note that begins with the name of a maker of cars. -/
def cars : String := "BMW makes cars and motorcycles."

/-- A note with a letter of two bytes. -/
def books : String := "Bücher"

end Note

/-- Not every text is taken for one. -/
theorem not_every_text_kept : ¬ ∀ text : String, 0 ∉ Utf8.encode text →
    (∀ s ∈ signatures, ¬ s.1 <+: Utf8.encode text) → ¬ IsRiffWebp (Utf8.encode text) →
    IsText (sniff (Utf8.encode text)) := by
  intro h
  have hkind : sniff (Utf8.encode Note.cars) = bmp := by decide
  have htext := h Note.cars (by decide) (by decide) (isWebp_iff.not.1 (by decide))
  rw [hkind] at htext
  rcases htext with h | h <;> exact absurd h (by decide)

/-- One note comes back as it is, and the other is refused as a picture. -/
theorem text_extracted_notes :
    (HostFunction.extractText.action {} [.str "a.txt"]).run (Note.kept Note.books) =
      (.ok (answer "a.txt" "text" Note.books), Note.kept Note.books) ∧
    (HostFunction.extractText.action {} [.str "a.txt"]).run (Note.kept Note.cars) =
      (.error (.failure (noText "a.txt" "image/bmp")), Note.kept Note.cars) := by
  have hbooks := (text_extracted Note.books (by decide) (by decide)
    (isWebp_iff.not.1 (by decide))).1 (by decide)
  have hcars := (text_extracted Note.cars (by decide) (by decide)
    (isWebp_iff.not.1 (by decide))).2 (by decide)
  have hkind : kindOf (Utf8.encode Note.books) ≠ html := by
    rw [kindOf_text (by decide) ⟨by decide, by decide, by decide⟩]
    decide
  exact ⟨hbooks.2 _ _ _ _ (Note.readable (by decide)) (by decide) hkind,
    hcars.2 _ _ _ _ (Note.readable (by decide)) (by decide)⟩

end ScriptSandbox.Documents
