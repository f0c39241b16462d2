import ScriptSandbox.Host.Call
import ScriptSandbox.Proofs.Files.FixedHeaders
import ScriptSandbox.Proofs.Files.Links
import ScriptSandbox.Proofs.Host.Actions

/-!
# Images that are looked at

Who asks about an image that may be looked at is told the kind that its first bytes tell and the size
that its header has (`run_imageInfo_file`).
-/

namespace ScriptSandbox.Documents

open FileKind ImageSize HostAction

variable {s : Settings} {args : Arguments} {w : Surroundings} {path : String} {content : Bytes}

/-- What is told of an image. -/
def imageReport (path : String) (kind : FileKind) (found : ImageSize) (size : Nat) : Json :=
  successWith [("path", .str path), ("format", .str kind.extension), ("mime", .str kind.mime),
    ("width", .nat found.width), ("height", .nat found.height), ("size", .nat size)]

/-- There is a file at the path that the arguments give, and it may be looked at. -/
structure Shown (s : Settings) (args : Arguments) (t : FileTree) (path : String) (content : Bytes) :
    Prop where
  given : args.requireText 0 "path" = .ok path
  stands : t.stat path = .ok (.file content)
  within : content.length ≤ s.maxFileSize

/-- What is answered on an image that is taken to be of a kind. -/
def imageAnswer (path : String) (content : Bytes) (kind : FileKind) : HostResult :=
  if imageExtensions.contains kind.extension then
    match ofFormat kind.extension content with
    | none => .error (.failure
        (imageFailure s!"{path} has a truncated or corrupt {kind.extension} header"))
    | some found => .ok (imageReport path kind found content.length)
  else .error (.failure (imageFailure s!"{path} is not a supported image ({kind.mime})"))

theorem run_imageInfo (h : Shown s args w.files path content) :
    (HostFunction.imageInfo.action s args).run w =
      (imageAnswer path content (kindOf content), w) := by
  have hsize : w.files.size path = .ok content.length := by
    rw [FileTree.size, h.stands]
    rfl
  have hread : w.files.read path = .ok content := by
    rw [FileTree.read, h.stands]
  change (imageInfo s args).run w = _
  unfold imageInfo imageAnswer
  rw [run_bind_ofExcept, h.given]
  dsimp only
  rw [run_bind_look, hsize]
  dsimp only
  rw [if_neg (Nat.not_lt.2 h.within), run_bind_look, hread]
  dsimp only
  cases imageExtensions.contains (kindOf content).extension with
  | false => rfl
  | true => cases ofFormat (kindOf content).extension content <;> rfl

theorem run_imageInfo_file (found : ImageSize) (h : Shown s args w.files path content)
    (himage : imageExtensions.contains (kindOf content).extension = true)
    (hfound : ofFormat (kindOf content).extension content = some found) :
    (HostFunction.imageInfo.action s args).run w =
      (.ok (imageReport path (kindOf content) found content.length), w) := by
  rw [run_imageInfo h, imageAnswer, himage, hfound]
  rfl

theorem imageExtensions_contains (h : Header) :
    imageExtensions.contains h.kind.extension = true := by
  cases h <;> rfl

theorem run_imageInfo_header (h : Header) {rest : Bytes}
    (hshown : Shown s args w.files path (h.bytes ++ rest)) :
    (HostFunction.imageInfo.action s args).run w =
      (.ok (imageReport path h.kind h.size (h.bytes ++ rest).length), w) := by
  have hrun := run_imageInfo_file (w := w) h.size hshown
  rw [show kindOf (h.bytes ++ rest) = h.kind from sniff_of_magic (ofMagic?_header h rest)] at hrun
  exact hrun (imageExtensions_contains h) (ofFormat_header h rest)

theorem run_imageInfo_core (c : CoreHeader) {rest : Bytes}
    (hshown : Shown s args w.files path (c.bytes ++ rest)) :
    (HostFunction.imageInfo.action s args).run w =
      (.ok (imageReport path FileKind.bmp c.misread (c.bytes ++ rest).length), w) := by
  have hrun := run_imageInfo_file (w := w) c.misread hshown
  rw [show kindOf (c.bytes ++ rest) = FileKind.bmp from
    sniff_of_magic (ofMagic?_core c rest)] at hrun
  exact hrun rfl (ofFormat_core c rest)

/-- Of a file that begins with the header of an image, whatever comes behind it:

* where the size stands at a fixed place, its kind is recognized and its size told, of a bitmap
  without the signs;
* a bitmap with a short header is recognized too, but the four words of its header are told as two
  long ones; where the header gives a number of bits for each point, the height told is larger than
  that of the image. -/
theorem sizes_of_headers (s : Settings) (args : Arguments) (w : Surroundings) (path : String) :
    (∀ (h : Header) (rest : Bytes), Shown s args w.files path (h.bytes ++ rest) →
      kindOf (h.bytes ++ rest) = h.kind ∧
      (HostFunction.imageInfo.action s args).run w =
        (.ok (imageReport path h.kind h.size (h.bytes ++ rest).length), w)) ∧
    ∀ (c : CoreHeader) (rest : Bytes), Shown s args w.files path (c.bytes ++ rest) →
      kindOf (c.bytes ++ rest) = FileKind.bmp ∧
      (HostFunction.imageInfo.action s args).run w =
        (.ok (imageReport path FileKind.bmp c.misread (c.bytes ++ rest).length), w) ∧
      (0 < c.bits.toNat → c.bits.toNat < 0xffff → c.size.height < c.misread.height) :=
  ⟨fun h rest hshown =>
      ⟨sniff_of_magic (ofMagic?_header h rest), run_imageInfo_header h hshown⟩,
    fun c rest hshown =>
      ⟨sniff_of_magic (ofMagic?_core c rest), run_imageInfo_core c hshown, c.lt_height_misread⟩⟩

/-! ## Two bitmaps -/

namespace Bitmap

def start : BitmapStart := ⟨0, 0, 54⟩

/-- The lowest number there is, as a height. -/
def long : Header := .bitmap start 40 (by decide) 16 (-0x80000000)

/-- Sixteen points wide and nine high, with three bytes for each. -/
def short : CoreHeader := ⟨start, 16, 9, 1, 24⟩

/-- One file in the working directory. -/
def holding (content : Bytes) : Surroundings :=
  { files := ⟨[(FileTree.home, .dir), (FileTree.home ++ ["a.bmp"], .file content)]⟩ }

theorem shown (content : Bytes) (h : content.length ≤ 100) :
    Shown { maxFileSize := 100 } [.str "a.bmp"] (holding content).files "a.bmp" content where
  given := by decide
  stands := by
    have hpath : FileTree.IsPath "a.bmp" := ⟨by decide, by decide, by decide⟩
    have hhome : (holding content).files.get? FileTree.home = some .dir := rfl
    have hfile : (holding content).files.get? (FileTree.home ++ ["a.bmp"]) = some (.file content) :=
      rfl
    rw [FileTree.stat, FileTree.resolve_of_goes hpath (by decide)
      (.child hhome ⟨by decide, by decide, by decide⟩ hfile (by simp) (.arrived hfile))]
  within := h

end Bitmap

open Bitmap in
/-- Not every size that a header has is told. -/
theorem not_every_bitmap_measured : ¬ ∀ (s : Settings) (args : Arguments) (w : Surroundings)
    (path : String) (c : CoreHeader) (rest : Bytes), Shown s args w.files path (c.bytes ++ rest) →
    (HostFunction.imageInfo.action s args).run w =
      (.ok (imageReport path FileKind.bmp c.size (c.bytes ++ rest).length), w) := by
  intro h
  have hshown := shown (short.bytes ++ []) (by decide)
  have hrun := run_imageInfo_core (w := holding (short.bytes ++ [])) short hshown
  rw [h _ _ _ _ short [] hshown] at hrun
  have hreport := Except.ok.inj (Prod.ext_iff.1 hrun).1
  exact absurd hreport (by decide +kernel)

open Bitmap in
theorem sizes_of_headers_bitmaps :
    (Shown { maxFileSize := 100 } [.str "a.bmp"] (holding (long.bytes ++ [7])).files "a.bmp"
        (long.bytes ++ [7]) ∧
      kindOf (long.bytes ++ [7]) = FileKind.bmp ∧
      (HostFunction.imageInfo.action { maxFileSize := 100 } [.str "a.bmp"]).run
          (holding (long.bytes ++ [7])) =
        (.ok (imageReport "a.bmp" FileKind.bmp ⟨16, 0x80000000⟩ 27), holding (long.bytes ++ [7]))) ∧
    (Shown { maxFileSize := 100 } [.str "a.bmp"] (holding (short.bytes ++ [])).files "a.bmp"
        (short.bytes ++ []) ∧
      short.size.height < short.misread.height) := by
  have hlong := shown (long.bytes ++ [7]) (by decide)
  have hshort := shown (short.bytes ++ []) (by decide)
  exact ⟨⟨hlong, (sizes_of_headers _ _ (holding _) _).1 long [7] hlong⟩, hshort,
    ((sizes_of_headers _ _ (holding _) _).2 short [] hshort).2.2 (by decide) (by decide)⟩

end ScriptSandbox.Documents
