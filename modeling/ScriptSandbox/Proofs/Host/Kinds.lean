import ScriptSandbox.Proofs.Host.Documents
import ScriptSandbox.Proofs.Host.Images

/-!
# The kind that is told of a file

Who asks for the kind of a file is told that of its first bytes, however many of them each read
gives (`run_detectFileType`). A read takes as many bytes from the room in the buffer as from what is
left of the file, so what the buffer comes to hold is known from the start (`filledFrom_put`,
`exists_fill`). The functions that read the whole file go by the same kind.
-/

namespace ScriptSandbox

variable {σ : Type} {r : FileReader σ} {left : σ → Bytes → Prop} {file : σ} {bytes content : Bytes}
variable {t : FileTree} {path : String} {b : Buffer}

/-! ## Reads that give less than there is room for -/

namespace FileReader

/-- Files are read as they stand. A file is opened with all its content left. A read gives bytes that
are left, from the first one on: at least one if there are any, and at most as many as there is room
for. -/
structure Faithful (r : FileReader σ) (left : σ → Bytes → Prop) : Prop where
  opens : ∀ {t path content}, t.read path = .ok content →
    ∃ file, r.openFile t path = .ok file ∧ left file content
  gives : ∀ {file bytes room}, left file bytes → 0 < room → ∃ got file' rest,
    r.read file room = .ok (got, file') ∧ bytes = got ++ rest ∧ left file' rest ∧
      got.length ≤ room ∧ (bytes ≠ [] → got ≠ [])

theorem faithful_full : full.Faithful fun file bytes => file = .bytes bytes where
  opens {t path content} h := by
    refine ⟨_, ?_, rfl⟩
    change (t.stat path).map OpenFile.ofEntry = _
    unfold FileTree.read at h
    cases hstat : t.stat path with
    | error e => simp [hstat] at h
    | ok e =>
      rw [hstat] at h
      cases e with
      | dir => cases h
      | file | link | sink =>
        obtain rfl := Except.ok.inj h
        rfl
  gives {file bytes room} h hroom := by
    subst h
    refine ⟨_, _, _, rfl, (List.take_append_drop room bytes).symm, rfl, ?_, fun hne => ?_⟩
    · rw [List.length_take]
      omega
    · simp [hne, Nat.ne_of_gt hroom]

/-- Each read gives at most the next of these numbers of bytes, and at least one. Behind the last of
the numbers reads give all they can. -/
def paced (sizes : List Nat) : FileReader (Bytes × List Nat) where
  openFile t path := (t.read path).map fun content => (content, sizes)
  read file room :=
    let most := min room (max 1 (file.2.headD room))
    .ok (file.1.take most, file.1.drop most, file.2.tail)

theorem faithful_paced (sizes : List Nat) :
    (paced sizes).Faithful fun file bytes => file.1 = bytes where
  opens {t path content} h := by
    refine ⟨(content, sizes), ?_, rfl⟩
    change (t.read path).map _ = _
    rw [h]
    rfl
  gives {file bytes room} h hroom := by
    subst h
    refine ⟨_, _, _, rfl, (List.take_append_drop _ file.1).symm, rfl, ?_, fun hne => ?_⟩
    · rw [List.length_take]
      omega
    · simp only [ne_eq, List.take_eq_nil_iff, hne, or_false]
      omega

end FileReader

namespace Buffer

theorem content_put (h : 0 < b.room) (got : Bytes) :
    (b.put got).content = b.content ++ got := by
  have hfilled : (b.bytes.take b.filled).length = b.filled := by
    rw [List.length_take]
    unfold room at h
    omega
  simp only [content, put]
  rw [List.take_left' (by rw [List.length_append, hfilled])]

/-- What the buffer comes to hold when it is filled from these bytes. -/
def filledFrom (b : Buffer) (bytes : Bytes) : Bytes := b.content ++ bytes.take b.room

theorem filledFrom_empty (length : Nat) (bytes : Bytes) :
    (empty length).filledFrom bytes = bytes.take length := by
  simp [filledFrom, empty, room, content]

theorem filledFrom_nil (b : Buffer) : b.filledFrom [] = b.content := by
  rw [filledFrom, List.take_nil, List.append_nil]

theorem filledFrom_of_not_room (h : ¬ 0 < b.room) : b.filledFrom bytes = b.content := by
  rw [filledFrom, Nat.eq_zero_of_not_pos h, List.take_zero, List.append_nil]

/-- A piece that fits changes nothing of it. -/
theorem filledFrom_put {got : Bytes} (hroom : 0 < b.room) (hlength : got.length ≤ b.room)
    (rest : Bytes) : (b.put got).filledFrom rest = b.filledFrom (got ++ rest) := by
  calc (b.put got).filledFrom rest
      = b.content ++ got ++ rest.take (b.room - got.length) := by
        rw [filledFrom, content_put hroom, room_put]
    _ = b.content ++ (got ++ rest).take b.room := by
        rw [List.append_assoc, List.take_append, List.take_of_length_le hlength]

/-- However short the reads are, the buffer is filled from what is left of the file. -/
theorem exists_fill (hr : r.Faithful left) (b : Buffer) (hleft : left file bytes) :
    ∃ b', b.fill r file = .ok b' ∧ b'.content = b.filledFrom bytes := by
  fun_induction fill r b file generalizing bytes with
  | case1 b file hroom e hread =>
    obtain ⟨got, next, rest, hgives, -⟩ := hr.gives hleft hroom
    rw [hread] at hgives
    cases hgives
  | case2 b file hroom next hread =>
    obtain ⟨got, next', rest, hgives, -, -, -, hsome⟩ := hr.gives hleft hroom
    rw [hread] at hgives
    cases hgives
    have hnil : bytes = [] := not_not.1 fun h => hsome h rfl
    exact ⟨b, rfl, by rw [hnil, filledFrom_nil]⟩
  | case3 b file hroom got next hread hgot ih =>
    obtain ⟨got', next', rest, hgives, rfl, hnext, hlength, -⟩ := hr.gives hleft hroom
    rw [hread] at hgives
    cases hgives
    obtain ⟨b', hfill, hcontent⟩ := ih hnext
    exact ⟨b', hfill, by rw [hcontent, filledFrom_put hroom hlength]⟩
  | case4 b file hroom => exact ⟨b, rfl, (filledFrom_of_not_room hroom).symm⟩

end Buffer

/-- The kind that is read off a file is that of its first bytes. -/
theorem FileKind.ofPath_eq (hr : r.Faithful left) (h : t.read path = .ok content) :
    ofPath r t path = .ok (sniff (content.take window)) := by
  obtain ⟨file, hopen, hleft⟩ := hr.opens h
  obtain ⟨b, hfill, hcontent⟩ := Buffer.exists_fill hr (Buffer.empty window) hleft
  rw [Buffer.filledFrom_empty] at hcontent
  unfold ofPath
  rw [hopen]
  change ((Buffer.empty window).fill r file >>= fun b => pure (sniff b.content)) = _
  rw [hfill, ← hcontent]
  rfl

/-! ## What is told -/

namespace Documents

open FileKind HostAction

variable {s : Settings} {args : Arguments} {w : Surroundings}

/-- What is told of the kind of a file. -/
def kindReport (path : String) (kind : FileKind) : Json :=
  successWith [("path", .str path), ("mime", .str kind.mime), ("extension", .str kind.extension),
    ("category", .str kind.category.name)]

/-- What is answered on a document that is taken to be of a kind. -/
def textAnswer (path : String) (content : Bytes) (kind : FileKind) : HostResult :=
  let source := Utf8.decodeLossy content
  if isMarkup path kind then .ok (answer path "markup" (Markup.textOf source))
  else if isOpaque kind then .error (.failure (noText path kind.mime))
  else .ok (answer path "text" source)

theorem run_detectFileType (hr : r.Faithful left) (hpath : args.requireText 0 "path" = .ok path)
    (hread : w.files.read path = .ok content) :
    (Utilities.detectFileType r args).run w = (.ok (kindReport path (kindOf content)), w) := by
  unfold Utilities.detectFileType
  rw [run_bind_ofExcept, hpath]
  dsimp only
  rw [run_bind_look, ofPath_eq hr hread]
  rfl

theorem run_extractText_kind (h : Readable s args w path content) :
    (HostFunction.extractText.action s args).run w =
      (textAnswer path content (kindOf content), w) := by
  rw [run_extractText h]
  unfold textOf textAnswer
  dsimp only
  cases isMarkup path (kindOf content) with
  | true => rfl
  | false => cases isOpaque (kindOf content) <;> rfl

/-- Of every file, however it is read, if only each read gives between one byte and as many as there
is room for as long as any are left:

* the reading ends, and comes to the kind of the first bytes, of all if there are no more than the
  window takes;
* this kind is told, and also to those who ask when reads give all they can;
* by this kind go the answers on an image and on a document, for which the whole file is read. -/
theorem kind_however_read (r : FileReader σ) (left : σ → Bytes → Prop) (hr : r.Faithful left)
    (w : Surroundings) (path : String) (content : Bytes) (hread : w.files.read path = .ok content) :
    let kind := sniff (content.take (min window content.length))
    ofPath r w.files path = .ok kind ∧
    ∀ (s : Settings) (args : Arguments), args.requireText 0 "path" = .ok path →
      (Utilities.detectFileType r args).run w = (.ok (kindReport path kind), w) ∧
      (HostFunction.detectFileType.action s args).run w = (.ok (kindReport path kind), w) ∧
      (Shown s args w.files path content →
        (HostFunction.imageInfo.action s args).run w = (imageAnswer path content kind, w)) ∧
      (Readable s args w path content →
        (HostFunction.extractText.action s args).run w = (textAnswer path content kind, w)) := by
  have hkind : sniff (content.take (min window content.length)) = kindOf content := by
    rw [← List.take_eq_take_min, kindOf]
  dsimp only
  rw [hkind]
  exact ⟨ofPath_eq hr hread, fun s args hpath => ⟨run_detectFileType hr hpath hread,
    run_detectFileType FileReader.faithful_full hpath hread, run_imageInfo, run_extractText_kind⟩⟩

/-! ## A file longer than the window -/

namespace TornLetter

open CutLetter

def start : Surroundings := Kept.start "a.txt" (Utf8.encode letters)

theorem noMagic_letters : NoMagic (Utf8.encode letters) := by
  rw [encode_letters]
  exact ⟨by decide +kernel, by decide +kernel, by decide +kernel⟩

theorem length_letters : (Utf8.encode letters).length = 513 := by
  rw [encode_letters]
  decide +kernel

theorem kindOf_letters : kindOf (Utf8.encode letters) = FileKind.text := by
  rw [kindOf_text zero_not_mem noMagic_letters, toList_letters]
  decide +kernel

theorem readable : Readable {} [.str "a.txt"] start "a.txt" (Utf8.encode letters) :=
  Note.readable (by rw [length_letters]; decide)

theorem shown : Shown {} [.str "a.txt"] start.files "a.txt" (Utf8.encode letters) where
  given := readable.isPath
  stands := (FileTree.stat_eq_ok_iff (Kept.plain_files ..)).2
    ⟨_, Kept.reaches_file _ ⟨by decide, by decide, by decide⟩ ⟨by decide, by decide, by decide⟩
      (by decide)⟩
  within := by rw [length_letters]; decide

end TornLetter

open TornLetter in
/-- Three reads fill the window, and it ends within the last letter. -/
theorem kind_however_read_threeReads :
    (FileReader.paced [1, 0, 510]).Faithful (fun file bytes => file.1 = bytes) ∧
    start.files.read "a.txt" = .ok (Utf8.encode CutLetter.letters) ∧
    ofPath (FileReader.paced [1, 0, 510]) start.files "a.txt" = .ok FileKind.text ∧
    (Utilities.detectFileType (FileReader.paced [1, 0, 510]) [.str "a.txt"]).run start =
      (.ok (kindReport "a.txt" FileKind.text), start) ∧
    (HostFunction.imageInfo.action {} [.str "a.txt"]).run start =
      (imageAnswer "a.txt" (Utf8.encode CutLetter.letters) FileKind.text, start) ∧
    (HostFunction.extractText.action {} [.str "a.txt"]).run start =
      (textAnswer "a.txt" (Utf8.encode CutLetter.letters) FileKind.text, start) := by
  have hreads := FileReader.faithful_paced [1, 0, 510]
  obtain ⟨hkind, htold⟩ := kind_however_read _ _ hreads start "a.txt" _ readable.read
  have htext : sniff ((Utf8.encode CutLetter.letters).take
      (min window (Utf8.encode CutLetter.letters).length)) = FileKind.text := by
    rw [← List.take_eq_take_min]
    exact kindOf_letters
  rw [htext] at hkind htold
  obtain ⟨hdetected, -, himage, hdocument⟩ := htold {} [.str "a.txt"] readable.isPath
  exact ⟨hreads, readable.read, hkind, hdetected, himage shown, hdocument readable⟩

end Documents

end ScriptSandbox
