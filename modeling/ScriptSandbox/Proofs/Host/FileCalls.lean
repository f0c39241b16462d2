import ScriptSandbox.Host.Documents
import ScriptSandbox.Proofs.Files.Changes
import ScriptSandbox.Proofs.Host.Actions
import ScriptSandbox.Proofs.Text.Utf8

/-!
# What file functions come to

One account for each function of how a call of it may end. A write is refused before anything is
changed, fails when directories may have been made for it, or sets one file (`WriteEnds`); a read
gives the content of the file that the path leads to (`readFile_of_reaches`, `readFile_ok`); a
deletion takes away what is at or below one location (`deleteFile_run`).
-/

namespace ScriptSandbox.FileAccess

open HostAction FileTree

variable {s : Settings} {args : Arguments} {w w' : Surroundings} {v : Json} {path : String}
variable {code : Code} {n : Nat} {l : Location} {bytes : Bytes}

theorem admittedPath_eq (s : Settings) (args : Arguments) :
    admittedPath s args =
      match args.requireText 0 "path" with
      | .ok path => if s.allows path then .ok path else .error (typeRefused path)
      | .error f => .error f := by
  unfold admittedPath
  cases args.requireText 0 "path" <;> rfl

theorem admittedPath_eq_ok_iff :
    admittedPath s args = .ok path ↔
      args.requireText 0 "path" = .ok path ∧ s.allows path = true := by
  rw [admittedPath_eq]
  cases args.requireText 0 "path" with
  | error f => simp
  | ok p =>
    by_cases ha : s.allows p = true
    · simp only [ha, if_true, Except.ok.injEq]
      exact ⟨fun h => ⟨h, h ▸ ha⟩, And.left⟩
    · simp only [ha, if_false, Except.ok.injEq, Bool.false_eq_true, reduceCtorEq, false_iff]
      rintro ⟨rfl, h⟩
      exact ha h

/-! ## Reading -/

theorem readAdmitted_of_not_allows (h : s.allows path = false) :
    (Documents.readAdmitted s path).run w = (.error (.failure (typeRefused path)), w) := by
  unfold Documents.readAdmitted
  rw [if_pos (by rw [h]; rfl), run_bind_fail]

theorem run_sizeWithin (hsize : w.files.size path = .ok n) (hn : n ≤ s.maxFileSize) :
    (sizeWithin code s path).run w = (.ok n, w) := by
  unfold sizeWithin
  rw [run_bind_look, hsize]
  dsimp only
  rw [if_neg (Nat.not_lt.2 hn)]
  rfl

theorem sizeWithin_ok (h : (sizeWithin code s path).run w = (.ok n, w')) :
    w' = w ∧ w.files.size path = .ok n ∧ n ≤ s.maxFileSize := by
  unfold sizeWithin at h
  rw [run_bind_look] at h
  cases hsize : w.files.size path with
  | error e =>
    rw [hsize] at h
    cases h
  | ok m =>
    rw [hsize] at h
    dsimp only at h
    split at h
    · rw [run_bind_fail] at h
      cases h
    · rename_i hm
      obtain ⟨hn, rfl⟩ := Prod.mk.inj h
      obtain rfl := Except.ok.inj hn
      exact ⟨rfl, rfl, Nat.not_lt.1 hm⟩

theorem Encoding.ofName_utf8 : Encoding.ofName "utf8" = .ok .text := by
  decide

theorem readFile_of_reaches {encoding : Encoding} (ht : w.files.Plain)
    (hpath : admittedPath s args = .ok path)
    (hencoding : Encoding.ofName ((args.optionalText 1).getD "utf8") = .ok encoding)
    (hr : w.files.Reaches path (.found l (.file bytes))) (hn : bytes.length ≤ s.maxFileSize) :
    (readFile s args).run w =
      (.ok (successWith [("path", .str path), ("content", .str (encoding.decode bytes)),
        ("size", .nat bytes.length)]), w) := by
  unfold readFile
  rw [run_bind_ofExcept, hpath]
  dsimp only
  rw [run_bind_of_ok (run_sizeWithin (size_of_reaches ht hr) hn), run_bind_look,
    (read_eq_ok_iff ht).2 ⟨l, hr⟩]
  dsimp only
  rw [run_bind_ofExcept, hencoding]
  rfl

theorem readFile_ok (ht : w.files.Plain) (h : (readFile s args).run w = (.ok v, w')) :
    ∃ path l bytes encoding, admittedPath s args = .ok path ∧
      Encoding.ofName ((args.optionalText 1).getD "utf8") = .ok encoding ∧
      w.files.Reaches path (.found l (.file bytes)) ∧ bytes.length ≤ s.maxFileSize ∧
      v = successWith [("path", .str path), ("content", .str (encoding.decode bytes)),
        ("size", .nat bytes.length)] := by
  unfold readFile at h
  rw [run_bind_ofExcept] at h
  cases hpath : admittedPath s args with
  | error f =>
    rw [hpath] at h
    cases h
  | ok path =>
    rw [hpath] at h
    dsimp only at h
    rcases hsize : (sizeWithin .filesystem s path).run w with ⟨e | n, w'⟩
    · rw [run_bind_of_error hsize] at h
      cases h
    · obtain ⟨rfl, hsize', hn⟩ := sizeWithin_ok hsize
      rw [run_bind_of_ok hsize, run_bind_look] at h
      cases hread : w'.files.read path with
      | error e =>
        rw [hread] at h
        cases h
      | ok bytes =>
        rw [hread] at h
        dsimp only at h
        rw [run_bind_ofExcept] at h
        cases hencoding : Encoding.ofName ((args.optionalText 1).getD "utf8") with
        | error f =>
          rw [hencoding] at h
          cases h
        | ok encoding =>
          rw [hencoding] at h
          obtain ⟨l, hr⟩ := (read_eq_ok_iff ht).1 hread
          obtain rfl : bytes.length = n :=
            Except.ok.inj ((size_of_reaches ht hr).symm.trans hsize')
          obtain ⟨hv, -⟩ := Prod.mk.inj h
          exact ⟨path, l, bytes, encoding, rfl, rfl, hr, hn, (Except.ok.inj hv).symm⟩

theorem readFile_looks (s : Settings) (args : Arguments) : (readFile s args).Looks := by
  refine looks_bind (looks_ofExcept _) fun path => ?_
  refine looks_bind (looks_bind (looks_look _) fun n => ?_) fun n => ?_
  · dsimp only
    split
    · exact looks_fail_bind _
    · exact looks_pure _
  · exact looks_bind (looks_look _) fun _ => looks_bind (looks_ofExcept _) fun _ => looks_pure _

theorem listDir_looks (args : Arguments) : (listDir args).Looks :=
  looks_bind (looks_ofExcept _) fun _ => looks_bind (looks_look _) fun _ => looks_pure _

theorem fileExists_looks (args : Arguments) : (fileExists args).Looks :=
  looks_bind (looks_ofExcept _) fun _ => looks_bind looks_get fun _ => looks_pure _

theorem findFiles_looks (args : Arguments) : (findFiles args).Looks := by
  refine looks_bind (looks_ofExcept _) fun root => looks_bind (looks_ofExcept _) fun pattern =>
    looks_bind (looks_look _) fun place => ?_
  split
  · exact looks_throw _
  · dsimp only
    split
    · exact looks_fail_bind _
    · split
      · exact looks_fail _
      · exact looks_bind looks_get fun _ => looks_pure _

/-! ## Writing -/

/-- The content that a write makes of an old one. -/
def WriteMode.content (m : WriteMode) (old new : Bytes) : Bytes :=
  match m with
  | .replace => new
  | .append => old ++ new

theorem WriteMode.change_eq (m : WriteMode) (path : String) (new : Bytes) (t : FileTree) :
    m.change path new t = t.change path (m.content · new) := by
  cases m <;> rfl

/-- The paths that lead to the directories a file stands in, nearest first. -/
def above (path : String) : List String :=
  match Path.parent? path with
  | some parent => parent :: ancestors parent
  | none => []

theorem run_makeParents (ht : w.files.Plain) (path : String) :
    ∃ t, Grows (above path) w.files t ∧
      ((makeParents path).run w = (.ok (), { w with files := t }) ∨
        ∃ e, (makeParents path).run w = (.error (.io e), { w with files := t })) := by
  unfold makeParents above
  cases Path.parent? path with
  | none => exact ⟨w.files, .refl _ ht, .inl rfl⟩
  | some parent =>
    have hgrows := makeAllDirs_grows ht parent
    rw [run_changePartly]
    rcases h : w.files.makeAllDirs parent with ⟨t, e | u⟩
    · exact ⟨t, by rwa [h] at hgrows, .inr ⟨_, rfl⟩⟩
    · exact ⟨t, by rwa [h] at hgrows, .inl rfl⟩

theorem writeFile_of_notAdmitted {f : Failure} (m : WriteMode)
    (h : admittedPath s args = .error f) :
    (writeFile m s args).run w = (.error (.failure f), w) := by
  unfold writeFile
  rw [run_bind_ofExcept, h]

theorem writeFile_of_noText {f : Failure} (m : WriteMode) (hpath : admittedPath s args = .ok path)
    (h : args.requireAnyText 1 "content" = .error f) :
    (writeFile m s args).run w = (.error (.failure f), w) := by
  unfold writeFile
  rw [run_bind_ofExcept, hpath]
  dsimp only
  rw [run_bind_ofExcept, h]

/-- A write of a text to a path that is admitted. -/
theorem run_writeFile {text : String} (m : WriteMode) (w : Surroundings)
    (hpath : admittedPath s args = .ok path) (htext : args.requireAnyText 1 "content" = .ok text) :
    (writeFile m s args).run w =
      if s.maxFileSize < m.kept w.files path + text.utf8ByteSize then
        (.error (.failure (tooLarge .filesystem path
          (m.kept w.files path + text.utf8ByteSize) s.maxFileSize)), w)
      else
        (makeParents path >>= fun _ => HostAction.change (m.change path (Utf8.encode text)) >>=
          fun _ => pure (successWith [("path", .str path), ("bytes", .nat text.utf8ByteSize),
            ("size", .nat (m.kept w.files path + text.utf8ByteSize))]) :
          HostAction Json).run w := by
  unfold writeFile
  rw [run_bind_ofExcept, hpath]
  dsimp only
  rw [run_bind_ofExcept, htext]
  dsimp only
  rw [run_bind_get]
  simp only [Utf8.length_encode]
  split
  · exact run_bind_fail _
  · rfl

/-- How a write ends. -/
inductive WriteEnds (m : WriteMode) (s : Settings) (args : Arguments) (w : Surroundings) :
    HostResult × Surroundings → Prop
  | refused (f : Failure) : WriteEnds m s args w (.error (.failure f), w)
  | failed {path : String} {t : FileTree} (e : IoError) (hpath : admittedPath s args = .ok path)
      (hgrows : Grows (above path) w.files t) :
      WriteEnds m s args w (.error (.io e), { w with files := t })
  | written {path text : String} {t : FileTree} {l : Location} {p : Place} {old : Bytes}
      (hpath : admittedPath s args = .ok path) (htext : args.requireAnyText 1 "content" = .ok text)
      (hsize : m.kept w.files path + text.utf8ByteSize ≤ s.maxFileSize)
      (hgrows : Grows (above path) w.files t) (hp : TakesFile l p old) (hr : t.Reaches path p)
      (hafter : (t.set l (.file (m.content old (Utf8.encode text)))).Reaches path
        (.found l (.file (m.content old (Utf8.encode text))))) :
      WriteEnds m s args w
        (.ok (successWith [("path", .str path), ("bytes", .nat text.utf8ByteSize),
          ("size", .nat (m.kept w.files path + text.utf8ByteSize))]),
        { w with files := t.set l (.file (m.content old (Utf8.encode text))) })

theorem writeFile_ends (m : WriteMode) (s : Settings) (args : Arguments) (ht : w.files.Plain) :
    WriteEnds m s args w ((writeFile m s args).run w) := by
  cases hpath : admittedPath s args with
  | error f =>
    rw [writeFile_of_notAdmitted m hpath]
    exact .refused f
  | ok path =>
    cases htext : args.requireAnyText 1 "content" with
    | error f =>
      rw [writeFile_of_noText m hpath htext]
      exact .refused f
    | ok text =>
      by_cases hsize : s.maxFileSize < m.kept w.files path + text.utf8ByteSize
      · rw [run_writeFile m w hpath htext, if_pos hsize]
        exact .refused _
      · rw [run_writeFile m w hpath htext, if_neg hsize]
        obtain ⟨t, hgrows, hrun | ⟨e, hrun⟩⟩ := run_makeParents ht path
        · rw [run_bind_of_ok hrun, run_bind, run_change]
          simp only [m.change_eq]
          cases hchange : t.change path (m.content · (Utf8.encode text)) with
          | error e => exact .failed _ hpath hgrows
          | ok t' =>
            obtain ⟨l, p, old, hp, hr, rfl, hafter⟩ := change_eq_ok hgrows.plain hchange
            exact .written hpath htext (Nat.not_lt.1 hsize) hgrows hp hr hafter
        · rw [run_bind_of_error hrun]
          exact .failed e hpath hgrows

/-- A write that is not refused succeeds where its directories can be made and the path leads to a
place for a file. -/
theorem writeFile_of_reaches {m : WriteMode} {text : String} {t : FileTree} {p : Place}
    {old : Bytes} (ht : t.Plain) (hpath : admittedPath s args = .ok path)
    (htext : args.requireAnyText 1 "content" = .ok text)
    (hsize : m.kept w.files path + text.utf8ByteSize ≤ s.maxFileSize)
    (hparents : (makeParents path).run w = (.ok (), { w with files := t }))
    (hp : TakesFile l p old) (hr : t.Reaches path p)
    (hd : (Route.ofPath path).directory = false) :
    (writeFile m s args).run w =
      (.ok (successWith [("path", .str path), ("bytes", .nat text.utf8ByteSize),
        ("size", .nat (m.kept w.files path + text.utf8ByteSize))]),
      { w with files := t.set l (.file (m.content old (Utf8.encode text))) }) := by
  rw [run_writeFile m w hpath htext, if_neg (Nat.not_lt.2 hsize), run_bind_of_ok hparents, run_bind,
    run_change]
  simp only [m.change_eq, change_of_reaches ht hp hr hd]
  rfl

/-- The file that a write ends in is measured before it, unless the path leads nowhere then. -/
theorem kept_add {m : WriteMode} {t : FileTree} {p : Place} {old new : Bytes} {paths : List String}
    (ht : w.files.Plain) (hgrows : Grows paths w.files t) (hp : TakesFile l p old)
    (hr : t.Reaches path p)
    (hmeasured : m = .append → (∃ e, w.files.size path = .error e) → w.files.file? l = none) :
    m.kept w.files path + new.length = (m.content old new).length := by
  cases m with
  | replace => simp [WriteMode.kept, WriteMode.content]
  | append =>
    have hold : WriteMode.kept .append w.files path = old.length := by
      unfold WriteMode.kept
      cases hsize : w.files.size path with
      | ok n =>
        obtain ⟨k, e, hk, rfl⟩ := reaches_of_size ht hsize
        obtain rfl := Reaches.unique hgrows.plain hr (hk.mono hgrows.keeps)
        cases hp
        rfl
      | error e =>
        have hfile := hp.file? hr.leads
        rw [hgrows.file?, hmeasured rfl ⟨e, hsize⟩] at hfile
        rw [← hfile]
        rfl
    rw [hold, WriteMode.content, List.length_append]

/-- A path that never goes up leads to a file that is there before directories are made for it. -/
theorem measured_of_direct {t : FileTree} {p : Place} {old : Bytes} {paths : List String}
    (ht : w.files.Plain) (hgrows : Grows paths w.files t) (hp : TakesFile l p old)
    (hr : t.Reaches path p) (hup : ".." ∉ (Route.ofPath path).names)
    (hsize : ∃ e, w.files.size path = .error e) : w.files.file? l = none := by
  obtain ⟨e, hsize⟩ := hsize
  cases hfile : w.files.file? l with
  | none => rfl
  | some bytes =>
    have hl := file?_eq_some.1 hfile
    have hfound : t.Reaches path (.found l (.file bytes)) := by
      have ht' := hgrows.keeps l _ hl
      cases hp with
      | file =>
        obtain rfl := Entry.file.inj (Option.some.inj (hr.leads.get?_of_found.symm.trans ht'))
        exact hr
      | free => simp [hr.leads.get?_of_free.2.2] at ht'
    rw [size_of_reaches ht (hfound.earlier ht hgrows.keeps hl hup)] at hsize
    cases hsize

/-! ## Directories and deletions -/

theorem makeDir_run (ht : w.files.Plain) (args : Arguments) :
    ((makeDir args).run w).2 = w ∨ ∃ path t, args.requireText 0 "path" = .ok path ∧
      Grows (path :: ancestors path) w.files t ∧
      ((makeDir args).run w).2 = { w with files := t } := by
  unfold makeDir
  rw [run_bind_ofExcept]
  cases args.requireText 0 "path" with
  | error f => exact .inl rfl
  | ok path =>
    have hgrows := makeAllDirs_grows ht path
    dsimp only
    rw [run_bind, run_changePartly]
    rcases h : w.files.makeAllDirs path with ⟨t, e | u⟩
    · exact .inr ⟨path, t, rfl, by rwa [h] at hgrows, rfl⟩
    · exact .inr ⟨path, t, rfl, by rwa [h] at hgrows, rfl⟩

theorem deleteFile_run (ht : w.files.Plain) (s : Settings) (args : Arguments) :
    ((deleteFile s args).run w).2 = w ∨ ∃ path l e t, args.requireText 0 "path" = .ok path ∧
      w.files.Reaches path (.found l e) ∧ Loses l w.files t ∧
      ((deleteFile s args).run w).2 = { w with files := t } := by
  unfold deleteFile
  rw [run_bind_ofExcept]
  cases hpath : args.requireText 0 "path" with
  | error f => exact .inl rfl
  | ok path =>
    dsimp only
    rw [run_bind_ofExcept]
    cases args.optionalObject 1 "options" with
    | error f => exact .inl rfl
    | ok options =>
      dsimp only
      rw [run_bind_look]
      cases w.files.stat path with
      | error e => exact .inl rfl
      | ok entry =>
        dsimp only
        split
        · split
          · rw [run_bind, run_changePartly]
            have hcases := removeAll_loses ht path
            rcases hrun : w.files.removeAll path with ⟨t, e | u⟩
            all_goals
              rw [hrun] at hcases
              rcases hcases with rfl | ⟨l, e, hr, hloses⟩
              · exact .inl rfl
              · exact .inr ⟨path, l, e, t, rfl, hr, hloses, rfl⟩
          · rw [run_bind, run_change]
            cases hrun : w.files.removeDir path with
            | error e => exact .inl rfl
            | ok t =>
              obtain ⟨l, e, hr, hloses⟩ := removeDir_loses ht hrun
              exact .inr ⟨path, l, e, t, rfl, hr, hloses, rfl⟩
        · split
          · rw [run_bind_fail]
            exact .inl rfl
          · rw [run_bind, run_change]
            cases hrun : w.files.removeFile path with
            | error e => exact .inl rfl
            | ok t =>
              obtain ⟨l, e, hr, hloses⟩ := removeFile_loses ht hrun
              exact .inr ⟨path, l, e, t, rfl, hr, hloses, rfl⟩

end ScriptSandbox.FileAccess
