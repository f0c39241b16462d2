import ScriptSandbox.Proofs.Host.FileStore

/-!
# The size limit

No call makes a file larger than the settings admit, unless it is an append that has not counted
what is there (`within_run`), and so no calls one after the other do (`within_after`). Whether a
write is refused for its size is seen from what it keeps, and this with its text is what the file
has then (`kept_of_reaches`). A write that fails later leaves every file as it was (`failed_run`),
and a read gives the whole of a file within the limit (`read_of_ok`).
-/

namespace ScriptSandbox.FileCall

open FileTree FileAccess

variable {s : Settings} {w : Surroundings} {c : FileCall} {m : WriteMode} {path text : String}

/-- No file is larger than the settings admit. -/
def Within (s : Settings) (t : FileTree) : Prop :=
  ∀ l bytes, t.file? l = some bytes → bytes.length ≤ s.maxFileSize

/-- No call in a sequence is an uncounted append. -/
def AllCounted (s : Settings) : Surroundings → List FileCall → Prop
  | _, [] => True
  | w, c :: calls => ¬ c.Uncounted s w ∧ AllCounted s (c.run s w).2 calls

/-! ## Calls -/

theorem within_run (ht : w.files.Plain) (hw : Within s w.files) (hc : ¬ c.Uncounted s w) :
    Within s (c.run s w).2.files := by
  intro l bytes hbytes
  cases step s ht c with
  | grown _ _ h => exact hw l bytes (by rwa [h.file?] at hbytes)
  | lost _ _ _ _ h =>
    rcases h.file? ht l with hsame | ⟨hgone, -⟩
    · exact hw l bytes (hsame ▸ hbytes)
    · simp [hgone] at hbytes
  | @wrote x h =>
    by_cases hl : l = x.location
    · subst hl
      rw [h.file?] at hbytes
      obtain rfl := Option.some.inj hbytes
      rw [← h.size_eq hc]
      exact h.size
    · exact hw l bytes (by rwa [h.others l hl] at hbytes)

theorem within_after (ht : w.files.Plain) (hw : Within s w.files) (calls : List FileCall)
    (hcalls : AllCounted s w calls) : Within s (after s w calls).files := by
  induction calls generalizing w with
  | nil => exact hw
  | cons c calls ih => exact ih (plain_run ht c) (within_run ht hw hcalls.1) hcalls.2

/-- An append that is no detour is counted. -/
theorem not_uncounted_of_direct (ht : w.files.Plain)
    (hpath : c.args.requireText 0 "path" = .ok path)
    (hup : ".." ∉ (Route.ofPath path).names) : ¬ c.Uncounted s w := by
  cases step s ht c with
  | grown _ hidle | lost hidle =>
    rintro ⟨x, hx, -⟩
    simp [hidle.written?] at hx
  | wrote h =>
    obtain rfl := Except.ok.inj (hpath.symm.trans (admittedPath_eq_ok_iff.1 h.path).1)
    exact h.not_uncounted hup

/-- What a write keeps, with what it puts, is what the file has then, where the path leads to a
place for a file before. -/
theorem kept_of_reaches {p : Place} {l : Location} {old new : Bytes} (ht : w.files.Plain)
    (hp : TakesFile l p old) (hr : w.files.Reaches path p) :
    m.kept w.files path + new.length = (m.content old new).length := by
  refine kept_add ht (.refl [] ht) hp hr fun _ hsize => ?_
  obtain ⟨e, hsize⟩ := hsize
  cases hp with
  | file =>
    rw [size_of_reaches ht hr] at hsize
    cases hsize
  | free => simp [FileTree.file?, hr.leads.get?_of_free.2.2]

/-- A write that gives an error has been refused and has changed nothing, or has failed when
directories may have been made for it. -/
theorem failed_run {e : HostError} (ht : w.files.Plain) (hm : c.mode? = some m)
    (he : (c.run s w).1 = .error e) :
    (∃ f, e = .failure f ∧ (c.run s w).2 = w) ∨
    (∃ error path t, e = .io error ∧ c.args.requireText 0 "path" = .ok path ∧
      (c.run s w).2 = { w with files := t } ∧ Grows (above path) w.files t) := by
  have hends := writeFile_ends m s c.args ht
  rw [← run_of_mode hm] at hends
  generalize c.run s w = out at hends he
  cases hends with
  | refused f => exact .inl ⟨f, (Except.error.inj he).symm, rfl⟩
  | @failed path t error hpath hgrows =>
    exact .inr ⟨error, path, t, (Except.error.inj he).symm, (admittedPath_eq_ok_iff.1 hpath).1,
      rfl, hgrows⟩
  | written => simp at he

/-- A read that succeeds has read a whole file within the limit, and changes nothing. -/
theorem read_of_ok {v : Json} (ht : w.files.Plain) (hf : c.function = .readFile)
    (hv : (c.run s w).1 = .ok v) :
    (c.run s w).2 = w ∧ ∃ path l bytes encoding,
      c.args.requireText 0 "path" = .ok path ∧ s.allows path = true ∧
      Encoding.ofName ((c.args.optionalText 1).getD "utf8") = .ok encoding ∧
      w.files.Reaches path (.found l (.file bytes)) ∧ bytes.length ≤ s.maxFileSize ∧
      v = successWith [("path", .str path), ("content", .str (encoding.decode bytes)),
        ("size", .nat bytes.length)] := by
  obtain ⟨f, args, hf'⟩ := c
  obtain rfl : f = .readFile := hf
  have hsame : ((readFile s args).run w).2 = w := readFile_looks s args w
  obtain ⟨path, l, bytes, encoding, hpath, hencoding, hr, hn, hv⟩ :=
    readFile_ok ht (Prod.ext hv hsame)
  obtain ⟨hpath, hallows⟩ := admittedPath_eq_ok_iff.1 hpath
  exact ⟨hsame, path, l, bytes, encoding, hpath, hallows, hencoding, hr, hn, hv⟩

/-- Of every sequence of calls on files, in every tree of directories and regular files:

* no file becomes larger than the settings admit, unless there is an uncounted append among the
  calls, and that goes up on its path;
* a write is refused for its path, for the type of its file, for its text and for the size that the
  file would have, and this leaves everything as it was;
* a write that ends with another error leaves all files as they were, and makes directories at most,
  those above its path;
* a read that succeeds gives the whole of a file within the limit. -/
theorem size_limit (s : Settings) (w : Surroundings) (hw : w.files.Plain) (calls : List FileCall) :
    let w' := after s w calls
    (Within s w.files → AllCounted s w calls → Within s w'.files) ∧
    (∀ (c : FileCall) (path : String), c.args.requireText 0 "path" = .ok path →
      ".." ∉ (Route.ofPath path).names → ¬ c.Uncounted s w') ∧
    (∀ (c : FileCall) (m : WriteMode), c.mode? = some m →
      (∀ f, c.args.requireText 0 "path" = .error f → c.run s w' = (.error (.failure f), w')) ∧
      (∀ path, c.args.requireText 0 "path" = .ok path → s.allows path = false →
        c.run s w' = (.error (.failure (typeRefused path)), w')) ∧
      (∀ path f, c.args.requireText 0 "path" = .ok path → s.allows path = true →
        c.args.requireAnyText 1 "content" = .error f → c.run s w' = (.error (.failure f), w')) ∧
      (∀ path text, c.args.requireText 0 "path" = .ok path → s.allows path = true →
        c.args.requireAnyText 1 "content" = .ok text →
        s.maxFileSize < m.kept w'.files path + text.utf8ByteSize →
        c.run s w' = (.error (.failure (tooLarge .filesystem path
          (m.kept w'.files path + text.utf8ByteSize) s.maxFileSize)), w')) ∧
      (∀ path l p old new, TakesFile l p old → w'.files.Reaches path p →
        m.kept w'.files path + new.length = (m.content old new).length) ∧
      (∀ e, (c.run s w').1 = .error e →
        (∃ f, e = .failure f ∧ (c.run s w').2 = w') ∨
        (∃ error path t, e = .io error ∧ c.args.requireText 0 "path" = .ok path ∧
          (c.run s w').2 = { w' with files := t } ∧ (∀ l, t.file? l = w'.files.file? l) ∧
          Grows (above path) w'.files t))) ∧
    (∀ (c : FileCall) (v : Json), c.function = .readFile → (c.run s w').1 = .ok v →
      (c.run s w').2 = w' ∧ ∃ path l bytes encoding,
        c.args.requireText 0 "path" = .ok path ∧ s.allows path = true ∧
        Encoding.ofName ((c.args.optionalText 1).getD "utf8") = .ok encoding ∧
        w'.files.Reaches path (.found l (.file bytes)) ∧ bytes.length ≤ s.maxFileSize ∧
        v = successWith [("path", .str path), ("content", .str (encoding.decode bytes)),
          ("size", .nat bytes.length)]) := by
  intro w'
  have ht : w'.files.Plain := plain_after hw calls
  refine ⟨fun hwithin hcalls => within_after hw hwithin calls hcalls,
    fun c path hpath hup => not_uncounted_of_direct ht hpath hup,
    fun c m hm => ⟨fun f h => ?_, fun path hpath h => ?_, fun path f hpath hallows h => ?_,
      fun path text hpath hallows htext h => ?_, fun path l p old new hp hr => ?_, fun e he => ?_⟩,
    fun c v hf hv => read_of_ok ht hf hv⟩
  · rw [run_of_mode hm]
    exact writeFile_of_notAdmitted m (by rw [admittedPath_eq, h])
  · rw [run_of_mode hm]
    exact writeFile_of_notAdmitted m (by rw [admittedPath_eq, hpath]; simp [h])
  · rw [run_of_mode hm]
    exact writeFile_of_noText m (admittedPath_eq_ok_iff.2 ⟨hpath, hallows⟩) h
  · rw [run_of_mode hm, run_writeFile m w' (admittedPath_eq_ok_iff.2 ⟨hpath, hallows⟩) htext,
      if_pos h]
  · exact kept_of_reaches ht hp hr
  · rcases failed_run ht hm he with hrefused | ⟨error, path, t, herror, hpath, hafter, hgrows⟩
    · exact .inl hrefused
    · exact .inr ⟨error, path, t, herror, hpath, hafter, hgrows.file?, hgrows⟩

theorem Detour.within_start : Within { maxFileSize := 4 } Detour.start.files := by
  intro l bytes hl
  obtain rfl := Detour.file?_files hl
  decide

/-- Not every append keeps within the limit. -/
theorem not_every_append_within : ¬ ∀ (s : Settings) (w : Surroundings) (c : FileCall),
    w.files.Plain → Within s w.files → Within s (c.run s w).2.files := by
  intro h
  have hafter := h { maxFileSize := 4 } Detour.start Detour.call Detour.plain_files
    Detour.within_start ["home", "y.txt"] (Utf8.encode "abcd" ++ Utf8.encode "efgh")
    (by rw [Detour.run_call (by decide) (by decide)]; decide)
  exact absurd hafter (by decide)

/-- A file at the limit can be replaced, and nothing can be put behind it. -/
theorem size_limit_full : Detour.files.Plain ∧
    Within { maxFileSize := 4 } (after { maxFileSize := 4 } Detour.start
      [{ function := .writeFile, args := [.str "y.txt", .str "efgh"] }]).files ∧
    FileCall.run { maxFileSize := 4 } { function := .appendFile, args := [.str "y.txt", .str "e"] }
        Detour.start =
      (.error (.failure (tooLarge .filesystem "y.txt" 5 4)), Detour.start) := by
  have hnow := size_limit { maxFileSize := 4 } Detour.start Detour.plain_files []
  have hlater := size_limit { maxFileSize := 4 } Detour.start Detour.plain_files
    [{ function := .writeFile, args := [.str "y.txt", .str "efgh"] }]
  have hr : Detour.files.Reaches "y.txt" (.found ["home", "y.txt"] (.file (Utf8.encode "abcd"))) :=
    Detour.reaches_file (by decide) (by decide)
  refine ⟨Detour.plain_files, hlater.1 Detour.within_start ⟨?_, trivial⟩, ?_⟩
  · exact hnow.2.1 _ "y.txt" (by decide) (by rw [Detour.route_file]; decide)
  · obtain ⟨-, -, -, hroom, hkept, -⟩ := hnow.2.2.1
      { function := .appendFile, args := [.str "y.txt", .str "e"] } .append rfl
    simp only [after, List.foldl_nil] at hroom hkept
    have hsize : WriteMode.kept .append Detour.start.files "y.txt" + "e".utf8ByteSize = 5 := by
      rw [← Utf8.length_encode]
      exact (hkept "y.txt" _ _ _ (Utf8.encode "e") (.file _) hr).trans (by decide)
    have hrun := hroom "y.txt" "e" (by decide) (by decide) (by decide)
    rw [hsize] at hrun
    exact hrun (by decide)

end ScriptSandbox.FileCall
