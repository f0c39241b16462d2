import ScriptSandbox.Host.Call
import ScriptSandbox.Proofs.Host.FileCalls

/-!
# Files as a store

Calls on files, one after the other, and what the files hold then. Each file has a story: the bytes
that the calls have found in it and the texts that they have put behind them since (`Story`). After
every sequence of calls a file holds what its story says (`holds_story`). A call does one of three
things to the files (`step`): it makes directories at most, it takes away what is at or below one
location, or it writes one file.
-/

namespace ScriptSandbox

open FileTree FileAccess HostAction

/-- A call of a function on files. -/
structure FileCall where
  function : HostFunction
  args : Arguments
  isFile : function ∈ (Group.feature .filesystem).functions := by decide

/-- What a call has written: which way, by which path, what, and where. -/
structure Written where
  mode : WriteMode
  path : String
  text : String
  location : Location

namespace FileCall

variable {s : Settings} {w : Surroundings} {c : FileCall} {m : WriteMode} {x : Written}
variable {l k : Location} {bytes : Bytes}

def run (s : Settings) (c : FileCall) (w : Surroundings) : HostResult × Surroundings :=
  (c.function.action s c.args).run w

/-- The surroundings after calls. -/
def after (s : Settings) (w : Surroundings) (calls : List FileCall) : Surroundings :=
  calls.foldl (fun w c => (c.run s w).2) w

def mode? (c : FileCall) : Option WriteMode :=
  match c.function with
  | .writeFile => some .replace
  | .appendFile => some .append
  | _ => none

/-- What a call writes. It writes to the place where its path leads in the end. -/
def written? (s : Settings) (w : Surroundings) (c : FileCall) : Option Written :=
  match c.mode?, (c.run s w).1, c.args.requireText 0 "path", c.args.requireAnyText 1 "content" with
  | some mode, .ok _, .ok path, .ok text =>
    match (c.run s w).2.files.resolve path true with
    | .ok (.found location _) => some { mode, path, text, location }
    | _ => none
  | _, _, _, _ => none

/-- An append whose path leads nowhere before the missing directories are made, and then to a file
that was there all the time. What this file holds has not been counted. -/
def Uncounted (s : Settings) (w : Surroundings) (c : FileCall) : Prop :=
  ∃ x, c.written? s w = some x ∧ x.mode = .append ∧ (∃ e, w.files.size x.path = .error e) ∧
    w.files.file? x.location ≠ none

/-! ## One call -/

/-- What a write has done. -/
structure Wrote (s : Settings) (w : Surroundings) (c : FileCall) (x : Written) : Prop where
  mode : c.mode? = some x.mode
  written : c.written? s w = some x
  path : admittedPath s c.args = .ok x.path
  text : c.args.requireAnyText 1 "content" = .ok x.text
  size : x.mode.kept w.files x.path + x.text.utf8ByteSize ≤ s.maxFileSize
  result : (c.run s w).1 = .ok (successWith [("path", .str x.path),
    ("bytes", .nat x.text.utf8ByteSize),
    ("size", .nat (x.mode.kept w.files x.path + x.text.utf8ByteSize))])
  reaches : (c.run s w).2.files.Reaches x.path (.found x.location
    (.file (x.mode.content ((w.files.file? x.location).getD []) (Utf8.encode x.text))))
  others : ∀ k, k ≠ x.location → (c.run s w).2.files.file? k = w.files.file? k
  plain : (c.run s w).2.files.Plain
  counted : (x.mode = .append → (∃ e, w.files.size x.path = .error e) →
      w.files.file? x.location = none) →
    x.mode.kept w.files x.path + x.text.utf8ByteSize =
      (x.mode.content ((w.files.file? x.location).getD []) (Utf8.encode x.text)).length
  direct : ".." ∉ (Route.ofPath x.path).names → (∃ e, w.files.size x.path = .error e) →
    w.files.file? x.location = none

theorem run_of_mode (h : c.mode? = some m) : c.run s w = (writeFile m s c.args).run w := by
  obtain ⟨f, args, hf⟩ := c
  cases f <;> simp [mode?] at h <;> subst h <;> rfl

/-- What a write has told of its size is right if all has been counted. -/
theorem Wrote.size_eq (h : c.Wrote s w x) (hc : ¬ c.Uncounted s w) :
    x.mode.kept w.files x.path + x.text.utf8ByteSize =
      (x.mode.content ((w.files.file? x.location).getD []) (Utf8.encode x.text)).length := by
  refine h.counted fun happend hsize => ?_
  by_contra hfile
  exact hc ⟨x, h.written, happend, hsize, hfile⟩

theorem Wrote.not_uncounted (h : c.Wrote s w x) (hup : ".." ∉ (Route.ofPath x.path).names) :
    ¬ c.Uncounted s w := by
  rintro ⟨y, hy, -, hsize, hfile⟩
  obtain rfl := Option.some.inj (h.written.symm.trans hy)
  exact hfile (h.direct hup hsize)

/-- An uncounted append takes its file for empty. -/
theorem Wrote.kept_of_uncounted (h : c.Wrote s w x) (hc : c.Uncounted s w) :
    x.mode.kept w.files x.path = 0 := by
  obtain ⟨y, hy, happend, ⟨e, hsize⟩, -⟩ := hc
  obtain rfl := Option.some.inj (h.written.symm.trans hy)
  rw [happend, WriteMode.kept, hsize]
  rfl

/-- The call is none that writes, or fails. -/
def Idle (s : Settings) (w : Surroundings) (c : FileCall) : Prop :=
  c.mode? = none ∨ ∃ e, (c.run s w).1 = .error e

theorem Idle.written? (h : c.Idle s w) : c.written? s w = none := by
  unfold FileCall.written?
  rcases h with h | ⟨e, h⟩
  · rw [h]
  · rw [h]
    split
    · simp_all
    · rfl

theorem not_idle {v : Json} (hm : c.mode? = some m) (hv : (c.run s w).1 = .ok v) :
    ¬ c.Idle s w := by
  rintro (h | ⟨e, h⟩)
  · simp [h] at hm
  · simp [h] at hv

/-- What a call does to the files. -/
inductive Step (s : Settings) (w : Surroundings) (c : FileCall) : Prop
  | grown (paths : List String) (hidle : c.Idle s w)
      (h : Grows paths w.files (c.run s w).2.files)
  | lost {path : String} {l : Location} {e : Entry} (hidle : c.Idle s w)
      (hf : c.function = .deleteFile) (hpath : c.args.requireText 0 "path" = .ok path)
      (hr : w.files.Reaches path (.found l e)) (h : Loses l w.files (c.run s w).2.files)
  | wrote {x : Written} (h : c.Wrote s w x)

theorem step_of_mode (ht : w.files.Plain) (hm : c.mode? = some m) : c.Step s w := by
  have hends := writeFile_ends m s c.args ht
  rw [← run_of_mode hm] at hends
  generalize hrun : c.run s w = out at hends
  cases hends with
  | refused f =>
    refine .grown [] (.inr ⟨_, by rw [hrun]⟩) ?_
    rw [hrun]
    exact .refl _ ht
  | @failed path _ _ _ hgrows =>
    refine .grown (above path) (.inr ⟨_, by rw [hrun]⟩) ?_
    rw [hrun]
    exact hgrows
  | @written path text t l p old hpath htext hsize hgrows hp hr hafter =>
    have hold : (w.files.file? l).getD [] = old := by
      rw [← hgrows.file?]
      exact hp.file? hr.leads
    have hplain := hp.plain hgrows.plain hr.leads (m.content old (Utf8.encode text))
    refine .wrote (x := ⟨m, path, text, l⟩) ⟨hm, ?_, hpath, htext, hsize, ?_, ?_, fun k hk => ?_,
      ?_, fun hmeasured => ?_, measured_of_direct ht hgrows hp hr⟩
    · unfold written?
      rw [hm, hrun, (admittedPath_eq_ok_iff.1 hpath).1, htext]
      simp only [(resolve_eq_ok_iff hplain true).2 hafter]
    · rw [hrun]
    · rw [hrun, hold]
      exact hafter
    · rw [hrun]
      simp only [file?_set (hp.ne_nil hr.leads), if_neg hk, hgrows.file?]
    · rw [hrun]
      exact hplain
    · rw [hold, ← Utf8.length_encode]
      exact kept_add ht hgrows hp hr hmeasured

theorem step_of_looks (ht : w.files.Plain) (hm : c.mode? = none)
    (h : (c.function.action s c.args).Looks) : c.Step s w := by
  refine .grown [] (.inl hm) ?_
  rw [run, h w]
  exact .refl _ ht

theorem step (s : Settings) (ht : w.files.Plain) (c : FileCall) : c.Step s w := by
  obtain ⟨f, args, hf⟩ := c
  have hf' : f = .readFile ∨ f = .writeFile ∨ f = .appendFile ∨ f = .listDir ∨ f = .fileExists ∨
      f = .deleteFile ∨ f = .makeDir ∨ f = .findFiles := by
    simpa [Group.functions] using hf
  rcases hf' with rfl | rfl | rfl | rfl | rfl | rfl | rfl | rfl
  · exact step_of_looks ht rfl (readFile_looks s args)
  · exact step_of_mode ht rfl
  · exact step_of_mode ht rfl
  · exact step_of_looks ht rfl (listDir_looks args)
  · exact step_of_looks ht rfl (fileExists_looks args)
  · rcases deleteFile_run ht s args with h | ⟨path, l, e, t, hpath, hr, hloses, h⟩
    · refine .grown [] (.inl rfl) ?_
      change Grows [] w.files ((deleteFile s args).run w).2.files
      rw [h]
      exact .refl _ ht
    · refine .lost (.inl rfl) rfl hpath hr ?_
      change Loses l w.files ((deleteFile s args).run w).2.files
      rwa [h]
  · rcases makeDir_run ht args with h | ⟨path, t, -, hgrows, h⟩
    · refine .grown [] (.inl rfl) ?_
      change Grows [] w.files ((makeDir args).run w).2.files
      rw [h]
      exact .refl _ ht
    · refine .grown (path :: ancestors path) (.inl rfl) ?_
      change Grows _ w.files ((makeDir args).run w).2.files
      rwa [h]
  · exact step_of_looks ht rfl (findFiles_looks args)

/-- A write that succeeds has written. -/
theorem wrote_of_ok {v : Json} (ht : w.files.Plain) (hm : c.mode? = some m)
    (hv : (c.run s w).1 = .ok v) : ∃ x, c.Wrote s w x ∧ x.mode = m ∧
      v = successWith [("path", .str x.path), ("bytes", .nat x.text.utf8ByteSize),
        ("size", .nat (m.kept w.files x.path + x.text.utf8ByteSize))] := by
  cases step s ht c with
  | grown _ hidle => exact absurd hidle (not_idle hm hv)
  | lost hidle => exact absurd hidle (not_idle hm hv)
  | @wrote x h =>
    obtain rfl := Option.some.inj (hm.symm.trans h.mode)
    exact ⟨x, h, rfl, Except.ok.inj (hv.symm.trans h.result)⟩

/-- A file that a call has changed is the one it writes, or gone with what it deletes. -/
theorem place_of_changed (ht : w.files.Plain)
    (hl : (c.run s w).2.files.file? l ≠ w.files.file? l) :
    (∃ x, c.written? s w = some x ∧ x.location = l) ∨
    (c.function = .deleteFile ∧ (c.run s w).2.files.file? l = none ∧
      ∃ path k e, c.args.requireText 0 "path" = .ok path ∧ w.files.Reaches path (.found k e) ∧
        (l = k ∨ e = .dir ∧ k <+: l)) := by
  cases step s ht c with
  | grown _ _ h => exact absurd (h.file? l) hl
  | @lost path k e _ hf hpath hr h =>
    rcases h.file? ht l with hsame | ⟨hgone, hplace⟩
    · exact absurd hsame hl
    · refine .inr ⟨hf, hgone, path, k, e, hpath, hr, hplace.imp_right fun hdir => ⟨?_, hdir.2⟩⟩
      exact Option.some.inj (hr.leads.get?_of_found.symm.trans hdir.1)
  | @wrote x h =>
    refine .inl ⟨x, h.written, ?_⟩
    by_contra hne
    exact hl (h.others l (Ne.symm hne))

/-- A read as text gives all that the file holds, as it is read. -/
theorem run_readFile {path : String} (ht : w.files.Plain) (hf : c.function = .readFile)
    (hpath : c.args.requireText 0 "path" = .ok path) (hname : c.args.optionalText 1 = none)
    (hr : w.files.Reaches path (.found l (.file bytes))) (hallows : s.allows path = true)
    (hn : bytes.length ≤ s.maxFileSize) :
    c.run s w = (.ok (successWith [("path", .str path),
      ("content", .str (Utf8.decodeLossy bytes)), ("size", .nat bytes.length)]), w) := by
  obtain ⟨f, args, hf'⟩ := c
  obtain rfl : f = .readFile := hf
  have hencoding : Encoding.ofName ((args.optionalText 1).getD "utf8") = .ok .text := by
    rw [show args.optionalText 1 = none from hname]
    exact Encoding.ofName_utf8
  exact readFile_of_reaches ht (admittedPath_eq_ok_iff.2 ⟨hpath, hallows⟩) hencoding hr hn

theorem plain_run (ht : w.files.Plain) (c : FileCall) : (c.run s w).2.files.Plain := by
  cases step s ht c with
  | grown _ _ h => exact h.plain
  | lost _ _ _ _ h => exact h.plain
  | wrote h => exact h.plain

theorem plain_after (ht : w.files.Plain) (calls : List FileCall) :
    (after s w calls).files.Plain := by
  induction calls generalizing w with
  | nil => exact ht
  | cons c calls ih => exact ih (plain_run ht c)

end FileCall

/-! ## Stories -/

/-- How a file has come to what it holds: bytes that calls have found in it, and the texts that they
have put behind them since. -/
structure Story where
  found : Bytes
  texts : List String

namespace Story

def bytes (st : Story) : Bytes := st.found ++ Utf8.encode (String.join st.texts)

/-- The story of a file that begins with a text. -/
def begin (text : String) : Story := ⟨[], [text]⟩

def add (st : Story) (text : String) : Story := { st with texts := st.texts ++ [text] }

theorem bytes_begin (text : String) : (begin text).bytes = Utf8.encode text := by
  simp [begin, bytes, String.join]

theorem bytes_add (st : Story) (text : String) :
    (st.add text).bytes = st.bytes ++ Utf8.encode text := by
  have h : String.join (st.texts ++ [text]) = String.join st.texts ++ text := by
    simp [String.join, List.foldl_append]
  rw [bytes, add, h, Utf8.encode_append, bytes, List.append_assoc]

/-- Texts behind a text are read as one text. -/
theorem decode_bytes {st : Story} {before : String} (h : st.found = Utf8.encode before) :
    Utf8.decodeLossy st.bytes = before ++ String.join st.texts := by
  rw [bytes, h, ← Utf8.encode_append, Utf8.decodeLossy_encode]

end Story

namespace FileCall

variable {s : Settings} {w : Surroundings} {l : Location} {st : Story}

/-- How the story of the file at a location goes on with a call. A text that replaces a file, or
makes one, begins another story. -/
def tell (s : Settings) (w : Surroundings) (l : Location) (st : Story) (c : FileCall) : Story :=
  match c.written? s w with
  | none => st
  | some x =>
    if x.location ≠ l then st
    else if x.mode = .append ∧ w.files.file? l ≠ none then st.add x.text
    else .begin x.text

/-- How it goes on with calls one after the other. -/
def tellAll (s : Settings) (l : Location) : Surroundings → Story → List FileCall → Story
  | _, st, [] => st
  | w, st, c :: calls => tellAll s l (c.run s w).2 (c.tell s w l st) calls

/-- The story of the file at a location in a sequence of calls: what is there at first has been
found. -/
def story (s : Settings) (w : Surroundings) (calls : List FileCall) (l : Location) : Story :=
  tellAll s l w ⟨(w.files.file? l).getD [], []⟩ calls

/-- The file at a location, if there is one, holds what the story says. -/
def Holds (t : FileTree) (l : Location) (st : Story) : Prop :=
  ∀ bytes, t.file? l = some bytes → bytes = st.bytes

theorem Wrote.file? {c : FileCall} {x : Written} (h : c.Wrote s w x) :
    (c.run s w).2.files.file? x.location =
      some (x.mode.content ((w.files.file? x.location).getD []) (Utf8.encode x.text)) :=
  file?_eq_some.2 h.reaches.leads.get?_of_found

theorem holds_tell (ht : w.files.Plain) (hst : Holds w.files l st) (c : FileCall) :
    Holds (c.run s w).2.files l (c.tell s w l st) := by
  intro bytes hbytes
  cases step s ht c with
  | grown _ hidle h =>
    simp only [tell, hidle.written?]
    exact hst bytes (by rwa [h.file?] at hbytes)
  | lost hidle _ _ _ h =>
    simp only [tell, hidle.written?]
    rcases h.file? ht l with hsame | ⟨hgone, -⟩
    · exact hst bytes (hsame ▸ hbytes)
    · simp [hgone] at hbytes
  | @wrote x h =>
    simp only [tell, h.written]
    split
    · rename_i hne
      exact hst bytes (by rwa [h.others l (Ne.symm hne)] at hbytes)
    · rename_i heq
      obtain rfl : x.location = l := not_not.1 heq
      rw [h.file?] at hbytes
      obtain rfl := Option.some.inj hbytes
      split
      · rename_i happend
        obtain ⟨old, hold⟩ := Option.ne_none_iff_exists'.1 happend.2
        rw [happend.1, hold, Story.bytes_add, ← hst old hold]
        rfl
      · rename_i hnew
        rw [Story.bytes_begin]
        cases hmode : x.mode with
        | replace => rfl
        | append =>
          have hnone : w.files.file? x.location = none := by
            by_contra hsome
            exact hnew ⟨hmode, hsome⟩
          rw [hnone]
          rfl

theorem holds_tellAll (ht : w.files.Plain) (hst : Holds w.files l st) (calls : List FileCall) :
    Holds (after s w calls).files l (tellAll s l w st calls) := by
  induction calls generalizing w st with
  | nil => exact hst
  | cons c calls ih => exact ih (plain_run ht c) (holds_tell ht hst c)

/-- A file holds what its story says. -/
theorem holds_story (ht : w.files.Plain) (calls : List FileCall) (l : Location) :
    Holds (after s w calls).files l (story s w calls l) := by
  refine holds_tellAll ht (fun bytes h => ?_) calls
  simp [Story.bytes, String.join, h, Utf8.encode, Utf8.encodeChars]

/-- Of every sequence of calls on files, in every tree of directories and regular files:

* afterwards a file holds the texts of its story behind what the calls have found in it, and a read
  by any path that leads to it gives all of that, where type and size admit it;
* a write that succeeds tells of the bytes of its text and of those of the file, to which its path
  leads then; only an uncounted append tells of its text alone, and that goes up on its path;
* a call changes no file but the one that it writes and, when it deletes, the one at the place to
  which its path leads and, if this is a directory, those below. -/
theorem faithful_store (s : Settings) (w : Surroundings) (hw : w.files.Plain)
    (calls : List FileCall) :
    let w' := after s w calls
    (∀ l bytes, w'.files.file? l = some bytes →
      let st := story s w calls l
      bytes = st.found ++ Utf8.encode (String.join st.texts) ∧
      ∀ (c : FileCall) (path : String), c.function = .readFile →
        c.args.requireText 0 "path" = .ok path → c.args.optionalText 1 = none →
        w'.files.Reaches path (.found l (.file bytes)) → s.allows path = true →
        bytes.length ≤ s.maxFileSize →
        ∃ content, c.run s w' = (.ok (successWith [("path", .str path),
            ("content", .str content), ("size", .nat bytes.length)]), w') ∧
          content = Utf8.decodeLossy bytes ∧
          ∀ before, st.found = Utf8.encode before → content = before ++ String.join st.texts) ∧
    (∀ (c : FileCall) (m : WriteMode) (v : Json), c.mode? = some m → (c.run s w').1 = .ok v →
      ∃ x bytes n, c.written? s w' = some x ∧ x.mode = m ∧
        c.args.requireText 0 "path" = .ok x.path ∧
        c.args.requireAnyText 1 "content" = .ok x.text ∧
        bytes = m.content ((w'.files.file? x.location).getD []) (Utf8.encode x.text) ∧
        (c.run s w').2.files.Reaches x.path (.found x.location (.file bytes)) ∧
        v = successWith [("path", .str x.path), ("bytes", .nat x.text.utf8ByteSize),
          ("size", .nat n)] ∧
        (¬ c.Uncounted s w' → n = bytes.length) ∧
        (c.Uncounted s w' → n = x.text.utf8ByteSize) ∧
        (".." ∉ (Route.ofPath x.path).names → ¬ c.Uncounted s w')) ∧
    (∀ (c : FileCall) (l : Location), (c.run s w').2.files.file? l ≠ w'.files.file? l →
      (∃ x, c.written? s w' = some x ∧ x.location = l) ∨
      (c.function = .deleteFile ∧ (c.run s w').2.files.file? l = none ∧
        ∃ path k e, c.args.requireText 0 "path" = .ok path ∧
          w'.files.Reaches path (.found k e) ∧ (l = k ∨ e = .dir ∧ k <+: l))) := by
  intro w'
  have ht : w'.files.Plain := plain_after hw calls
  refine ⟨fun l bytes hbytes => ?_, fun c m v hm hv => ?_, fun c l hl => place_of_changed ht hl⟩
  · intro st
    have hstory : bytes = st.bytes := holds_story hw calls l bytes hbytes
    refine ⟨hstory, fun c path hf hpath hname hr hallows hn =>
      ⟨_, run_readFile ht hf hpath hname hr hallows hn, rfl, fun before hfound => ?_⟩⟩
    rw [hstory, Story.decode_bytes hfound]
  · obtain ⟨x, h, rfl, rfl⟩ := wrote_of_ok ht hm hv
    refine ⟨x, _, _, h.written, rfl, (admittedPath_eq_ok_iff.1 h.path).1, h.text, rfl, h.reaches,
      rfl, h.size_eq, fun hc => ?_, h.not_uncounted⟩
    rw [h.kept_of_uncounted hc, Nat.zero_add]

/-! ## A detour -/

namespace Detour

/-- A working directory with one file. -/
def files : FileTree := ⟨[(home, .dir), (["home", "y.txt"], .file (Utf8.encode "abcd"))]⟩

/-- The tree when the directory of the detour has been made. -/
def made : FileTree := files.set ["home", "x"] .dir

def start : Surroundings := { files }

/-- An append to the file, by a path through a directory that is not there. -/
def call : FileCall := { function := .appendFile, args := [.str "x/../y.txt", .str "efgh"] }

def done : FileTree :=
  made.set ["home", "y.txt"] (.file (Utf8.encode "abcd" ++ Utf8.encode "efgh"))

theorem plain_files : files.Plain := plain_of_entries (by decide)

theorem plain_made : made.Plain := plain_of_entries (by decide)

theorem plain_done : done.Plain := plain_of_entries (by decide)

theorem file?_files {l : Location} {bytes : Bytes} (h : files.file? l = some bytes) :
    bytes = Utf8.encode "abcd" := by
  rcases mem_entries_of_get? (file?_eq_some.1 h) with ⟨-, he⟩ | hin
  · cases he
  · have hbytes : l = ["home", "y.txt"] ∧ bytes = Utf8.encode "abcd" := by simpa [files] using hin
    exact hbytes.2

theorem route_dir : Route.ofPath "x" = ⟨false, ["x"], false⟩ := by
  decide

theorem route_up : Route.ofPath "x/.." = ⟨false, ["x", ".."], false⟩ := by
  decide

theorem route_call : Route.ofPath "x/../y.txt" = ⟨false, ["x", "..", "y.txt"], false⟩ := by
  decide

theorem isName_x : IsName "x" := ⟨by decide, by decide, by decide⟩

theorem isName_y : IsName "y.txt" := ⟨by decide, by decide, by decide⟩

theorem reaches_of_route {t : FileTree} {path : String} {names : List String} {p : Place}
    (hpath : IsPath path) (hroute : Route.ofPath path = ⟨false, names, false⟩)
    (h : t.Leads home names p) : t.Reaches path p :=
  ⟨hpath, by rw [hroute]; exact h, by simp [hroute]⟩

theorem route_file : Route.ofPath "y.txt" = ⟨false, ["y.txt"], false⟩ := by
  decide

theorem isPath_up : IsPath "x/.." := ⟨by decide, by decide, by decide⟩

theorem isPath_call : IsPath "x/../y.txt" :=
  ⟨by decide, by decide, by decide⟩

/-- Before the directory is made, a path through it leads nowhere. -/
theorem resolve_files {path : String} {name : String} {rest : List String} (follow : Bool)
    (hpath : IsPath path) (hroute : Route.ofPath path = ⟨false, "x" :: name :: rest, false⟩) :
    files.resolve path follow = .error .missing := by
  have hhome : files.get? home = some .dir := by decide
  have hx : files.get? (home ++ ["x"]) = none := by decide
  have hsize : ¬ longestName < "x".utf8ByteSize := Nat.not_lt.2 isName_x.size
  have hwalk : files.walk follow maxLinks home ("x" :: name :: rest) = .error .missing := by
    rw [walk_cons plain_files, hhome]
    simp [Entry.isDir, hsize, hx]
  unfold resolve
  rw [if_neg (by simp [hpath.noNul]), if_neg (by simp [hpath.nonempty]),
    if_neg (Nat.not_lt.2 hpath.size), hroute]
  simp [hwalk]

theorem makeDir_up : files.makeDir "x/.." = .error .missing := by
  unfold FileTree.makeDir
  rw [resolve_files false isPath_up route_up]

theorem makeDir_dir : files.makeDir "x" = .ok made := by
  have hr : files.Reaches "x" (.free ["home", "x"]) :=
    reaches_of_route ⟨by decide, by decide, by decide⟩ route_dir
      (Leads.free (by decide) isName_x (by decide))
  unfold FileTree.makeDir
  rw [(resolve_eq_ok_iff plain_files _).2 hr]
  rfl

theorem reaches_up : made.Reaches "x/.." (.found home .dir) := by
  have hhome : made.get? home = some .dir := by decide
  have hx : made.get? (home ++ ["x"]) = some .dir := by decide
  exact reaches_of_route isPath_up route_up (.child hhome isName_x hx (.up hx (.arrived hhome)))

theorem makeParents_call :
    (makeParents "x/../y.txt").run start = (.ok (), { start with files := made }) := by
  have hparent : Path.parent? "x/../y.txt" = some "x/.." := by decide
  have hancestors : ancestors "x/.." = ["x", ""] := by decide
  have hexists : made.makeDir "x/.." = .error .exists := by
    unfold FileTree.makeDir
    rw [(resolve_eq_ok_iff plain_made _).2 reaches_up]
  have hdir : made.isDir "x/.." = true := by
    unfold FileTree.isDir
    rw [(stat_eq_ok_iff plain_made).2 ⟨_, reaches_up⟩]
  have hx : files.makeDirs "x" [""] = (made, .ok ()) := by
    unfold makeDirs
    rw [if_neg (by decide), makeDir_dir]
  have hall : files.makeAllDirs "x/.." = (made, .ok ()) := by
    unfold makeAllDirs
    rw [hancestors]
    unfold makeDirs
    rw [if_neg (by decide), makeDir_up]
    simp only [hx, hexists, hdir, if_true]
  unfold makeParents
  rw [hparent]
  dsimp only
  rw [run_changePartly]
  simp only [start, hall]

theorem reaches_call {t : FileTree} {bytes : Bytes} (hhome : t.get? home = some .dir)
    (hx : t.get? (home ++ ["x"]) = some .dir)
    (hy : t.get? (home ++ ["y.txt"]) = some (.file bytes)) :
    t.Reaches "x/../y.txt" (.found ["home", "y.txt"] (.file bytes)) :=
  reaches_of_route isPath_call route_call
    (.child hhome isName_x hx (.up hx (.child hhome isName_y hy (.arrived hy))))

theorem reaches_file {t : FileTree} {bytes : Bytes} (hhome : t.get? home = some .dir)
    (hy : t.get? (home ++ ["y.txt"]) = some (.file bytes)) :
    t.Reaches "y.txt" (.found ["home", "y.txt"] (.file bytes)) :=
  reaches_of_route ⟨by decide, by decide, by decide⟩ route_file
    (.child hhome isName_y hy (.arrived hy))

theorem size_call : files.size "x/../y.txt" = .error .missing := by
  unfold FileTree.size stat
  rw [resolve_files true isPath_call route_call]
  rfl

/-- The append succeeds, and tells of its own four bytes. -/
theorem run_call (hallows : s.allows "x/../y.txt" = true) (hmax : 4 ≤ s.maxFileSize) :
    call.run s start = (.ok (successWith [("path", .str "x/../y.txt"), ("bytes", .nat 4),
      ("size", .nat 4)]), { start with files := done }) := by
  have hkept : WriteMode.kept .append start.files "x/../y.txt" = 0 := by
    rw [WriteMode.kept, start, size_call]
    rfl
  have hbytes : "efgh".utf8ByteSize = 4 := by decide
  have hpath : admittedPath s call.args = .ok "x/../y.txt" :=
    admittedPath_eq_ok_iff.2 ⟨by decide, hallows⟩
  have hrun := writeFile_of_reaches (m := .append) (s := s) plain_made hpath rfl
    (by rw [hkept, hbytes]; omega) makeParents_call (.file (Utf8.encode "abcd"))
    (reaches_call (by decide) (by decide) (by decide)) (by rw [route_call])
  rw [hkept, hbytes] at hrun
  exact hrun

theorem written_call (hallows : s.allows "x/../y.txt" = true) (hmax : 4 ≤ s.maxFileSize) :
    call.written? s start = some ⟨.append, "x/../y.txt", "efgh", ["home", "y.txt"]⟩ := by
  have hpath : call.args.requireText 0 "path" = .ok "x/../y.txt" := by decide
  have hr : done.Reaches "x/../y.txt" (.found ["home", "y.txt"]
      (.file (Utf8.encode "abcd" ++ Utf8.encode "efgh"))) :=
    reaches_call (by decide) (by decide) (by decide)
  unfold written?
  rw [run_call hallows hmax, hpath]
  show (match done.resolve "x/../y.txt" true with
    | .ok (.found location _) => some (Written.mk .append "x/../y.txt" "efgh" location)
    | _ => none) = _
  rw [(resolve_eq_ok_iff plain_done _).2 hr]

end Detour

/-- Not every size that a write tells of is that of the file. -/
theorem not_every_size_counted : ¬ ∀ (s : Settings) (w : Surroundings) (c : FileCall) (x : Written)
    (v : Json) (bytes : Bytes), w.files.Plain → c.written? s w = some x →
    (c.run s w).1 = .ok v → (c.run s w).2.files.file? x.location = some bytes →
    v.field? "size" = some (.nat bytes.length) := by
  intro h
  have hrun := Detour.run_call (s := {}) (by decide) (by decide)
  have hsize := h {} Detour.start Detour.call _ _ (Utf8.encode "abcd" ++ Utf8.encode "efgh")
    Detour.plain_files (Detour.written_call (by decide) (by decide)) (by rw [hrun])
    (by rw [hrun]; decide)
  have hlength : (Utf8.encode "abcd" ++ Utf8.encode "efgh").length = 8 := by decide
  have htold : (successWith [("path", .str "x/../y.txt"), ("bytes", .nat 4),
      ("size", .nat 4)]).field? "size" = some (.nat 4) := rfl
  rw [hlength, htold] at hsize
  simp [Json.nat] at hsize

theorem faithful_store_detour : Detour.files.Plain ∧
    (FileCall.run {} { function := .readFile, args := [.str "y.txt"] }
      (after {} Detour.start [Detour.call])).1 = .ok (successWith [("path", .str "y.txt"),
        ("content", .str "abcdefgh"), ("size", .nat 8)]) := by
  refine ⟨Detour.plain_files, ?_⟩
  have hallows : Settings.allows {} "x/../y.txt" = true := by decide
  have hrun := Detour.run_call hallows (by decide)
  have hafter : after {} Detour.start [Detour.call] =
      { Detour.start with files := Detour.done } := by
    simp only [after, List.foldl, hrun]
  have hstory : story {} Detour.start [Detour.call] ["home", "y.txt"] =
      ⟨Utf8.encode "abcd", ["efgh"]⟩ := by
    have hold : Detour.start.files.file? ["home", "y.txt"] = some (Utf8.encode "abcd") := by
      decide
    simp [story, tellAll, tell, Detour.written_call hallows, hold, Story.add]
  have hr : Detour.done.Reaches "y.txt" (.found ["home", "y.txt"]
      (.file (Utf8.encode "abcd" ++ Utf8.encode "efgh"))) :=
    Detour.reaches_file (by decide) (by decide)
  obtain ⟨-, hread⟩ := (faithful_store {} Detour.start Detour.plain_files [Detour.call]).1
    ["home", "y.txt"] (Utf8.encode "abcd" ++ Utf8.encode "efgh") (by rw [hafter]; decide)
  obtain ⟨content, hread, -, hcontent⟩ := hread
    { function := .readFile, args := [.str "y.txt"] } "y.txt" rfl (by decide)
    (by decide) (by rw [hafter]; exact hr) (by decide) (by decide)
  rw [hread, hcontent "abcd" (by rw [hstory]), hstory]
  rfl

end FileCall

end ScriptSandbox
