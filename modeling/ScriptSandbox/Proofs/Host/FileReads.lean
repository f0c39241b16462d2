import ScriptSandbox.Host.Call
import ScriptSandbox.Proofs.Files.Wiped
import ScriptSandbox.Proofs.Host.FileStore

/-!
# The read policy

Four functions look into one file, and all of them ask something of its path before (`run_gated`).
What they answer when this is refused comes from the settings, the arguments and the size of the file
alone (`Gate.refusal?`), so it is the same whatever the file holds. Three ask for an admitted type
and an admitted size. The fourth, for images, asks for an admitted size only.
-/

namespace ScriptSandbox

open FileTree FileAccess HostAction

theorem FileTree.length_le_size {t : FileTree} {path : String} {n : Nat} {bytes : Bytes}
    (hread : t.read path = .ok bytes) (hsize : t.size path = .ok n) : bytes.length ≤ n := by
  unfold FileTree.read at hread
  unfold FileTree.size at hsize
  cases hstat : t.stat path with
  | error e => simp [hstat] at hread
  | ok e =>
    rw [hstat] at hread hsize
    obtain rfl := Except.ok.inj hsize
    cases e with
    | file content =>
      obtain rfl := Except.ok.inj hread
      exact Nat.le_refl _
    | dir => simp at hread
    | link | sink =>
      obtain rfl := Except.ok.inj hread
      exact Nat.zero_le _

/-- What is asked of a path before a file is looked into. -/
structure Gate where
  limit : Nat
  admits : String → Bool
  tooLarge : String → Nat → Failure

namespace Gate

variable {g : Gate} {s : Settings} {args : Arguments} {w : Surroundings} {f : HostFunction}
variable {e : HostError} {k : String → Nat → Bytes → HostAction Json}

/-- An admitted type and an admitted size. -/
def ofTypes (code : Code) (s : Settings) : Gate where
  limit := s.maxFileSize
  admits := s.allows
  tooLarge := fun path n => FileAccess.tooLarge code path n s.maxFileSize

/-- An admitted size, whatever the type. -/
def ofImages (s : Settings) : Gate where
  limit := s.maxFileSize
  admits := fun _ => true
  tooLarge := fun path _ =>
    let limit := s.maxFileSize
    Documents.imageFailure s!"{path} is over the {limit} byte limit"

/-- What the functions that look into one file ask. -/
def ofFunction (s : Settings) : HostFunction → Option Gate
  | .readFile => some (ofTypes .filesystem s)
  | .extractText | .readJson => some (ofTypes .document s)
  | .imageInfo => some (ofImages s)
  | _ => none

/-- What is answered without a look into the file, if it must not be looked into. -/
def refusal? (g : Gate) (args : Arguments) (sizes : String → Except FileError Nat) :
    Option HostError :=
  match args.requireText 0 "path" with
  | .error f => some (.failure f)
  | .ok path =>
    if g.admits path then
      match sizes path with
      | .error e => some (.io e.toIo)
      | .ok n => if g.limit < n then some (.failure (g.tooLarge path n)) else none
    else some (.failure (typeRefused path))

/-- An action that looks into a file when this is admitted. -/
def gated (g : Gate) (args : Arguments) (k : String → Nat → Bytes → HostAction Json) :
    HostAction Json := do
  let path ← HostAction.ofExcept (args.requireText 0 "path")
  if g.admits path then
    let n ← HostAction.look (·.size path)
    if g.limit < n then HostAction.fail (g.tooLarge path n)
    else
      let bytes ← HostAction.look (·.read path)
      k path n bytes
  else HostAction.fail (typeRefused path)

theorem run_gated (g : Gate) (args : Arguments) (k : String → Nat → Bytes → HostAction Json)
    (w : Surroundings) : (gated g args k).run w =
      match g.refusal? args w.files.size with
      | some e => (.error e, w)
      | none => (do
          let path ← HostAction.ofExcept (args.requireText 0 "path")
          let n ← HostAction.look (·.size path)
          let bytes ← HostAction.look (·.read path)
          k path n bytes : HostAction Json).run w := by
  unfold gated refusal?
  rw [run_bind_ofExcept, run_bind_ofExcept]
  cases args.requireText 0 "path" with
  | error f => rfl
  | ok path =>
    dsimp only
    split
    · rw [run_bind_look, run_bind_look]
      cases w.files.size path with
      | error e => rfl
      | ok n =>
        dsimp only
        split <;> rfl
    · rfl

theorem admitted_of_gated {v : Json} (h : ((gated g args k).run w).1 = .ok v) :
    g.refusal? args w.files.size = none ∧ ∃ path n bytes, args.requireText 0 "path" = .ok path ∧
      g.admits path = true ∧ w.files.size path = .ok n ∧ n ≤ g.limit ∧
      w.files.read path = .ok bytes ∧ bytes.length ≤ n := by
  rw [run_gated] at h
  cases hrefusal : g.refusal? args w.files.size with
  | some e =>
    rw [hrefusal] at h
    cases h
  | none =>
    rw [hrefusal] at h
    refine ⟨rfl, ?_⟩
    unfold refusal? at hrefusal
    dsimp only at h
    rw [run_bind_ofExcept] at h
    cases hpath : args.requireText 0 "path" with
    | error f => simp [hpath] at hrefusal
    | ok path =>
      rw [hpath] at h hrefusal
      dsimp only at h hrefusal
      split at hrefusal
      · rename_i hadmits
        rw [run_bind_look] at h
        cases hsize : w.files.size path with
        | error e => simp [hsize] at hrefusal
        | ok n =>
          rw [hsize] at h hrefusal
          dsimp only at h hrefusal
          rw [run_bind_look] at h
          cases hread : w.files.read path with
          | error e =>
            rw [hread] at h
            cases h
          | ok bytes =>
            refine ⟨path, n, bytes, rfl, hadmits, hsize, ?_, hread, length_le_size hread hsize⟩
            by_contra hlarge
            rw [if_pos (Nat.not_le.1 hlarge)] at hrefusal
            cases hrefusal
      · cases hrefusal

/-! ## The functions -/

theorem run_bind_sizeWithin {α : Type} (code : Code) (s : Settings) (path : String)
    (f : Nat → HostAction α) (w : Surroundings) : (sizeWithin code s path >>= f).run w =
      match w.files.size path with
      | .ok n =>
        if s.maxFileSize < n then
          (.error (.failure (FileAccess.tooLarge code path n s.maxFileSize)), w)
        else (f n).run w
      | .error e => (.error (.io e.toIo), w) := by
  rw [run_bind]
  unfold sizeWithin
  rw [run_bind_look]
  cases w.files.size path with
  | error e => rfl
  | ok n =>
    dsimp only
    by_cases hn : s.maxFileSize < n
    · rw [if_pos hn, if_pos hn, run_bind_fail]
    · rw [if_neg hn, if_neg hn]
      rfl

/-- A reader that asks for type and size. -/
theorem gated_of_run {x : HostAction Json} (code : Code)
    (hnoPath : ∀ f, args.requireText 0 "path" = .error f → x.run w = (.error (.failure f), w))
    (hrefused : ∀ path, args.requireText 0 "path" = .ok path → s.allows path = false →
      x.run w = (.error (.failure (typeRefused path)), w))
    (hrest : ∀ path, args.requireText 0 "path" = .ok path → s.allows path = true →
      x.run w = (sizeWithin code s path >>= fun n => HostAction.look (·.read path) >>=
        fun bytes => k path n bytes : HostAction Json).run w) :
    x.run w = (gated (ofTypes code s) args k).run w := by
  unfold gated
  rw [run_bind_ofExcept]
  cases hpath : args.requireText 0 "path" with
  | error f => exact hnoPath f hpath
  | ok path =>
    dsimp only
    by_cases hallows : (ofTypes code s).admits path = true
    · rw [if_pos hallows, hrest path hpath hallows, run_bind_sizeWithin, run_bind_look]
      cases w.files.size path with
      | error e => rfl
      | ok n =>
        dsimp only
        by_cases hn : s.maxFileSize < n
        · have hlimit : (ofTypes code s).limit < n := hn
          rw [if_pos hn, if_pos hlimit]
          rfl
        · have hlimit : ¬ (ofTypes code s).limit < n := hn
          rw [if_neg hn, if_neg hlimit]
    · rw [if_neg hallows]
      exact hrefused path hpath (by simpa [ofTypes] using hallows)

theorem run_readFile (s : Settings) (args : Arguments) (w : Surroundings) :
    (readFile s args).run w =
      (gated (ofTypes .filesystem s) args fun path n bytes => do
          let encoding ← HostAction.ofExcept (Encoding.ofName ((args.optionalText 1).getD "utf8"))
          return successWith [("path", .str path), ("content", .str (encoding.decode bytes)),
            ("size", .nat n)]).run w := by
  refine gated_of_run .filesystem (fun f h => ?_) (fun path h hallows => ?_)
    fun path h hallows => ?_
  · unfold readFile
    rw [run_bind_ofExcept, admittedPath_eq, h]
  · unfold readFile
    rw [run_bind_ofExcept, admittedPath_eq, h]
    simp [hallows]
  · unfold readFile
    rw [run_bind_ofExcept, admittedPath_eq_ok_iff.2 ⟨h, hallows⟩]

/-- Documents are read through one function. -/
theorem run_document (s : Settings) (args : Arguments) (w : Surroundings)
    (k : String → Bytes → HostAction Json) :
    (HostAction.ofExcept (args.requireText 0 "path") >>= fun path =>
        Documents.readAdmitted s path >>= fun bytes => k path bytes : HostAction Json).run w =
      (gated (ofTypes .document s) args fun path _ bytes => k path bytes).run w := by
  refine gated_of_run .document (fun f h => ?_) (fun path h hallows => ?_)
    fun path h hallows => ?_
  · rw [run_bind_ofExcept, h]
  · rw [run_bind_ofExcept, h]
    dsimp only
    exact run_bind_of_error (readAdmitted_of_not_allows hallows)
  · rw [run_bind_ofExcept, h]
    dsimp only
    unfold Documents.readAdmitted
    rw [if_neg (by simp [hallows]), bind_assoc]

/-- Images are looked into whatever their type. -/
theorem run_imageInfo (s : Settings) (args : Arguments) :
    ∃ k, ∀ w, (Documents.imageInfo s args).run w =
      (gated (ofImages s) args k).run w := by
  apply Exists.intro
  intro w
  unfold Documents.imageInfo gated
  rw [run_bind_ofExcept, run_bind_ofExcept]
  cases args.requireText 0 "path" with
  | error f => rfl
  | ok path =>
    have hadmits : (ofImages s).admits path = true := rfl
    dsimp only
    rw [if_pos hadmits, run_bind_look, run_bind_look]
    cases w.files.size path with
    | error e => rfl
    | ok n =>
      dsimp only
      by_cases hn : s.maxFileSize < n
      · have hlimit : (ofImages s).limit < n := hn
        rw [if_pos hn, if_pos hlimit, run_bind_fail]
        rfl
      · have hlimit : ¬ (ofImages s).limit < n := hn
        rw [if_neg hn, if_neg hlimit]

/-- Each of the functions does first what its gate asks. -/
theorem action_gated (hg : ofFunction s f = some g) (args : Arguments) :
    ∃ k, ∀ w, (f.action s args).run w = (gated g args k).run w := by
  cases f
  case readFile =>
    obtain rfl := Option.some.inj hg
    exact ⟨_, run_readFile s args⟩
  case extractText =>
    obtain rfl := Option.some.inj hg
    exact ⟨_, fun w => run_document s args w _⟩
  case readJson =>
    obtain rfl := Option.some.inj hg
    exact ⟨_, fun w => run_document s args w _⟩
  case imageInfo =>
    obtain rfl := Option.some.inj hg
    exact run_imageInfo s args
  all_goals cases hg

theorem limit_of_function (hg : ofFunction s f = some g) : g.limit = s.maxFileSize := by
  cases f
  case readFile | extractText | readJson | imageInfo =>
    obtain rfl := Option.some.inj hg
    rfl
  all_goals cases hg

/-- Of every function that looks into one file, whatever its settings and arguments and in every
tree:

* when it must not look into the file, it fails, and the answer is the same in every tree that
  differs only in the bytes that files hold;
* when it succeeds, the path is admitted, and what it leads to is within the limit;
* the paths admitted are those of admitted types, except that those of images may have any type. -/
theorem read_policy (s : Settings) (args : Arguments) (w : Surroundings) (f : HostFunction)
    (g : Gate) (hg : ofFunction s f = some g) :
    (∀ e, g.refusal? args w.files.size = some e →
      ∀ w', w'.files.wiped = w.files.wiped → (f.action s args).run w' = (.error e, w')) ∧
    (∀ v, ((f.action s args).run w).1 = .ok v → g.refusal? args w.files.size = none ∧
      ∃ path n bytes, args.requireText 0 "path" = .ok path ∧ g.admits path = true ∧
        w.files.size path = .ok n ∧ n ≤ s.maxFileSize ∧ w.files.read path = .ok bytes ∧
        bytes.length ≤ n) ∧
    (f ≠ .imageInfo → g.admits = s.allows) := by
  obtain ⟨k, hrun⟩ := action_gated hg args
  have hsizes : ∀ w' : Surroundings, w'.files.wiped = w.files.wiped →
      w'.files.size = w.files.size := by
    intro w' h
    funext path
    rw [← size_wiped, h, size_wiped]
  refine ⟨fun e he w' hw' => ?_, fun v hv => ?_, fun hf => ?_⟩
  · rw [hrun, run_gated, hsizes w' hw', he]
  · rw [hrun] at hv
    rw [← limit_of_function hg]
    exact admitted_of_gated hv
  · cases f
    case imageInfo => exact absurd rfl hf
    case readFile | extractText | readJson =>
      obtain rfl := Option.some.inj hg
      rfl
    all_goals cases hg

/-! ## A picture -/

namespace Picture

/-- The header of an image, two pixels wide and three high. -/
def bytes : Bytes :=
  [0x89, 0x50, 0x4e, 0x47, 0x0d, 0x0a, 0x1a, 0x0a, 0, 0, 0, 13, 0x49, 0x48, 0x44, 0x52,
    0, 0, 0, 2, 0, 0, 0, 3]

def files : FileTree := ⟨[(home, .dir), (["home", "p.png"], .file bytes)]⟩

def start : Surroundings := { files }

/-- Texts alone are admitted. -/
def texts : Settings := { fileTypes := ["txt"] }

theorem plain_files : files.Plain := plain_of_entries (by decide)

theorem reaches_file : files.Reaches "p.png" (.found ["home", "p.png"] (.file bytes)) := by
  have hhome : files.get? home = some .dir := by decide
  have hp : files.get? (home ++ ["p.png"]) = some (.file bytes) := by decide
  have hroute : Route.ofPath "p.png" = ⟨false, ["p.png"], false⟩ := by decide
  exact FileCall.Detour.reaches_of_route ⟨by decide, by decide, by decide⟩ hroute
    (.child hhome ⟨by decide, by decide, by decide⟩ hp (.arrived hp))

theorem imageInfo_ok : ((HostFunction.imageInfo.action texts [.str "p.png"]).run start).1 =
    .ok (successWith [("path", .str "p.png"), ("format", .str "png"), ("mime", .str "image/png"),
      ("width", .nat 2), ("height", .nat 3), ("size", .nat 24)]) := by
  have hkind : (Documents.kindOf bytes).extension = "png" := by decide
  have hmime : (Documents.kindOf bytes).mime = "image/png" := by decide
  have hfound : ImageSize.ofFormat "png" bytes = some ⟨2, 3⟩ := by decide
  have hpath : Arguments.requireText [.str "p.png"] 0 "path" = .ok "p.png" := by decide
  change ((Documents.imageInfo texts [.str "p.png"]).run start).1 = _
  unfold Documents.imageInfo
  rw [run_bind_ofExcept, hpath]
  dsimp only
  rw [run_bind_look, show start.files = files from rfl, size_of_reaches plain_files reaches_file]
  dsimp only
  rw [if_neg (by decide), run_bind_look, show start.files = files from rfl,
    (read_eq_ok_iff plain_files).2 ⟨_, reaches_file⟩]
  simp only [hkind, hmime, hfound]
  rfl

end Picture

/-- Not everything that is looked into has an admitted type. -/
theorem not_every_type_asked : ¬ ∀ (s : Settings) (args : Arguments) (w : Surroundings) (v : Json)
    (path : String), ((HostFunction.imageInfo.action s args).run w).1 = .ok v →
    args.requireText 0 "path" = .ok path → s.allows path = true := by
  intro h
  have hallows := h Picture.texts [.str "p.png"] Picture.start _ "p.png" Picture.imageInfo_ok
    (by decide)
  exact absurd hallows (by decide)

/-- A picture is not read as a file where texts alone are admitted, whatever is in it. -/
theorem read_policy_picture :
    ofFunction Picture.texts .readFile = some (ofTypes .filesystem Picture.texts) ∧
    ∀ w' : Surroundings, w'.files.wiped = Picture.files.wiped →
      (HostFunction.readFile.action Picture.texts [.str "p.png"]).run w' =
        (.error (.failure (typeRefused "p.png")), w') := by
  obtain ⟨hrefused, -⟩ := read_policy Picture.texts [.str "p.png"] Picture.start .readFile
    (ofTypes .filesystem Picture.texts) rfl
  refine ⟨rfl, hrefused _ ?_⟩
  have hpath : Arguments.requireText [.str "p.png"] 0 "path" = .ok "p.png" := by decide
  have hadmits : (ofTypes .filesystem Picture.texts).admits "p.png" = false := by decide
  unfold refusal?
  rw [hpath]
  simp [hadmits]

end Gate

end ScriptSandbox
