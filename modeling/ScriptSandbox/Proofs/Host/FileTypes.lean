import ScriptSandbox.Proofs.Files.Descent
import ScriptSandbox.Proofs.Files.Names
import ScriptSandbox.Proofs.Host.FileStore

/-!
# The type policy

The type of every file that a call names is looked at before the file is made or changed, and before
it is deleted by its own path (`run_of_refused`, `delete_of_refused`). The deletion of a directory
with all below it looks at no type. It is the one way in which a file goes whose type is not admitted
(`file?_run`), and such a file never comes (`file?_after`).
-/

namespace ScriptSandbox

open FileTree FileAccess HostAction

namespace FileTree

variable {t t' : FileTree} {l k : Location} {e : Entry} {path : String}

/-- Something stands right below a directory with something below it. -/
theorem Plain.exists_child (ht : t.Plain) (hl : t.get? l = some e) (hp : k <+: l) (hne : l ≠ k) :
    ∃ name child, t.get? (k ++ [name]) = some child := by
  obtain ⟨names, rfl⟩ := hp
  cases names with
  | nil => simp at hne
  | cons name rest =>
    have hp : k ++ [name] <+: k ++ name :: rest := ⟨rest, by simp⟩
    rcases ht.eq_or_dir hl hp with heq | hdir
    · exact ⟨name, e, heq ▸ hl⟩
    · exact ⟨name, _, hdir⟩

/-- A directory that can be taken away on its own has no file below it. -/
theorem file?_removeDir (ht : t.Plain) (h : t.removeDir path = .ok t') (l : Location) :
    t'.file? l = t.file? l := by
  obtain ⟨k, hr, hempty, rfl⟩ : ∃ k, t.Reaches path (.found k .dir) ∧
      (t.children k).isEmpty = true ∧ t' = t.eraseAll k := by
    unfold removeDir at h
    split at h
    · simp at h
    · simp at h
    · rename_i k hfound
      split at h
      · simp at h
      · split at h
        · simp at h
        · rename_i hcan
          refine ⟨k, (resolve_eq_ok_iff ht _).1 hfound, ?_, (Except.ok.inj h).symm⟩
          simpa using (not_or.1 hcan).2
    · simp at h
  rcases (eraseAll_loses ht k).file? ht l with hsame | ⟨hgone, hplace⟩
  · exact hsame
  · have hdir : t.get? k = some .dir := hr.leads.get?_of_found
    have hp : k <+: l := by
      rcases hplace with rfl | ⟨-, hp⟩
      · exact List.prefix_refl _
      · exact hp
    rw [hgone]
    cases hl : t.file? l with
    | none => rfl
    | some bytes =>
      have hfile := file?_eq_some.1 hl
      have hne : l ≠ k := by
        rintro rfl
        simp [hdir] at hfile
      obtain ⟨name, child, hchild⟩ := ht.exists_child hfile hp hne
      have hmem := mem_children hchild
      rw [List.isEmpty_iff.1 hempty] at hmem
      simp at hmem

/-- Of a directory that is taken away with all below it no file is left, also where the directory
itself has to stay. -/
theorem file?_removeAll (ht : t.Plain) (hr : t.Reaches path (.found k .dir)) (hp : k <+: l) :
    (t.removeAll path).1.file? l = none := by
  have hgone : ∀ t' : FileTree, (∀ j e, t'.get? j = some e →
      (FileTree.mk (t.entries.filter fun e => e.1 = k ∨ !k.isPrefixOf e.1)).get? j = some e) →
      t'.file? l = none := by
    intro t' hsub
    cases hfile : t'.file? l with
    | none => rfl
    | some bytes =>
      have hl := hsub l _ (file?_eq_some.1 hfile)
      have hdir : t.get? k = some .dir := hr.leads.get?_of_found
      by_cases hnil : l = []
      · subst hnil
        simp at hl
      · rw [get?_filter (fun j => decide (j = k ∨ (!k.isPrefixOf j) = true)) hnil] at hl
        split at hl
        · rename_i hkept
          rcases of_decide_eq_true hkept with rfl | hkept
          · simp [hdir] at hl
          · exact absurd hp (not_isPrefixOf_eq_true.1 hkept)
        · simp at hl
  have hempty := emptied_loses ht k
  unfold removeAll
  rw [(resolve_eq_ok_iff ht _).2 hr]
  dsimp only
  split
  · rename_i t' h
    obtain ⟨_, _, -, hloses⟩ := removeDir_loses hempty.plain h
    exact hgone t' hloses.sub
  · exact hgone _ fun j e hj => hj

end FileTree

namespace FileCall

variable {s : Settings} {w : Surroundings} {c : FileCall} {l k : Location} {path : String}
variable {bytes : Bytes} {options : Option (List (String × Json))}

/-- The options ask to take away what is below, too. -/
def recursive (options : Option (List (String × Json))) : Bool :=
  ((options.getD []).lookup "recursive").bind Json.bool? |>.getD false

/-- The call takes away, with all below it, a directory that a location is in. -/
def Sweeps (w : Surroundings) (c : FileCall) (l : Location) : Prop :=
  c.function = .deleteFile ∧ ∃ path options k, c.args.requireText 0 "path" = .ok path ∧
    c.args.optionalObject 1 "options" = .ok options ∧ recursive options = true ∧
    w.files.Reaches path (.found k .dir) ∧ k <+: l

/-- One of the calls does. -/
def Swept (s : Settings) (l : Location) : Surroundings → List FileCall → Prop
  | _, [] => False
  | w, c :: calls => c.Sweeps w l ∨ Swept s l (c.run s w).2 calls

/-- What the path leads to decides how a deletion goes on. -/
theorem delete_of_reaches {e : Entry} (ht : w.files.Plain) (hf : c.function = .deleteFile)
    (hpath : c.args.requireText 0 "path" = .ok path)
    (hoptions : c.args.optionalObject 1 "options" = .ok options)
    (hr : w.files.Reaches path (.found k e)) :
    c.run s w = ((if e.isDir then
        if recursive options then HostAction.changePartly (·.removeAll path)
        else HostAction.change (·.removeDir path)
      else if !s.allows path then HostAction.fail (typeRefused path)
      else HostAction.change (·.removeFile path)) >>= fun _ =>
        pure (successWith [("path", .str path)]) : HostAction Json).run w := by
  obtain ⟨f, args, hf'⟩ := c
  obtain rfl : f = .deleteFile := hf
  change (deleteFile s args).run w = _
  unfold deleteFile
  rw [run_bind_ofExcept, hpath]
  dsimp only
  rw [run_bind_ofExcept, hoptions]
  dsimp only
  rw [run_bind_look, (stat_eq_ok_iff ht).2 ⟨k, hr⟩]
  dsimp only
  rw [← recursive]
  cases e.isDir <;> cases recursive options <;> cases s.allows path <;> rfl

/-! ## Refusals -/

/-- A write to a file whose type is not admitted is refused. -/
theorem run_of_refused {m : WriteMode} (hm : c.mode? = some m)
    (hpath : c.args.requireText 0 "path" = .ok path) (hallows : s.allows path = false) :
    c.run s w = (.error (.failure (typeRefused path)), w) := by
  rw [run_of_mode hm]
  refine writeFile_of_notAdmitted m ?_
  rw [admittedPath_eq, hpath]
  simp [hallows]

/-- So is the deletion of such a file by its path. -/
theorem delete_of_refused (ht : w.files.Plain) (hf : c.function = .deleteFile)
    (hpath : c.args.requireText 0 "path" = .ok path)
    (hoptions : c.args.optionalObject 1 "options" = .ok options)
    (hr : w.files.Reaches path (.found l (.file bytes))) (hallows : s.allows path = false) :
    c.run s w = (.error (.failure (typeRefused path)), w) := by
  rw [delete_of_reaches ht hf hpath hoptions hr, if_neg (by simp [Entry.isDir]),
    if_pos (by simp [hallows]), run_bind_fail]

/-! ## Deletions of directories -/

theorem delete_of_dir (ht : w.files.Plain) (hf : c.function = .deleteFile)
    (hpath : c.args.requireText 0 "path" = .ok path)
    (hoptions : c.args.optionalObject 1 "options" = .ok options)
    (hr : w.files.Reaches path (.found k .dir)) :
    c.run s w = ((if recursive options then HostAction.changePartly (·.removeAll path)
      else HostAction.change (·.removeDir path)) >>= fun _ =>
        pure (successWith [("path", .str path)]) : HostAction Json).run w := by
  rw [delete_of_reaches ht hf hpath hoptions hr, if_pos (by simp [Entry.isDir])]

/-- A directory that is to be deleted on its own takes no file with it. -/
theorem file?_of_not_recursive (ht : w.files.Plain) (hf : c.function = .deleteFile)
    (hpath : c.args.requireText 0 "path" = .ok path)
    (hoptions : c.args.optionalObject 1 "options" = .ok options)
    (hr : w.files.Reaches path (.found k .dir)) (hrec : recursive options = false) (l : Location) :
    (c.run s w).2.files.file? l = w.files.file? l := by
  rw [delete_of_dir ht hf hpath hoptions hr, hrec, run_bind]
  simp only [Bool.false_eq_true, if_false, run_change]
  cases hrun : w.files.removeDir path with
  | error e => rfl
  | ok t => exact file?_removeDir ht hrun l

theorem file?_of_sweeps (ht : w.files.Plain) (h : c.Sweeps w l) :
    (c.run s w).2.files.file? l = none := by
  obtain ⟨hf, path, options, k, hpath, hoptions, hrec, hr, hp⟩ := h
  have hgone := file?_removeAll ht hr hp
  rw [delete_of_dir ht hf hpath hoptions hr, hrec, run_bind]
  simp only [if_true, run_changePartly]
  rcases hrun : w.files.removeAll path with ⟨t, e | u⟩
  all_goals
    rw [hrun] at hgone
    exact hgone

/-! ## Runs -/

/-- A call leaves a file whose type is not admitted as it is, or sweeps it away. -/
theorem file?_run (ht : w.files.Plain) (hl : s.allows (pathOf l) = false) (hc : ¬ c.Sweeps w l) :
    (c.run s w).2.files.file? l = w.files.file? l := by
  by_contra hchanged
  rcases place_of_changed ht hchanged with ⟨x, hx, rfl⟩ | ⟨hf, hgone, path, k, e, hpath, hr, hplace⟩
  · cases step s ht c with
    | grown _ hidle | lost hidle => simp [hidle.written?] at hx
    | wrote h =>
      obtain rfl := Option.some.inj (h.written.symm.trans hx)
      have hallows := (admittedPath_eq_ok_iff.1 h.path).2
      rw [h.reaches.allows h.plain s, hl] at hallows
      simp at hallows
  · cases hoptions : c.args.optionalObject 1 "options" with
    | error f =>
      -- the options are read before anything is done
      refine hchanged ?_
      obtain ⟨f', args, hf'⟩ := c
      obtain rfl : f' = .deleteFile := hf
      change ((deleteFile s args).run w).2.files.file? l = _
      unfold deleteFile
      rw [run_bind_ofExcept, hpath]
      dsimp only
      rw [run_bind_ofExcept, hoptions]
    | ok options =>
      by_cases hdir : e = .dir
      · subst hdir
        have hp : k <+: l := by
          rcases hplace with rfl | ⟨-, hp⟩
          · exact List.prefix_refl _
          · exact hp
        cases hrec : recursive options with
        | false => exact hchanged (file?_of_not_recursive ht hf hpath hoptions hr hrec l)
        | true => exact hc ⟨hf, path, options, k, hpath, hoptions, hrec, hr, hp⟩
      · obtain rfl : l = k := hplace.resolve_right fun h => hdir h.1
        obtain ⟨bytes, rfl⟩ := (ht.kinds _ _ hr.leads.get?_of_found).resolve_left hdir
        have hallows : s.allows path = false := by rw [hr.allows ht s, hl]
        rw [delete_of_refused ht hf hpath hoptions hr hallows] at hchanged
        exact hchanged rfl

theorem file?_after (ht : w.files.Plain) (hl : s.allows (pathOf l) = false)
    (calls : List FileCall) :
    (¬ Swept s l w calls → (after s w calls).files.file? l = w.files.file? l) ∧
    (Swept s l w calls ∨ w.files.file? l = none → (after s w calls).files.file? l = none) := by
  induction calls generalizing w with
  | nil => exact ⟨fun _ => rfl, fun h => h.resolve_left id⟩
  | cons c calls ih =>
    obtain ⟨hkept, hgone⟩ := ih (plain_run ht c)
    refine ⟨fun h => ?_, fun h => hgone ?_⟩
    · obtain ⟨hc, hcalls⟩ := not_or.1 h
      exact (hkept hcalls).trans (file?_run ht hl hc)
    · by_cases hc : c.Sweeps w l
      · exact .inr (file?_of_sweeps ht hc)
      · rw [file?_run ht hl hc]
        exact h.imp_left fun hswept => hswept.resolve_left hc

/-- Of every sequence of calls on files, in every tree of directories and regular files, and of a
file whose type is not admitted:

* no path that leads to it is admitted;
* as long as no directory that it is in is deleted with all below it, there is the file that there
  was before, with the same content, or none as before;
* after such a deletion there is none, and none comes;
* a write to it is refused, and so is its deletion by a path that leads to it, and either leaves
  everything as it was. -/
theorem type_policy (s : Settings) (w : Surroundings) (hw : w.files.Plain) (calls : List FileCall)
    (l : Location) (hl : s.allows (pathOf l) = false) :
    let w' := after s w calls
    (∀ path bytes, w'.files.Reaches path (.found l (.file bytes)) → s.allows path = false) ∧
    (¬ Swept s l w calls → w'.files.file? l = w.files.file? l) ∧
    (Swept s l w calls → w'.files.file? l = none) ∧
    (∀ (c : FileCall) path bytes, c.args.requireText 0 "path" = .ok path →
      w'.files.Reaches path (.found l (.file bytes)) →
      (∃ m, c.mode? = some m) ∨
        (c.function = .deleteFile ∧ ∃ options, c.args.optionalObject 1 "options" = .ok options) →
      c.run s w' = (.error (.failure (typeRefused path)), w')) := by
  intro w'
  have ht : w'.files.Plain := plain_after hw calls
  have hpaths : ∀ path bytes, w'.files.Reaches path (.found l (.file bytes)) →
      s.allows path = false := fun path bytes hr => (hr.allows ht s).trans hl
  obtain ⟨hkept, hgone⟩ := file?_after hw hl calls
  refine ⟨hpaths, hkept, fun h => hgone (.inl h), fun c path bytes hpath hr hcall => ?_⟩
  rcases hcall with ⟨m, hm⟩ | ⟨hf, options, hoptions⟩
  · exact run_of_refused hm hpath (hpaths path bytes hr)
  · exact delete_of_refused ht hf hpath hoptions hr (hpaths path bytes hr)

/-! ## A directory that is swept -/

namespace Sweep

/-- A directory with a program in it. -/
def files : FileTree :=
  ⟨[(home, .dir), (["home", "d"], .dir), (["home", "d", "a.exe"], .file (Utf8.encode "abcd"))]⟩

def start : Surroundings := { files }

/-- Texts alone are admitted. -/
def texts : Settings := { fileTypes := ["txt"] }

/-- The directory is deleted with all below it. -/
def call : FileCall :=
  { function := .deleteFile, args := [.str "d", .obj [("recursive", .bool true)]] }

theorem plain_files : files.Plain := plain_of_entries (by decide)

theorem isName_dir : IsName "d" := ⟨by decide, by decide, by decide⟩

theorem sweeps_call : call.Sweeps start ["home", "d", "a.exe"] := by
  have hhome : files.get? home = some .dir := by decide
  have hd : files.get? (home ++ ["d"]) = some .dir := by decide
  have hroute : Route.ofPath "d" = ⟨false, ["d"], false⟩ := by decide
  have hr : files.Reaches "d" (.found ["home", "d"] .dir) :=
    Detour.reaches_of_route ⟨by decide, by decide, by decide⟩ hroute
      (.child hhome isName_dir hd (.arrived hd))
  exact ⟨rfl, "d", some [("recursive", .bool true)], ["home", "d"], by decide, rfl, rfl, hr,
    ["a.exe"], rfl⟩

end Sweep

/-- Not every file whose type is not admitted stays. -/
theorem not_every_refused_type_stays : ¬ ∀ (s : Settings) (w : Surroundings) (c : FileCall)
    (l : Location), w.files.Plain → s.allows (pathOf l) = false →
    (c.run s w).2.files.file? l = w.files.file? l := by
  intro h
  have hsame := h Sweep.texts Sweep.start Sweep.call ["home", "d", "a.exe"] Sweep.plain_files
    (by decide)
  rw [file?_of_sweeps Sweep.plain_files Sweep.sweeps_call] at hsame
  exact absurd hsame (by decide)

/-- A program by its own path is refused, and stays. -/
theorem type_policy_program : Sweep.files.Plain ∧
    Sweep.texts.allows (pathOf ["home", "d", "a.exe"]) = false ∧
    (after Sweep.texts Sweep.start [{ function := .deleteFile, args := [.str "d/a.exe"] },
      { function := .writeFile, args := [.str "d/a.exe", .str ""] }]).files.file?
        ["home", "d", "a.exe"] = some (Utf8.encode "abcd") := by
  have hallows : Sweep.texts.allows (pathOf ["home", "d", "a.exe"]) = false := by decide
  obtain ⟨-, hkept, -⟩ := type_policy Sweep.texts Sweep.start Sweep.plain_files
    [{ function := .deleteFile, args := [.str "d/a.exe"] },
      { function := .writeFile, args := [.str "d/a.exe", .str ""] }]
    ["home", "d", "a.exe"] hallows
  refine ⟨Sweep.plain_files, hallows, (hkept ?_).trans (by decide)⟩
  rintro (⟨-, path, options, k, -, hoptions, hrec, -⟩ | ⟨hf, -⟩ | h)
  · obtain rfl : options = none := by
      have hnone : Arguments.optionalObject [.str "d/a.exe"] 1 "options" = .ok none := rfl
      exact (Except.ok.inj (hnone.symm.trans hoptions)).symm
    simp [recursive] at hrec
  · cases hf
  · exact h

end FileCall

end ScriptSandbox
