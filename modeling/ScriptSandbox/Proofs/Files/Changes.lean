import ScriptSandbox.Proofs.Files.Walks

/-!
# Changes of the file tree

What changes leave of the files that were there. Making directories takes nothing away and makes no
file (`Grows`), a write sets one file (`change_eq_ok`), and what is taken away lies at or below one
location (`Loses`). All of them keep the tree plain.
-/

namespace ScriptSandbox.FileTree

variable {t t' t'' : FileTree} {l k : Location} {e : Entry} {p q : Place} {path : String}
variable {content : Bytes}

/-- The content of the file at a location. -/
def file? (t : FileTree) (l : Location) : Option Bytes :=
  match t.get? l with
  | some (.file content) => some content
  | _ => none

@[simp] theorem file?_eq_some : t.file? l = some content ↔ t.get? l = some (.file content) := by
  unfold file?
  split
  · rename_i h
    simp [h]
  · rename_i h
    simpa using h content

theorem file?_congr (h : t'.get? l = t.get? l) : t'.file? l = t.file? l := by
  rw [file?, h, file?]

/-! ## Looking -/

theorem Reaches.unique (ht : t.Plain) (hp : t.Reaches path p) (hq : t.Reaches path q) : p = q :=
  Except.ok.inj (((resolve_eq_ok_iff ht true).2 hp).symm.trans ((resolve_eq_ok_iff ht true).2 hq))

theorem stat_eq_ok_iff (ht : t.Plain) : t.stat path = .ok e ↔ ∃ l, t.Reaches path (.found l e) := by
  simp only [← resolve_eq_ok_iff ht true]
  unfold stat
  cases t.resolve path true with
  | error => simp
  | ok p => cases p <;> simp

theorem size_of_reaches (ht : t.Plain) (h : t.Reaches path (.found l e)) :
    t.size path = .ok e.size := by
  rw [size, (stat_eq_ok_iff ht).2 ⟨l, h⟩]
  rfl

theorem reaches_of_size (ht : t.Plain) {n : Nat} (h : t.size path = .ok n) :
    ∃ l e, t.Reaches path (.found l e) ∧ n = e.size := by
  unfold size at h
  cases hs : t.stat path with
  | error e =>
    rw [hs] at h
    cases h
  | ok e =>
    obtain ⟨l, hl⟩ := (stat_eq_ok_iff ht).1 hs
    rw [hs] at h
    exact ⟨l, e, hl, (Except.ok.inj h).symm⟩

theorem read_eq_ok_iff (ht : t.Plain) :
    t.read path = .ok content ↔ ∃ l, t.Reaches path (.found l (.file content)) := by
  rw [← stat_eq_ok_iff ht]
  unfold read
  cases hs : t.stat path with
  | error e => simp
  | ok e =>
    obtain ⟨l, hl⟩ := (stat_eq_ok_iff ht).1 hs
    rcases ht.kinds _ _ hl.leads.get?_of_found with rfl | ⟨old, rfl⟩ <;> simp

/-! ## Growing -/

/-- There is all that there was, and besides it only directories to which some paths lead. -/
structure Grows (paths : List String) (t t' : FileTree) : Prop where
  keeps : ∀ l e, t.get? l = some e → t'.get? l = some e
  adds : ∀ l e, t.get? l = none → t'.get? l = some e →
    e = .dir ∧ ∃ path ∈ paths, t'.Reaches path (.found l .dir)
  plain : t'.Plain

theorem Reaches.mono (hsub : ∀ l e, t.get? l = some e → t'.get? l = some e)
    (h : t.Reaches path (.found l e)) : t'.Reaches path (.found l e) :=
  ⟨h.isPath, h.leads.mono hsub, h.slash⟩

/-- A walk that never goes up and ends at an entry that was there before has led there before. -/
theorem Reaches.earlier (ht : t.Plain) (hsub : ∀ l e, t.get? l = some e → t'.get? l = some e)
    (h : t'.Reaches path (.found l e)) (hl : t.get? l = some e)
    (hup : ".." ∉ (Route.ofPath path).names) : t.Reaches path (.found l e) :=
  ⟨h.isPath, h.leads.earlier ht hsub hl hup, h.slash⟩

namespace Grows

variable {paths more : List String}

theorem refl (paths : List String) (ht : t.Plain) : Grows paths t t where
  keeps _ _ h := h
  adds l e h h' := by simp [h] at h'
  plain := ht

theorem trans (h : Grows paths t t') (h' : Grows paths t' t'') : Grows paths t t'' where
  keeps l e hl := h'.keeps l e (h.keeps l e hl)
  adds l e hl hl'' := by
    cases hl' : t'.get? l with
    | none => exact h'.adds l e hl' hl''
    | some e' =>
      obtain rfl : e' = e := Option.some.inj ((h'.keeps l e' hl').symm.trans hl'')
      obtain ⟨rfl, path, hpath, hr⟩ := h.adds l e' hl hl'
      exact ⟨rfl, path, hpath, hr.mono h'.keeps⟩
  plain := h'.plain

theorem weaken (h : Grows paths t t') (hsub : paths ⊆ more) : Grows more t t' where
  keeps := h.keeps
  adds l e hl hl' := by
    obtain ⟨rfl, path, hpath, hr⟩ := h.adds l e hl hl'
    exact ⟨rfl, path, hsub hpath, hr⟩
  plain := h.plain

theorem file? (h : Grows paths t t') (l : Location) : t'.file? l = t.file? l := by
  cases hl : t.get? l with
  | some e => exact file?_congr ((h.keeps l e hl).trans hl.symm)
  | none =>
    cases hl' : t'.get? l with
    | none => exact file?_congr (hl'.trans hl.symm)
    | some e =>
      obtain ⟨rfl, -⟩ := h.adds l e hl hl'
      simp [FileTree.file?, hl, hl']

end Grows

theorem Plain.set (ht : t.Plain) (hl : l ≠ []) (hparent : t.get? l.dropLast = some .dir)
    (hold : t.get? l ≠ some .dir) (he : e = .dir ∨ ∃ content, e = .file content) :
    (t.set l e).Plain where
  kinds k old h := by
    rw [get?_set hl] at h
    split at h
    · obtain rfl := Option.some.inj h
      exact he
    · exact ht.kinds k old h
  rooted := Rooted.set ht.rooted hl hparent hold

theorem makeDir_grows (ht : t.Plain) (h : t.makeDir path = .ok t') : Grows [path] t t' := by
  unfold makeDir at h
  split at h
  · simp at h
  · simp at h
  · rename_i l hfree
    obtain rfl := Except.ok.inj h
    have hr := (resolve_eq_ok_iff ht _).1 hfree
    obtain ⟨hl, hparent, hnone⟩ := hr.leads.get?_of_free
    refine ⟨fun k e hk => ?_, fun k e hk hk' => ?_, ?_⟩
    · rw [get?_set hl, if_neg, hk]
      rintro rfl
      simp [hnone] at hk
    · rw [get?_set hl] at hk'
      split at hk'
      · rename_i hkl
        subst hkl
        refine ⟨(Option.some.inj hk').symm, path, by simp, hr.isPath, hr.leads.of_set .free, ?_⟩
        rintro - l' e' hp
        obtain ⟨-, rfl⟩ := Place.found.inj hp
        rfl
      · simp [hk] at hk'
    · exact ht.set hl hparent (by simp [hnone]) (.inl rfl)

/-- Directories are made from the outermost on, and those made stay. -/
theorem makeDirs_grows (ht : t.Plain) (path : String) (parents : List String) :
    Grows (path :: parents) t (t.makeDirs path parents).1 := by
  have hone : ∀ {t t' : FileTree} {path : String} {parents : List String}, t.Plain →
      t.makeDir path = .ok t' → Grows (path :: parents) t t' :=
    fun ht h => (makeDir_grows ht h).weaken (by simp)
  induction parents generalizing path t with
  | nil =>
    unfold makeDirs
    split
    · exact .refl _ ht
    · split
      · rename_i t' h
        exact hone ht h
      · exact .refl _ ht
      · exact .refl _ ht
  | cons parent more ih =>
    unfold makeDirs
    split
    · exact .refl _ ht
    · split
      · rename_i t' h
        exact hone ht h
      · have hparent : Grows (path :: parent :: more) t (t.makeDirs parent more).1 :=
          (ih ht parent).weaken (List.subset_cons_self ..)
        dsimp only
        split
        · rename_i t' e h
          rwa [h] at hparent
        · rename_i t' h
          rw [h] at hparent
          split
          · rename_i t'' h'
            exact hparent.trans (hone hparent.plain h')
          · exact hparent
      · exact .refl _ ht

theorem makeAllDirs_grows (ht : t.Plain) (path : String) :
    Grows (path :: ancestors path) t (t.makeAllDirs path).1 :=
  makeDirs_grows ht path _

/-! ## Writing -/

theorem file?_set (hl : l ≠ []) (k : Location) :
    (t.set l (.file content)).file? k = if k = l then some content else t.file? k := by
  by_cases hk : k = l
  · subst hk
    simp [get?_set_self hl]
  · rw [if_neg hk]
    exact file?_congr ((get?_set hl k).trans (if_neg hk))

theorem TakesFile.file? {old : Bytes} {names : List String} (hp : TakesFile k p old)
    (h : t.Leads l names p) : (t.file? k).getD [] = old := by
  cases hp with
  | file => simp [file?_eq_some.2 h.get?_of_found]
  | free => simp [FileTree.file?, h.get?_of_free.2.2]

theorem TakesFile.plain {old : Bytes} {names : List String} (ht : t.Plain) (hp : TakesFile k p old)
    (h : t.Leads l names p) (content : Bytes) : (t.set k (.file content)).Plain := by
  refine ht.set (hp.ne_nil h) ?_ (hp.get? h) (.inr ⟨content, rfl⟩)
  cases hp with
  | file => exact ht.rooted _ _ h.get?_of_found
  | free => exact h.get?_of_free.2.1

/-- A write sets the file at the place that the path leads to, and the path leads to it then. -/
theorem change_eq_ok (ht : t.Plain) {f : Bytes → Bytes} (h : t.change path f = .ok t') :
    ∃ l p old, TakesFile l p old ∧ t.Reaches path p ∧ t' = t.set l (.file (f old)) ∧
      t'.Reaches path (.found l (.file (f old))) := by
  have key : ∀ {l p old}, TakesFile l p old → t.Reaches path p →
      (Route.ofPath path).directory = false →
      (t.set l (.file (f old))).Reaches path (.found l (.file (f old))) :=
    fun hp hr hd => ⟨hr.isPath, hr.leads.of_set hp, by simp [hd]⟩
  unfold change at h
  split at h
  · simp at h
  · rename_i l old hfound
    obtain rfl := Except.ok.inj h
    have hr := (resolve_eq_ok_iff ht _).1 hfound
    refine ⟨l, _, old, .file old, hr, rfl, key (.file old) hr ?_⟩
    cases hd : (Route.ofPath path).directory with
    | false => rfl
    | true => exact absurd (hr.slash hd _ _ rfl) (by simp [Entry.isDir])
  · simp at h
  · rename_i l e hdir hfile hfound
    rcases ht.kinds _ _ ((resolve_eq_ok_iff ht _).1 hfound).leads.get?_of_found with rfl | ⟨c, rfl⟩
    · exact absurd rfl hfile
    · exact absurd rfl (hdir c)
  · rename_i l hfree
    split at h
    · simp at h
    · rename_i hd
      obtain rfl := Except.ok.inj h
      have hr := (resolve_eq_ok_iff ht _).1 hfree
      exact ⟨l, _, [], .free, hr, rfl, key .free hr (by simpa using hd)⟩

theorem change_of_reaches (ht : t.Plain) {f : Bytes → Bytes} {old : Bytes} (hp : TakesFile l p old)
    (hr : t.Reaches path p) (hd : (Route.ofPath path).directory = false) :
    t.change path f = .ok (t.set l (.file (f old))) := by
  unfold change
  rw [(resolve_eq_ok_iff ht _).2 hr]
  cases hp with
  | file => rfl
  | free => simp [hd]

/-! ## Taking away -/

/-- What has gone was at a location or below it. -/
structure Loses (l : Location) (t t' : FileTree) : Prop where
  sub : ∀ k e, t'.get? k = some e → t.get? k = some e
  keeps : ∀ k, ¬ l <+: k → t'.get? k = t.get? k
  plain : t'.Plain

/-- Entries at or below a location are taken out, and the directories of those that are kept are
kept. -/
theorem filter_loses (ht : t.Plain) (keep : Location → Bool)
    (hkeep : ∀ k, ¬ l <+: k → keep k = true)
    (hup : ∀ k, k.dropLast ≠ [] → keep k = true → keep k.dropLast = true) :
    Loses l t ⟨t.entries.filter fun a => keep a.1⟩ := by
  have hsub : ∀ k e, (FileTree.mk (t.entries.filter fun a => keep a.1)).get? k = some e →
      t.get? k = some e ∧ (k ≠ [] → keep k = true) := by
    intro k e hk
    by_cases hnil : k = []
    · subst hnil
      exact ⟨hk, fun h => absurd rfl h⟩
    · rw [get?_filter keep hnil] at hk
      split at hk
      · rename_i hkept
        exact ⟨hk, fun _ => hkept⟩
      · simp at hk
  refine ⟨fun k e hk => (hsub k e hk).1, fun k hk => ?_, fun k e hk => ht.kinds k e (hsub k e hk).1,
    fun k e hk => ?_⟩
  · by_cases hnil : k = []
    · subst hnil
      rfl
    · rw [get?_filter keep hnil, if_pos (hkeep k hk)]
  · by_cases hnil : k.dropLast = []
    · rw [hnil]
      rfl
    · have hne : k ≠ [] := by
        rintro rfl
        exact hnil rfl
      obtain ⟨hold, hkept⟩ := hsub k e hk
      rw [get?_filter keep hnil, if_pos (hup k hnil (hkept hne)), ht.rooted k e hold]

theorem not_isPrefixOf_eq_true : (!l.isPrefixOf k) = true ↔ ¬ l <+: k := by
  rw [← List.isPrefixOf_iff_prefix, Bool.not_eq_true', Bool.not_eq_true]

theorem eraseAll_loses (ht : t.Plain) (l : Location) : Loses l t (t.eraseAll l) := by
  refine filter_loses ht (fun k => !l.isPrefixOf k) (fun k => not_isPrefixOf_eq_true.2)
    fun k _ hk => ?_
  rw [not_isPrefixOf_eq_true] at hk ⊢
  exact fun hp => hk (hp.trans (List.dropLast_prefix k))

theorem not_prefix_dropLast (hk : k.dropLast ≠ []) : ¬ k <+: k.dropLast := by
  intro hp
  have hle := hp.length_le
  have hpos := List.length_pos_iff.2 hk
  rw [List.length_dropLast] at hle hpos
  omega

/-- A tree in which a directory has been emptied. -/
theorem emptied_loses (ht : t.Plain) (l : Location) :
    Loses l t ⟨t.entries.filter fun e => e.1 = l ∨ !l.isPrefixOf e.1⟩ := by
  refine filter_loses ht (fun k => decide (k = l ∨ (!l.isPrefixOf k) = true)) (fun k hk => ?_)
    fun k hne hk => ?_
  · exact decide_eq_true (.inr (not_isPrefixOf_eq_true.2 hk))
  · refine decide_eq_true (.inr (not_isPrefixOf_eq_true.2 ?_))
    rcases of_decide_eq_true hk with rfl | hk
    · exact not_prefix_dropLast hne
    · exact fun hp => not_isPrefixOf_eq_true.1 hk (hp.trans (List.dropLast_prefix k))

theorem Loses.trans (h : Loses l t t') (h' : Loses l t' t'') : Loses l t t'' where
  sub k e hk := h.sub k e (h'.sub k e hk)
  keeps k hk := (h'.keeps k hk).trans (h.keeps k hk)
  plain := h'.plain

theorem removeFile_loses (ht : t.Plain) (h : t.removeFile path = .ok t') :
    ∃ l e, t.Reaches path (.found l e) ∧ Loses l t t' := by
  unfold removeFile at h
  split at h
  · simp at h
  · simp at h
  · simp at h
  · rename_i l e _ hfound
    obtain rfl := Except.ok.inj h
    exact ⟨l, e, (resolve_eq_ok_iff ht _).1 hfound, eraseAll_loses ht l⟩

theorem removeDir_loses (ht : t.Plain) (h : t.removeDir path = .ok t') :
    ∃ l e, t.Reaches path (.found l e) ∧ Loses l t t' := by
  unfold removeDir at h
  split at h
  · simp at h
  · simp at h
  · rename_i l hfound
    split at h
    · simp at h
    · split at h
      · simp at h
      · obtain rfl := Except.ok.inj h
        exact ⟨l, .dir, (resolve_eq_ok_iff ht _).1 hfound, eraseAll_loses ht l⟩
  · simp at h

/-- The directory that is taken away in the end is the one that has been emptied: what is left leads
where everything led before. -/
theorem removeAll_loses (ht : t.Plain) (path : String) :
    (t.removeAll path).1 = t ∨
      ∃ l e, t.Reaches path (.found l e) ∧ Loses l t (t.removeAll path).1 := by
  unfold removeAll
  split
  · exact .inl rfl
  · exact .inl rfl
  · rename_i l hfound
    have hr := (resolve_eq_ok_iff ht _).1 hfound
    have hempty := emptied_loses ht l
    right
    refine ⟨l, .dir, hr, ?_⟩
    dsimp only
    split
    · rename_i t' h
      obtain ⟨l', e, hr', hloses⟩ := removeDir_loses hempty.plain h
      have hsame := Reaches.unique ht hr (hr'.mono hempty.sub)
      obtain ⟨rfl, -⟩ := Place.found.inj hsame
      exact hempty.trans hloses
    · exact hempty
  · rename_i l e _ hfound
    exact .inr ⟨l, e, (resolve_eq_ok_iff ht _).1 hfound, eraseAll_loses ht l⟩

/-- A file that goes is at the location, or below it in a directory. -/
theorem Loses.file? (ht : t.Plain) (h : Loses l t t') (k : Location) :
    t'.file? k = t.file? k ∨ t'.file? k = none ∧ (k = l ∨ t.get? l = some .dir ∧ l <+: k) := by
  by_cases hk : t'.get? k = t.get? k
  · exact .inl (file?_congr hk)
  · have hgone : t'.get? k = none := by
      cases hk' : t'.get? k with
      | none => rfl
      | some e => exact absurd (hk'.trans (h.sub k e hk').symm) hk
    have hp : l <+: k := by
      by_contra hp
      exact hk (h.keeps k hp)
    cases hold : t.get? k with
    | none => exact absurd (hgone.trans hold.symm) hk
    | some e =>
      refine .inr ⟨by simp [FileTree.file?, hgone], ?_⟩
      exact (ht.eq_or_dir hold hp).imp id (⟨·, hp⟩)

end ScriptSandbox.FileTree
