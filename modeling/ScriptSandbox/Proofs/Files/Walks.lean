import Mathlib.Data.List.Induction
import ScriptSandbox.Files.Tree

/-!
# Where paths lead

In a tree of directories and regular files alone a walk goes up and down directories and has no
other way to go on, so where it ends is a relation with one rule for each kind of step (`Leads`,
`walk_eq_ok_iff`). A walk that has found something finds it in every tree that has all that the
first one has (`Leads.mono`), and what is put where it ends is found there (`Leads.of_set`).
-/

namespace ScriptSandbox.FileTree

variable {t t' : FileTree} {l k : Location} {e : Entry} {names : List String} {p : Place}
variable {path : String}

/-- Every entry stands in a directory. -/
def Rooted (t : FileTree) : Prop := ∀ l e, t.get? l = some e → t.get? l.dropLast = some .dir

/-- There are directories and regular files, all of them in directories, and nothing else. -/
structure Plain (t : FileTree) : Prop where
  kinds : ∀ l e, t.get? l = some e → e = .dir ∨ ∃ content, e = .file content
  rooted : ∀ l e, t.get? l = some e → t.get? l.dropLast = some .dir

theorem Plain.eq_dir (h : t.Plain) (hl : t.get? l = some e) (he : e.isDir = true) : e = .dir := by
  rcases h.kinds l e hl with rfl | ⟨content, rfl⟩
  · rfl
  · simp [Entry.isDir] at he

/-- Everything is in directories, at every depth. -/
theorem Plain.eq_or_dir (ht : t.Plain) (hk : t.get? k = some e) (hp : l <+: k) :
    k = l ∨ t.get? l = some .dir := by
  obtain ⟨names, rfl⟩ := hp
  induction names using List.reverseRecOn generalizing e with
  | nil => simp
  | append_singleton names name ih =>
    have hparent := ht.rooted _ _ hk
    rw [← List.append_assoc, List.dropLast_concat] at hparent
    rcases ih hparent with h | h
    · exact .inr (h ▸ hparent)
    · exact .inr h

/-! ## Entries -/

@[simp] theorem get?_nil : t.get? [] = some .dir := rfl

theorem get?_of_ne_nil (h : l ≠ []) : t.get? l = t.entries.lookup l := if_neg h

theorem lookup_put (l k : Location) (e : Entry) (entries : List (Location × Entry)) :
    (put l e entries).lookup k = if k = l then some e else entries.lookup k := by
  induction entries with
  | nil =>
    by_cases h : k = l
    · subst h; simp [put]
    · simp [put, List.lookup_cons, beq_false_of_ne h, h]
  | cons a entries ih =>
    obtain ⟨j, old⟩ := a
    unfold put
    by_cases hj : l = j
    · subst hj
      rw [if_pos rfl, List.lookup_cons, List.lookup_cons]
      by_cases h : k = l
      · subst h; simp
      · simp [beq_false_of_ne h, h]
    · rw [if_neg hj, List.lookup_cons, List.lookup_cons, ih]
      by_cases h : k = l
      · subst h
        simp [beq_false_of_ne hj]
      · simp [h]

theorem mem_entries_of_get? (h : t.get? l = some e) : l = [] ∧ e = .dir ∨ (l, e) ∈ t.entries := by
  by_cases hl : l = []
  · subst hl
    exact .inl ⟨rfl, (Option.some.inj h).symm⟩
  · rw [get?_of_ne_nil hl] at h
    obtain ⟨before, behind, hentries, -⟩ := List.lookup_eq_some_iff.1 h
    exact .inr (by simp [hentries])

/-- A tree is plain if each of its entries is as it must be. -/
theorem plain_of_entries (h : ∀ a ∈ t.entries,
    (a.2.isDir || a.2.isFile) = true ∧ t.get? a.1.dropLast = some .dir) : t.Plain := by
  refine ⟨fun l e he => ?_, fun l e he => ?_⟩
  · rcases mem_entries_of_get? he with ⟨-, rfl⟩ | hin
    · exact .inl rfl
    · have hkind := (h _ hin).1
      cases e <;> simp_all [Entry.isDir, Entry.isFile]
  · rcases mem_entries_of_get? he with ⟨rfl, -⟩ | hin
    · rfl
    · exact (h _ hin).2

theorem get?_set (hl : l ≠ []) (k : Location) :
    (t.set l e).get? k = if k = l then some e else t.get? k := by
  by_cases hk : k = []
  · subst hk
    rw [if_neg (Ne.symm hl)]
    rfl
  · rw [get?_of_ne_nil hk, get?_of_ne_nil hk]
    exact lookup_put l k e t.entries

theorem get?_set_self (hl : l ≠ []) : (t.set l e).get? l = some e :=
  (get?_set hl l).trans (if_pos rfl)

theorem rooted_of_entries (h : ∀ a ∈ t.entries, t.get? a.1.dropLast = some .dir) : t.Rooted := by
  intro l e he
  rcases mem_entries_of_get? he with ⟨rfl, -⟩ | hin
  · rfl
  · exact h _ hin

/-- A tree stays rooted when something is put into a directory where no directory is. -/
theorem Rooted.set (ht : t.Rooted) (hl : l ≠ []) (hparent : t.get? l.dropLast = some .dir)
    (hold : t.get? l ≠ some .dir) : (t.set l e).Rooted := by
  intro k old h
  have hroot : t.get? k.dropLast = some .dir := by
    rw [get?_set hl] at h
    split at h
    · rename_i hk
      exact hk ▸ hparent
    · exact ht k old h
  rw [get?_set hl, if_neg, hroot]
  intro hk
  exact hold (hk ▸ hroot)

/-- What is left of entries when those at some locations are taken out. -/
theorem lookup_filter (keep : Location → Bool) (k : Location) (entries : List (Location × Entry)) :
    (entries.filter fun a => keep a.1).lookup k = if keep k then entries.lookup k else none := by
  induction entries with
  | nil => simp
  | cons a entries ih =>
    obtain ⟨j, old⟩ := a
    rw [List.filter_cons]
    by_cases hj : k = j
    · subst hj
      cases hk : keep k with
      | true => simp
      | false => simpa [hk] using ih
    · cases keep j with
      | true => simp [List.lookup_cons, beq_false_of_ne hj, ih]
      | false => simp [List.lookup_cons, beq_false_of_ne hj, ih]

theorem get?_filter (keep : Location → Bool) (hk : k ≠ []) :
    (FileTree.mk (t.entries.filter fun a => keep a.1)).get? k =
      if keep k then t.get? k else none := by
  rw [get?_of_ne_nil hk, get?_of_ne_nil hk]
  exact lookup_filter keep k t.entries

/-! ## Steps -/

/-- A name of a directory entry that is not one of the two dots. -/
structure IsName (name : String) : Prop where
  ne_dot : name ≠ "."
  ne_dots : name ≠ ".."
  size : name.utf8ByteSize ≤ longestName

/-- From a location these names lead to a place. -/
inductive Leads (t : FileTree) : Location → List String → Place → Prop
  | arrived {l : Location} {e : Entry} (h : t.get? l = some e) : Leads t l [] (.found l e)
  | here {l : Location} {rest : List String} {p : Place} (h : t.get? l = some .dir)
      (hp : Leads t l rest p) : Leads t l ("." :: rest) p
  | up {l : Location} {rest : List String} {p : Place} (h : t.get? l = some .dir)
      (hp : Leads t l.dropLast rest p) : Leads t l (".." :: rest) p
  | free {l : Location} {name : String} (h : t.get? l = some .dir) (hn : IsName name)
      (hc : t.get? (l ++ [name]) = none) : Leads t l [name] (.free (l ++ [name]))
  | child {l : Location} {name : String} {rest : List String} {p : Place} {e : Entry}
      (h : t.get? l = some .dir) (hn : IsName name) (hc : t.get? (l ++ [name]) = some e)
      (hp : Leads t (l ++ [name]) rest p) : Leads t l (name :: rest) p

/-- One name of a walk, where there are no links. -/
theorem walk_cons (ht : t.Plain) (follow : Bool) (links : Nat) (l : Location) (name : String)
    (rest : List String) : t.walk follow links l (name :: rest) =
      match t.get? l with
      | none => .error .missing
      | some e =>
        if !e.isDir then .error .notDirectory
        else if name = "." then t.walk follow links l rest
        else if name = ".." then t.walk follow links l.dropLast rest
        else if longestName < name.utf8ByteSize then .error .nameTooLong
        else
          match t.get? (l ++ [name]) with
          | none => if rest = [] then .ok (.free (l ++ [name])) else .error .missing
          | some _ => t.walk follow links (l ++ [name]) rest := by
  rw [walk]
  cases t.get? l with
  | none => rfl
  | some e =>
    dsimp only
    congr 4
    cases hc : t.get? (l ++ [name]) with
    | none => rfl
    | some c =>
      rcases ht.kinds _ _ hc with rfl | ⟨content, rfl⟩ <;> rfl

theorem leads_of_walk (ht : t.Plain) {follow : Bool} {links : Nat}
    (h : t.walk follow links l names = .ok p) : t.Leads l names p := by
  induction names generalizing l with
  | nil =>
    rw [walk] at h
    split at h
    · rename_i e he
      obtain rfl := Except.ok.inj h
      exact .arrived he
    · simp at h
  | cons name rest ih =>
    rw [walk_cons ht] at h
    split at h
    · simp at h
    · rename_i e he
      split at h
      · simp at h
      · rename_i hdir
        obtain rfl := ht.eq_dir he (by simpa using hdir)
        split at h
        · rename_i hname
          subst hname
          exact .here he (ih h)
        · rename_i hdot
          split at h
          · rename_i hname
            subst hname
            exact .up he (ih h)
          · rename_i hdots
            split at h
            · simp at h
            · rename_i hsize
              have hn : IsName name := ⟨hdot, hdots, by omega⟩
              split at h
              · rename_i hc
                split at h
                · rename_i hrest
                  subst hrest
                  obtain rfl := Except.ok.inj h
                  exact .free he hn hc
                · simp at h
              · rename_i c hc
                exact .child he hn hc (ih h)

theorem walk_of_leads (ht : t.Plain) (follow : Bool) (links : Nat) (h : t.Leads l names p) :
    t.walk follow links l names = .ok p := by
  induction h with
  | arrived h => rw [walk, h]
  | here h _ ih => simpa [walk_cons ht, h, Entry.isDir] using ih
  | up h _ ih => simpa [walk_cons ht, h, Entry.isDir] using ih
  | free h hn hc =>
    have hsize := Nat.not_lt.2 hn.size
    simp [walk_cons ht, h, Entry.isDir, hn.ne_dot, hn.ne_dots, hsize, hc]
  | child h hn hc _ ih =>
    have hsize := Nat.not_lt.2 hn.size
    simpa [walk_cons ht, h, Entry.isDir, hn.ne_dot, hn.ne_dots, hsize, hc] using ih

theorem walk_eq_ok_iff (ht : t.Plain) {follow : Bool} {links : Nat} :
    t.walk follow links l names = .ok p ↔ t.Leads l names p :=
  ⟨leads_of_walk ht, walk_of_leads ht follow links⟩

namespace Leads

theorem get?_of_found (h : t.Leads l names (.found k e)) : t.get? k = some e := by
  generalize hp : Place.found k e = p at h
  induction h with
  | arrived h =>
    obtain ⟨rfl, rfl⟩ := Place.found.inj hp
    exact h
  | free => cases hp
  | here _ _ ih | up _ _ ih | child _ _ _ _ ih => exact ih hp

/-- What is free has no entry, and is a name in a directory. -/
theorem get?_of_free (h : t.Leads l names (.free k)) :
    k ≠ [] ∧ t.get? k.dropLast = some .dir ∧ t.get? k = none := by
  generalize hp : Place.free k = p at h
  induction h with
  | arrived => cases hp
  | free h hn hc =>
    obtain rfl := Place.free.inj hp
    exact ⟨by simp, by simpa using h, hc⟩
  | here _ _ ih | up _ _ ih | child _ _ _ _ ih => exact ih hp

/-- What has been found is found where there is more. -/
theorem mono (hsub : ∀ l e, t.get? l = some e → t'.get? l = some e)
    (h : t.Leads l names (.found k e)) : t'.Leads l names (.found k e) := by
  generalize hp : Place.found k e = p at h ⊢
  induction h with
  | arrived h => exact .arrived (hsub _ _ h)
  | free => cases hp
  | here h _ ih => exact .here (hsub _ _ h) (ih hp)
  | up h _ ih => exact .up (hsub _ _ h) (ih hp)
  | child h hn hc _ ih => exact .child (hsub _ _ h) hn (hsub _ _ hc) (ih hp)

theorem isPrefix (h : t.Leads l names (.found k e)) (hup : ".." ∉ names) : l <+: k := by
  generalize hp : Place.found k e = p at h
  induction h with
  | arrived h =>
    obtain ⟨rfl, -⟩ := Place.found.inj hp
    exact List.prefix_refl _
  | free => cases hp
  | here _ _ ih => exact ih (fun h => hup (List.mem_cons_of_mem _ h)) hp
  | up => exact absurd List.mem_cons_self hup
  | child _ _ _ _ ih =>
    exact (List.prefix_append ..).trans (ih (fun h => hup (List.mem_cons_of_mem _ h)) hp)

/-- What a walk finds that never goes up, it has found before if it was there before: all that it
goes through is above. -/
theorem earlier (ht : t.Plain) (hsub : ∀ l e, t.get? l = some e → t'.get? l = some e)
    (h : t'.Leads l names (.found k e)) (hk : t.get? k = some e) (hup : ".." ∉ names) :
    t.Leads l names (.found k e) := by
  have hold : ∀ j old, t'.get? j = some old → j <+: k → t.get? j = some old := by
    intro j old hj hp
    rcases ht.eq_or_dir hk hp with rfl | hdir
    · rw [hk, ← hj, hsub _ _ hk]
    · rw [hdir, ← hj, hsub _ _ hdir]
  generalize hp : Place.found k e = p at h ⊢
  induction h with
  | arrived h =>
    obtain ⟨rfl, rfl⟩ := Place.found.inj hp
    exact .arrived hk
  | free => cases hp
  | @here _ rest _ h hrest ih =>
    subst hp
    have hup' : ".." ∉ rest := fun h => hup (List.mem_cons_of_mem _ h)
    exact .here (hold _ _ h (hrest.isPrefix hup')) (ih hup' rfl)
  | up => exact absurd List.mem_cons_self hup
  | @child _ _ rest _ _ h hn hc hrest ih =>
    subst hp
    have hup' : ".." ∉ rest := fun h => hup (List.mem_cons_of_mem _ h)
    have hbelow := hrest.isPrefix hup'
    exact .child (hold _ _ h ((List.prefix_append ..).trans hbelow)) hn (hold _ _ hc hbelow)
      (ih hup' rfl)

end Leads

/-! ## Places for files -/

/-- A file can be at this place: there is one with this content, or there is nothing yet. -/
inductive TakesFile (l : Location) : Place → Bytes → Prop
  | file (content : Bytes) : TakesFile l (.found l (.file content)) content
  | free : TakesFile l (.free l) []

theorem TakesFile.get? {p : Place} {old : Bytes} (hp : TakesFile k p old)
    (h : t.Leads l names p) : t.get? k ≠ some .dir := by
  cases hp with
  | file => simp [h.get?_of_found]
  | free => simp [h.get?_of_free.2.2]

theorem TakesFile.ne_nil {old : Bytes} (hp : TakesFile k p old) (h : t.Leads l names p) :
    k ≠ [] := by
  rintro rfl
  exact hp.get? h rfl

/-- What is put at the end of a walk is found there. -/
theorem Leads.of_set {old : Bytes} (hp : TakesFile k p old) (h : t.Leads l names p) :
    (t.set k e).Leads l names (.found k e) := by
  have hk : k ≠ [] := hp.ne_nil h
  have hdir : ∀ j, t.get? j = some .dir → (t.set k e).get? j = some .dir := by
    intro j hj
    rw [get?_set hk, if_neg, hj]
    rintro rfl
    exact hp.get? h hj
  induction h with
  | arrived h =>
    cases hp
    exact .arrived (get?_set_self hk)
  | here h _ ih => exact .here (hdir _ h) (ih hp)
  | up h _ ih => exact .up (hdir _ h) (ih hp)
  | free h hn hc =>
    cases hp
    exact .child (hdir _ h) hn (get?_set_self hk) (.arrived (get?_set_self hk))
  | @child j name _ _ _ h hn hc _ ih =>
    by_cases hj : j ++ [name] = k
    · exact .child (hdir _ h) hn (by rw [get?_set hk, if_pos hj]) (ih hp)
    · exact .child (hdir _ h) hn (by rw [get?_set hk, if_neg hj, hc]) (ih hp)

/-! ## Paths -/

/-- A path that the operating system takes. -/
structure IsPath (path : String) : Prop where
  noNul : Char.ofNat 0 ∉ path.toList
  nonempty : path.isEmpty = false
  size : path.utf8ByteSize ≤ longestPath

/-- Where a route begins. -/
def Route.start (r : Route) : Location := if r.absolute then [] else home

theorem resolve_eq_ok_iff_walk {follow : Bool} :
    t.resolve path follow = .ok p ↔
      IsPath path ∧
      t.walk (follow || (Route.ofPath path).directory) maxLinks (Route.ofPath path).start
        (Route.ofPath path).names = .ok p ∧
      ((Route.ofPath path).directory = true → ∀ l e, p = .found l e → e.isDir = true) := by
  unfold resolve
  constructor
  · intro h
    split at h
    · simp at h
    · rename_i hnul
      split at h
      · simp at h
      · rename_i hempty
        split at h
        · simp at h
        · rename_i hsize
          have hpath : IsPath path :=
            ⟨by simpa using hnul, by simpa using hempty, by omega⟩
          dsimp only at h
          split at h
          · rename_i l e hwalk
            split at h
            · simp at h
            · rename_i hslash
              obtain rfl := Except.ok.inj h
              refine ⟨hpath, hwalk, fun hd l' e' hp => ?_⟩
              obtain ⟨rfl, rfl⟩ := Place.found.inj hp
              simpa [hd] using hslash
          · rename_i hne
            refine ⟨hpath, h, ?_⟩
            rintro - l e rfl
            exact absurd h (hne l e)
  · rintro ⟨hpath, hwalk, hslash⟩
    have hsize := Nat.not_lt.2 hpath.size
    rw [if_neg (by simp [hpath.noNul]), if_neg (by simp [hpath.nonempty]), if_neg hsize]
    dsimp only
    rw [← Route.start, hwalk]
    cases p with
    | free => rfl
    | found l e =>
      refine if_neg ?_
      rintro ⟨hd, he⟩
      simp [hslash hd l e rfl] at he

/-- A path leads to a place; with a slash at its end not to a file. -/
structure Reaches (t : FileTree) (path : String) (p : Place) : Prop where
  isPath : IsPath path
  leads : t.Leads (Route.ofPath path).start (Route.ofPath path).names p
  slash : (Route.ofPath path).directory = true → ∀ l e, p = .found l e → e.isDir = true

theorem resolve_eq_ok_iff (ht : t.Plain) (follow : Bool) :
    t.resolve path follow = .ok p ↔ t.Reaches path p := by
  rw [resolve_eq_ok_iff_walk, walk_eq_ok_iff ht]
  exact ⟨fun h => ⟨h.1, h.2.1, h.2.2⟩, fun h => ⟨h.isPath, h.leads, h.slash⟩⟩

end ScriptSandbox.FileTree
