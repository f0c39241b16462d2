import ScriptSandbox.Proofs.Files.Walks

/-!
# Trees without contents

What can be asked of a tree without a look into its files: where paths lead and how large the files
are is the same when the bytes of all files are wiped out (`walk_wiped`, `size_wiped`). Links lead on
here as well.
-/

namespace ScriptSandbox

namespace Entry

/-- An entry with the bytes of a file wiped out. There are as many. -/
def wiped : Entry → Entry
  | .file content => .file (List.replicate content.length 0)
  | .dir => .dir
  | .link target => .link target
  | .sink => .sink

@[simp] theorem isDir_wiped (e : Entry) : e.wiped.isDir = e.isDir := by
  cases e <;> rfl

@[simp] theorem size_wiped (e : Entry) : e.wiped.size = e.size := by
  cases e <;> simp [wiped, size]

theorem wiped_of_not_link {e : Entry} (h : ∀ target, e ≠ .link target) (target : String) :
    e.wiped ≠ .link target := by
  cases e with
  | link other => exact absurd rfl (h other)
  | file | dir | sink => simp [wiped]

end Entry

namespace FileTree

variable {t : FileTree} {follow : Bool} {links : Nat} {l : Location} {e c : Entry}
variable {name target : String} {rest : List String}

def Place.wiped : Place → Place
  | .found l e => .found l e.wiped
  | .free l => .free l

/-- The tree with the bytes of all files wiped out. -/
def wiped (t : FileTree) : FileTree := ⟨t.entries.map fun a => (a.1, a.2.wiped)⟩

theorem get?_wiped (l : Location) : t.wiped.get? l = (t.get? l).map Entry.wiped := by
  by_cases hl : l = []
  · subst hl
    rfl
  · rw [get?_of_ne_nil hl, get?_of_ne_nil hl, wiped]
    induction t.entries with
    | nil => rfl
    | cons a entries ih =>
      obtain ⟨k, e⟩ := a
      rw [List.map_cons, List.lookup_cons, List.lookup_cons]
      cases l == k with
      | true => rfl
      | false => exact ih

theorem get?_wiped_none (h : t.get? l = none) : t.wiped.get? l = none := by
  rw [get?_wiped, h]
  rfl

theorem get?_wiped_some (h : t.get? l = some e) : t.wiped.get? l = some e.wiped := by
  rw [get?_wiped, h]
  rfl

/-! ## Into a directory -/

/-- A walk goes on with a name in a directory. -/
structure Enters (t : FileTree) (l : Location) (name : String) : Prop where
  dir : ∃ e, t.get? l = some e ∧ e.isDir = true
  ne_dot : name ≠ "."
  ne_dots : name ≠ ".."
  size : ¬ longestName < name.utf8ByteSize

theorem Enters.wiped (h : t.Enters l name) : t.wiped.Enters l name where
  dir := by
    obtain ⟨e, he, hdir⟩ := h.dir
    exact ⟨e.wiped, get?_wiped_some he, by rwa [Entry.isDir_wiped]⟩
  ne_dot := h.ne_dot
  ne_dots := h.ne_dots
  size := h.size

theorem Enters.walk_free (h : t.Enters l name) (hc : t.get? (l ++ [name]) = none) :
    t.walk follow links l (name :: rest) =
      if rest = [] then .ok (.free (l ++ [name])) else .error .missing := by
  obtain ⟨e, he, hdir⟩ := h.dir
  rw [walk]
  simp [he, hdir, h.ne_dot, h.ne_dots, h.size, hc]

theorem Enters.walk_link (h : t.Enters l name) (hc : t.get? (l ++ [name]) = some (.link target)) :
    t.walk follow links l (name :: rest) =
      if rest = [] ∧ !follow then .ok (.found (l ++ [name]) (.link target))
      else
        match links with
        | 0 => .error .tooManyLinks
        | links + 1 =>
          t.walk follow links (if (Route.ofPath target).absolute then [] else l)
            ((Route.ofPath target).names ++ rest) := by
  obtain ⟨e, he, hdir⟩ := h.dir
  cases links <;> simp [walk, he, hdir, h.ne_dot, h.ne_dots, h.size, hc]

theorem Enters.walk_child (h : t.Enters l name) (hc : t.get? (l ++ [name]) = some c)
    (hlink : ∀ target, c ≠ .link target) :
    t.walk follow links l (name :: rest) = t.walk follow links (l ++ [name]) rest := by
  obtain ⟨e, he, hdir⟩ := h.dir
  rw [walk]
  cases c with
  | link target => exact absurd rfl (hlink target)
  | file | dir | sink => simp [he, hdir, h.ne_dot, h.ne_dots, h.size, hc]

/-! ## Walks -/

theorem walk_wiped (follow : Bool) (links : Nat) (l : Location) (names : List String) :
    t.wiped.walk follow links l names = (t.walk follow links l names).map Place.wiped := by
  induction links, l, names using FileTree.walk.induct t follow with
  | case1 links l e he => simp [walk, get?_wiped, he, Place.wiped, Except.map]
  | case2 links l he => simp [walk, get?_wiped, he, Except.map]
  | case3 links l name rest he => simp [walk, get?_wiped, he, Except.map]
  | case4 links l name rest e he hdir =>
    rw [walk, walk]
    simp [get?_wiped, he, hdir, Except.map]
  | case5 links l rest e he hdir ih =>
    rw [walk, walk]
    simpa [get?_wiped, he, hdir] using ih
  | case6 links l rest e he hdir hdot ih =>
    rw [walk, walk]
    simpa [get?_wiped, he, hdir] using ih
  | case7 links l name rest e he hdir hdot hdots hsize =>
    rw [walk, walk]
    simp [get?_wiped, he, hdir, hdot, hdots, hsize, Except.map]
  | case8 links l name e he hdir hdot hdots hsize child hc =>
    have hin : t.Enters l name := ⟨⟨e, he, by simpa using hdir⟩, hdot, hdots, hsize⟩
    rw [hin.walk_free hc, hin.wiped.walk_free (get?_wiped_none hc)]
    simp [Except.map, Place.wiped]
  | case9 links l name rest e he hdir hdot hdots hsize child hc hrest =>
    have hin : t.Enters l name := ⟨⟨e, he, by simpa using hdir⟩, hdot, hdots, hsize⟩
    rw [hin.walk_free hc, hin.wiped.walk_free (get?_wiped_none hc)]
    simp [hrest, Except.map]
  | case10 links l name rest e he hdir hdot hdots hsize child target hc hend =>
    have hin : t.Enters l name := ⟨⟨e, he, by simpa using hdir⟩, hdot, hdots, hsize⟩
    have hc' : t.wiped.get? (l ++ [name]) = some (.link target) := get?_wiped_some hc
    rw [hin.walk_link hc, hin.wiped.walk_link hc']
    rw [if_pos hend, if_pos hend]
    rfl
  | case11 l name rest e he hdir hdot hdots hsize child target hc hend =>
    have hin : t.Enters l name := ⟨⟨e, he, by simpa using hdir⟩, hdot, hdots, hsize⟩
    have hc' : t.wiped.get? (l ++ [name]) = some (.link target) := get?_wiped_some hc
    rw [hin.walk_link hc, hin.wiped.walk_link hc']
    simp only [if_neg hend]
    rfl
  | case12 l name rest e he hdir hdot hdots hsize child target hc hend links route ih =>
    have hin : t.Enters l name := ⟨⟨e, he, by simpa using hdir⟩, hdot, hdots, hsize⟩
    have hc' : t.wiped.get? (l ++ [name]) = some (.link target) := get?_wiped_some hc
    rw [hin.walk_link hc, hin.wiped.walk_link hc']
    simp only [if_neg hend]
    exact ih
  | case13 links l name rest e he hdir hdot hdots hsize child c hlink hc ih =>
    have hin : t.Enters l name := ⟨⟨e, he, by simpa using hdir⟩, hdot, hdots, hsize⟩
    rw [hin.walk_child hc hlink,
      hin.wiped.walk_child (get?_wiped_some hc) (Entry.wiped_of_not_link hlink)]
    exact ih

theorem resolve_wiped (path : String) (follow : Bool) :
    t.wiped.resolve path follow = (t.resolve path follow).map Place.wiped := by
  unfold resolve
  split
  · rfl
  · split
    · rfl
    · split
      · rfl
      · simp only [walk_wiped]
        generalize t.walk _ _ _ _ = r
        rcases r with error | ⟨l, e⟩ | l
        · rfl
        · simp only [Except.map, Place.wiped, Entry.isDir_wiped]
          split <;> rfl
        · rfl

theorem stat_wiped (path : String) : t.wiped.stat path = (t.stat path).map Entry.wiped := by
  unfold stat
  rw [resolve_wiped]
  cases t.resolve path true with
  | error => rfl
  | ok p => cases p <;> rfl

theorem size_wiped (path : String) : t.wiped.size path = t.size path := by
  unfold size
  rw [stat_wiped]
  cases t.stat path with
  | error => rfl
  | ok e => simp [Except.map]

end FileTree

end ScriptSandbox
