import Mathlib.Data.List.Nodup
import ScriptSandbox.Proofs.Files.Walks

/-!
# Going through a directory

In a tree in which every entry stands in a directory, and nothing stands in one place twice, going
through a directory meets each regular file below it (`mem_filesUnder`), and none of them twice
(`nodup_filesUnder`).
-/

namespace ScriptSandbox.FileTree

variable {t : FileTree} {l : Location} {e : Entry} {name : String} {names : List String}

/-- A tree as it can be: no location has two entries, names are texts between slashes, and every
entry stands in a directory. -/
structure Proper (t : FileTree) : Prop where
  distinct : (t.entries.map Prod.fst).Nodup
  named : ∀ a ∈ t.entries, ∀ name ∈ a.1, '/' ∉ name.toList
  rooted : t.Rooted

theorem Proper.get?_eq_some_iff (ht : t.Proper) (hl : l ≠ []) :
    t.get? l = some e ↔ (l, e) ∈ t.entries := by
  refine ⟨fun h => (mem_entries_of_get? h).resolve_left fun hroot => hl hroot.1, fun h => ?_⟩
  obtain ⟨before, behind, hentries⟩ := List.append_of_mem h
  have hdistinct := ht.distinct
  rw [hentries, List.map_append, List.map_cons, List.nodup_append] at hdistinct
  rw [get?_of_ne_nil hl]
  refine List.lookup_eq_some_iff.2 ⟨before, behind, hentries, fun a ha => bne_iff_ne.2 ?_⟩
  exact Ne.symm (hdistinct.2.2 _ (List.mem_map_of_mem ha) _ List.mem_cons_self)

/-- What is above an entry is a directory. -/
theorem Rooted.dir_of_append (ht : t.Rooted) (hnames : names ≠ [])
    (h : t.get? (l ++ names) = some e) : t.get? l = some .dir := by
  induction names using List.reverseRecOn generalizing e with
  | nil => exact absurd rfl hnames
  | append_singleton names name ih =>
    have hparent := ht _ _ h
    rw [← List.append_assoc, List.dropLast_concat] at hparent
    by_cases hempty : names = []
    · rwa [hempty, List.append_nil] at hparent
    · exact ih hempty hparent

/-- An entry right in a directory has a name there. -/
theorem child_eq_some {k : Location} {c : String × Entry}
    (h : (match k.getLast? with
      | some name => if k.dropLast = l then some (name, e) else none
      | none => none) = some c) : k = l ++ [c.1] ∧ e = c.2 := by
  split at h
  · rename_i name hlast
    obtain ⟨d, rfl⟩ := List.getLast?_eq_some_iff.1 hlast
    rw [List.dropLast_concat] at h
    split at h
    · rename_i hparent
      obtain rfl := Option.some.inj h
      exact ⟨by rw [hparent], rfl⟩
    · cases h
  · cases h

theorem mem_children_iff : (name, e) ∈ t.children l ↔ (l ++ [name], e) ∈ t.entries := by
  unfold children
  rw [List.mem_filterMap]
  constructor
  · rintro ⟨⟨k, e'⟩, hk, hc⟩
    obtain ⟨rfl, rfl⟩ := child_eq_some hc
    exact hk
  · intro h
    exact ⟨_, h, by simp⟩

theorem mem_children (h : t.get? (l ++ [name]) = some e) : (name, e) ∈ t.children l := by
  refine mem_children_iff.2 ((mem_entries_of_get? h).resolve_left fun hroot => ?_)
  simp at hroot

/-- The names of the entries right in a directory are different. -/
theorem pairwise_children (ht : t.Proper) (l : Location) :
    (t.children l).Pairwise fun c c' => c.1 ≠ c'.1 := by
  have hdistinct : t.entries.Pairwise fun a a' => a.1 ≠ a'.1 := List.pairwise_map.1 ht.distinct
  refine List.Pairwise.filterMap _ (fun a a' hne c hc c' hc' hname => hne ?_) hdistinct
  rw [(child_eq_some hc).1, (child_eq_some hc').1, hname]

/-! ## Going through -/

/-- What is met through one entry of a directory. -/
def filesThrough (t : FileTree) (l : Location) (c : String × Entry) : List (List String) :=
  match c.2 with
  | .file _ => [[c.1]]
  | .dir => (t.filesUnder (l ++ [c.1])).map (c.1 :: ·)
  | _ => []

theorem filesUnder_eq (t : FileTree) (l : Location) :
    t.filesUnder l = (t.children l).flatMap (t.filesThrough l) := by
  rw [filesUnder]
  conv => rhs; rw [← List.attach_map_subtype_val (t.children l), List.flatMap_map]
  congr 1
  funext ⟨⟨name, e⟩, h⟩
  cases e <;> rfl

/-- What is met through an entry is the entry, or below it. -/
theorem mem_filesThrough {c : String × Entry} : names ∈ t.filesThrough l c ↔
    (∃ content, c.2 = .file content ∧ names = [c.1]) ∨
      c.2 = .dir ∧ ∃ below ∈ t.filesUnder (l ++ [c.1]), names = c.1 :: below := by
  obtain ⟨name, e⟩ := c
  cases e <;> simp [filesThrough, eq_comm]

theorem head?_of_mem_filesThrough {c : String × Entry} (h : names ∈ t.filesThrough l c) :
    names.head? = some c.1 := by
  rcases mem_filesThrough.1 h with ⟨-, -, rfl⟩ | ⟨-, below, -, rfl⟩ <;> rfl

/-- A file below a directory is right in it, or below one that is. -/
theorem cons_mem_filesUnder : name :: names ∈ t.filesUnder l ↔
    (names = [] ∧ ∃ content, (name, .file content) ∈ t.children l) ∨
      ((name, .dir) ∈ t.children l ∧ names ∈ t.filesUnder (l ++ [name])) := by
  rw [filesUnder_eq, List.mem_flatMap]
  constructor
  · rintro ⟨⟨first, e⟩, hc, hnames⟩
    rcases mem_filesThrough.1 hnames with ⟨content, rfl, heq⟩ | ⟨rfl, below, hbelow, heq⟩
    · obtain ⟨rfl, rfl⟩ := List.cons.inj heq
      exact .inl ⟨rfl, content, hc⟩
    · obtain ⟨rfl, rfl⟩ := List.cons.inj heq
      exact .inr ⟨hc, hbelow⟩
  · rintro (⟨rfl, content, hc⟩ | ⟨hc, hbelow⟩)
    · exact ⟨_, hc, mem_filesThrough.2 (.inl ⟨content, rfl, rfl⟩)⟩
    · exact ⟨_, hc, mem_filesThrough.2 (.inr ⟨rfl, names, hbelow, rfl⟩)⟩

theorem nil_notMem_filesUnder : [] ∉ t.filesUnder l := by
  rw [filesUnder_eq, List.mem_flatMap]
  rintro ⟨c, -, hnil⟩
  cases head?_of_mem_filesThrough hnil

/-- Every regular file below a directory is met, and nothing else is. -/
theorem mem_filesUnder (ht : t.Proper) : names ∈ t.filesUnder l ↔
    names ≠ [] ∧ ∃ content, t.get? (l ++ names) = some (.file content) := by
  induction names generalizing l with
  | nil => simp [nil_notMem_filesUnder]
  | cons name names ih =>
    have hchild : l ++ [name] ≠ [] := by simp
    simp only [cons_mem_filesUnder, ih, mem_children_iff, ← ht.get?_eq_some_iff hchild,
      ← List.append_cons]
    constructor
    · rintro (⟨rfl, hfile⟩ | ⟨-, -, hfile⟩)
      · exact ⟨List.cons_ne_nil _ _, hfile⟩
      · exact ⟨List.cons_ne_nil _ _, hfile⟩
    · rintro ⟨-, content, hfile⟩
      by_cases hnames : names = []
      · subst hnames
        exact .inl ⟨rfl, content, hfile⟩
      · refine .inr ⟨?_, hnames, content, hfile⟩
        rw [List.append_cons] at hfile
        exact ht.rooted.dir_of_append hnames hfile

/-- No file is met twice. -/
theorem nodup_filesUnder (ht : t.Proper) (l : Location) : (t.filesUnder l).Nodup := by
  induction l using filesUnder.induct t with
  | case1 l ih =>
    rw [filesUnder_eq, List.nodup_flatMap]
    refine ⟨fun ⟨name, e⟩ hc => ?_, (pairwise_children ht l).imp fun hne names hnames hnames' => ?_⟩
    · cases e with
      | file => exact List.nodup_singleton _
      | dir => exact (ih name hc).map List.cons_injective
      | link | sink => exact List.nodup_nil
    · -- what is met through two entries begins with two names
      have hhead := head?_of_mem_filesThrough hnames
      rw [head?_of_mem_filesThrough hnames'] at hhead
      exact hne (Option.some.inj hhead).symm

end ScriptSandbox.FileTree
