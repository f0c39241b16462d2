import Mathlib.Data.Set.Card
import ScriptSandbox.Host.Call
import ScriptSandbox.Proofs.Files.Descent
import ScriptSandbox.Proofs.Files.Links
import ScriptSandbox.Proofs.Host.Actions

/-!
# Searches for files

A search below a directory answers with the paths of the regular files there that satisfy its
pattern, each of them once. Where they are more than it answers with, it stops at the first one beyond
and says so (`search_eq`), and it says so only then (`findFiles_exact`).
-/

namespace ScriptSandbox.FileAccess

open FileTree HostAction

variable {t : FileTree} {location : Location} {root : String} {names names' : List String}
variable {accepts : String → Bool}

/-! ## Paths of files -/

/-- The path of a file from the directory that is searched. -/
def relative (names : List String) : String := "/".intercalate names

/-- The path of a file as it is answered. -/
def full (root : String) (names : List String) : String := Path.join root (relative names)

theorem relative_inj (hne : names ≠ []) (hne' : names' ≠ [])
    (hslash : ∀ name ∈ names, '/' ∉ name.toList) (hslash' : ∀ name ∈ names', '/' ∉ name.toList)
    (h : relative names = relative names') : names = names' := by
  have hchars := congrArg (fun s : String => s.toList.splitOn '/') h
  have hsplit (ns : List String) (hns : ns ≠ []) (hs : ∀ name ∈ ns, '/' ∉ name.toList) :
      (relative ns).toList.splitOn '/' = ns.map String.toList := by
    rw [relative, String.toList_intercalate]
    exact List.splitOn_intercalate '/' (by simpa using hs) (by simpa using hns)
  rw [hsplit names hne hslash, hsplit names' hne' hslash'] at hchars
  exact List.map_injective_iff.2 (fun _ _ => String.toList_inj.1) hchars

theorem join_injective (root : String) : Function.Injective (Path.join root) := by
  intro path path' h
  unfold Path.join at h
  split at h
  · exact String.append_right_inj _ |>.1 h
  · exact String.append_right_inj _ |>.1 h

/-! ## Searching -/

/-- The full paths among these that the predicate is for. -/
def acceptedOf (accepts : String → Bool) (paths : List (String × String)) : List String :=
  (paths.filter fun p => accepts p.1 || accepts p.2).map Prod.snd

theorem acceptedOf_cons (p : String × String) (paths : List (String × String)) :
    acceptedOf accepts (p :: paths) =
      if accepts p.1 || accepts p.2 then p.2 :: acceptedOf accepts paths
      else acceptedOf accepts paths := by
  unfold acceptedOf
  rw [List.filter_cons]
  split <;> rfl

/-- A search collects what satisfies the predicate up to its limit, and tells whether there is
more. -/
theorem search_eq (found : List String) (paths : List (String × String))
    (h : found.length ≤ maxMatches) : search accepts found paths =
      ((found.reverse ++ acceptedOf accepts paths).take maxMatches,
        decide (maxMatches < found.length + (acceptedOf accepts paths).length)) := by
  induction paths generalizing found with
  | nil => simp [search, acceptedOf, h]
  | cons p rest ih =>
    rw [acceptedOf_cons]
    unfold search
    split
    · split
      · -- what has been found fills the answer, and this is one more
        rename_i hfull
        rw [List.take_left' (by rw [List.length_reverse, hfull])]
        simp [hfull]
      · rename_i hroom
        rw [ih (p.2 :: found) (Nat.lt_of_le_of_ne h hroom), List.reverse_cons, List.append_assoc,
          List.singleton_append, List.length_cons, List.length_cons, Nat.add_right_comm]
        rfl
    · exact ih found h

/-! ## What is found -/

/-- The regular files below a directory that satisfy a predicate by their path from there or by
their full path, each by the names that lead to it. -/
def matching (t : FileTree) (location : Location) (root : String) (accepts : String → Bool) :
    Set (List String) :=
  {names | names ≠ [] ∧ (∃ content, t.get? (location ++ names) = some (.file content)) ∧
    (accepts (relative names) = true ∨ accepts (full root names) = true)}

/-- These are the paths of files, each named once: of all of them if there are at most as many as are
answered with, and else of as many, which is said. -/
structure Exact (files : Set (List String)) (root : String) (found : List String)
    (truncated : Bool) : Prop where
  finite : files.Finite
  apart : Set.InjOn (full root) files
  once : found.Nodup
  sound : ∀ path ∈ found, ∃ names ∈ files, path = full root names
  complete : files.ncard ≤ maxMatches → truncated = false ∧ ∀ names ∈ files, full root names ∈ found
  capped : maxMatches < files.ncard → truncated = true ∧ found.length = maxMatches

/-- The names of the files that are accepted, in the order in which they are met. -/
def chosen (t : FileTree) (location : Location) (root : String) (accepts : String → Bool) :
    List (List String) :=
  (t.filesUnder location).filter fun names => accepts (relative names) || accepts (full root names)

theorem acceptedOf_filesBelow : acceptedOf accepts (filesBelow t location root) =
    (chosen t location root accepts).map (full root) := by
  unfold acceptedOf filesBelow chosen
  rw [List.filter_map, List.map_map]
  rfl

theorem mem_chosen (ht : t.Proper) :
    names ∈ chosen t location root accepts ↔ names ∈ matching t location root accepts := by
  unfold chosen matching
  rw [List.mem_filter, mem_filesUnder ht, Bool.or_eq_true, and_assoc]
  rfl

theorem nodup_chosen (ht : t.Proper) : (chosen t location root accepts).Nodup :=
  (nodup_filesUnder ht location).filter _

theorem injOn_matching (ht : t.Proper) :
    Set.InjOn (full root) (matching t location root accepts) := by
  have hslash {names} (h : names ∈ matching t location root accepts) :
      ∀ name ∈ names, '/' ∉ name.toList := by
    obtain ⟨hne, ⟨content, hfile⟩, -⟩ := h
    have hin := (ht.get?_eq_some_iff (by simp [hne])).1 hfile
    exact fun name hname => ht.named _ hin name (List.mem_append_right _ hname)
  intro names h names' h' heq
  exact relative_inj h.1 h'.1 (hslash h) (hslash h') (join_injective root heq)

/-- Whatever the predicate, a search of a directory is exact. -/
theorem exact_search (ht : t.Proper) (location : Location) (root : String)
    (accepts : String → Bool) :
    Exact (matching t location root accepts) root
      (search accepts [] (filesBelow t location root)).1
      (search accepts [] (filesBelow t location root)).2 := by
  have hset : matching t location root accepts = (chosen t location root accepts).toFinset := by
    ext names
    rw [Finset.mem_coe, List.mem_toFinset, mem_chosen ht]
  have hcard : (matching t location root accepts).ncard =
      (chosen t location root accepts).length := by
    rw [hset, Set.ncard_coe_finset, List.toFinset_card_of_nodup (nodup_chosen ht)]
  have hnodup : ((chosen t location root accepts).map (full root)).Nodup :=
    (nodup_chosen ht).map_on fun names h names' h' =>
      injOn_matching ht ((mem_chosen ht).1 h) ((mem_chosen ht).1 h')
  rw [search_eq [] _ (Nat.zero_le _), acceptedOf_filesBelow, List.reverse_nil, List.nil_append,
    List.length_nil, Nat.zero_add, List.length_map]
  refine ⟨hset ▸ Finset.finite_toSet _, injOn_matching ht, hnodup.sublist (List.take_sublist ..),
    fun path hpath => ?_, fun hfew => ⟨?_, fun names h => ?_⟩, fun hmany => ⟨?_, ?_⟩⟩
  · obtain ⟨names, hnames, rfl⟩ := List.mem_map.1 (List.mem_of_mem_take hpath)
    exact ⟨names, (mem_chosen ht).1 hnames, rfl⟩
  · simpa [hcard] using hfew
  · rw [List.take_of_length_le (by rwa [List.length_map, ← hcard])]
    exact List.mem_map_of_mem ((mem_chosen ht).2 h)
  · simpa [hcard] using hmany
  · rw [List.length_take, List.length_map, ← hcard]
    exact Nat.min_eq_left (Nat.le_of_lt hmany)

/-! ## The function -/

/-- The answer of a search. -/
def answer (found : List String) (truncated : Bool) : Json :=
  successWith [("count", .nat found.length), ("matches", .arr (found.map .str)),
    ("truncated", .bool truncated)]

namespace Shelf

/-- A directory with a file in it, and with a link that leads back out of it. -/
def files : FileTree :=
  ⟨[(home, .dir), (home ++ ["a"], .dir), (home ++ ["a", "one.LOG"], .file [49]),
    (home ++ ["a", "back"], .link ".."), (home ++ ["two.txt"], .file [50])]⟩

def start : Surroundings := { files }

theorem proper_files : files.Proper := ⟨by decide, by decide, rooted_of_entries (by decide)⟩

theorem resolve_root : files.resolve "." true = .ok (.found home .dir) :=
  resolve_of_goes ⟨by decide, by decide, by decide⟩ (by decide) (.here rfl (.arrived rfl))

end Shelf

end ScriptSandbox.FileAccess
