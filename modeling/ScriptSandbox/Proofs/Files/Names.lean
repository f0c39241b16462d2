import ScriptSandbox.Proofs.Files.Walks
import ScriptSandbox.Settings.Basic

/-!
# Names of files

The type of a file is read off the text of a path. Every path that leads to a file ends in the name
that the file has in its directory (`Leads.lastName`), so all these paths have one type, which is that
of the file's location (`Reaches.allows`).
-/

namespace ScriptSandbox

namespace Path

variable {cs ds : List Char} {piece : List Char} {name path : String}

theorem pieces_cons (c : Char) (cs : List Char) :
    pieces (c :: cs) =
      if c = '/' then [] :: pieces cs
      else (c :: (pieces cs).headD []) :: (pieces cs).tail := by
  by_cases hc : c = '/'
  · simp [pieces, hc]
  · simp [pieces, hc]

/-- A slash parts the pieces before it from those behind. -/
theorem pieces_append (cs ds : List Char) : pieces (cs ++ '/' :: ds) = pieces cs ++ pieces ds := by
  induction cs with
  | nil =>
    rw [List.nil_append, pieces_cons, if_pos rfl]
    rfl
  | cons c cs ih =>
    rw [List.cons_append, pieces_cons, pieces_cons, ih]
    by_cases hc : c = '/'
    · simp [hc]
    · simp [hc, pieces]

theorem pieces_of_noSlash (h : '/' ∉ cs) : pieces cs = [cs] := by
  induction cs with
  | nil => rfl
  | cons c cs ih =>
    obtain ⟨hc, hcs⟩ := not_or.1 (List.mem_cons.not.1 h)
    rw [pieces_cons, if_neg (Ne.symm hc), ih hcs]
    rfl

theorem noSlash_of_mem_pieces (h : piece ∈ pieces cs) : '/' ∉ piece := by
  induction cs generalizing piece with
  | nil =>
    obtain rfl : piece = [] := by simpa [pieces] using h
    simp
  | cons c cs ih =>
    rw [pieces_cons] at h
    by_cases hc : c = '/'
    · rw [if_pos hc] at h
      rcases List.mem_cons.1 h with rfl | h
      · simp
      · exact ih h
    · rw [if_neg hc] at h
      rcases List.mem_cons.1 h with rfl | h
      · have hhead : (pieces cs).headD [] ∈ pieces cs := by simp [pieces]
        simpa [Ne.symm hc] using ih hhead
      · exact ih (List.mem_of_mem_tail h)

/-- The last step of a path is the last of its names. -/
theorem fileName?_of_last (h : (FileTree.Route.ofPath path).names.getLast? = some name)
    (hdot : name ≠ ".") (hdots : name ≠ "..") : fileName? path = some name.toList := by
  have hpiece : ((pieces path.toList).filter (· ≠ [])).getLast? = some name.toList := by
    rw [FileTree.Route.ofPath, List.getLast?_map] at h
    obtain ⟨piece, hpiece, rfl⟩ := Option.map_eq_some_iff.1 h
    rwa [String.toList_ofList]
  obtain ⟨before, hbefore⟩ := List.getLast?_eq_some_iff.1 hpiece
  have hdot' : name.toList ≠ ['.'] := fun h => hdot (String.toList_inj.1 h)
  have hdots' : name.toList ≠ ['.', '.'] := fun h => hdots (String.toList_inj.1 h)
  have hsteps : (pieces path.toList).filter (fun p => p ≠ [] ∧ p ≠ ['.']) =
      before.filter (· ≠ ['.']) ++ [name.toList] := by
    have hboth : (pieces path.toList).filter (fun p => p ≠ [] ∧ p ≠ ['.']) =
        ((pieces path.toList).filter (· ≠ [])).filter (· ≠ ['.']) := by
      rw [List.filter_filter]
      refine List.filter_congr fun p _ => ?_
      simp [Bool.and_comm]
    rw [hboth, hbefore, List.filter_append]
    simp [hdot']
  have hlast : (parts path).getLast? = some (.name name.toList) := by
    unfold parts
    simp only
    rw [hsteps, List.map_append, ← List.append_assoc]
    simp [Part.ofPiece, hdots']
  unfold fileName?
  rw [hlast]

end Path

/-- The type of a path is that of its last name. -/
theorem Settings.allows_congr (s : Settings) {path other : String}
    (h : Path.fileName? path = Path.fileName? other) : s.allows path = s.allows other := by
  unfold Settings.allows Path.extension?
  rw [h]

namespace FileTree

variable {t : FileTree} {l k : Location} {names : List String} {name path : String}
variable {content : Bytes}

/-- The path of a location from the root. -/
def pathOf (l : Location) : String := l.foldl (fun path name => path ++ "/" ++ name) ""

theorem pathOf_concat (l : Location) (name : String) :
    pathOf (l ++ [name]) = pathOf l ++ "/" ++ name := by
  simp [pathOf, List.foldl_append]

/-- A location's path ends in its name. -/
theorem names_pathOf (hslash : '/' ∉ name.toList) (hname : name ≠ "") :
    (Route.ofPath (pathOf (l ++ [name]))).names.getLast? = some name := by
  have hnil : name.toList ≠ [] := fun h => hname (String.toList_eq_nil_iff.1 h)
  have hpieces : Path.pieces (pathOf (l ++ [name])).toList =
      Path.pieces (pathOf l).toList ++ [name.toList] := by
    rw [pathOf_concat, String.toList_append, String.toList_append, List.append_assoc]
    rw [← Path.pieces_of_noSlash hslash]
    exact Path.pieces_append _ _
  rw [Route.ofPath, hpieces, List.filter_append]
  simp [hnil]

theorem Route.name_of_mem (h : name ∈ (Route.ofPath path).names) :
    '/' ∉ name.toList ∧ name ≠ "" := by
  obtain ⟨piece, hpiece, rfl⟩ := List.mem_map.1 h
  obtain ⟨hmem, hne⟩ := List.mem_filter.1 hpiece
  refine ⟨by simpa using Path.noSlash_of_mem_pieces hmem, ?_⟩
  simpa using hne

/-- A relative path has a name. -/
theorem Route.names_ne_nil (hpath : path.isEmpty = false)
    (habs : (Route.ofPath path).absolute = false) : (Route.ofPath path).names ≠ [] := by
  cases hcs : path.toList with
  | nil => simp_all
  | cons c cs =>
    have hc : c ≠ '/' := by simpa [Route.ofPath, hcs] using habs
    simp [Route.ofPath, hcs, Path.pieces_cons, hc]

/-- What leads to a file ends in its name. A dot at the end would lead to a directory. -/
theorem Leads.lastName (ht : t.Plain) (h : t.Leads l names (.found k (.file content)))
    (hne : names ≠ []) : ∃ name, names.getLast? = some name ∧ k.getLast? = some name ∧
      IsName name := by
  have hfile := h.get?_of_found
  have hnil : ∀ {j}, t.get? j = some .dir → ¬ t.Leads j [] (.found k (.file content)) := by
    intro j hj h
    cases h with
    | arrived h => simp [hj] at h
  generalize hp : Place.found k (.file content) = p at h
  induction h with
  | arrived => exact absurd rfl hne
  | free => cases hp
  | @here j rest _ hj hrest ih =>
    subst hp
    have hrest' : rest ≠ [] := by
      rintro rfl
      exact hnil hj hrest
    rw [List.getLast?_cons_of_ne_nil hrest']
    exact ih hrest' rfl
  | @up j rest _ hj hrest ih =>
    subst hp
    have hrest' : rest ≠ [] := by
      rintro rfl
      exact hnil (ht.rooted _ _ hj) hrest
    rw [List.getLast?_cons_of_ne_nil hrest']
    exact ih hrest' rfl
  | @child j name rest _ _ hj hn hc hrest ih =>
    subst hp
    by_cases hrest' : rest = []
    · subst hrest'
      cases hrest
      exact ⟨name, rfl, List.getLast?_concat, hn⟩
    · rw [List.getLast?_cons_of_ne_nil hrest']
      exact ih hrest' rfl

/-- All paths that lead to a file are admitted, or none. -/
theorem Reaches.allows (ht : t.Plain) (h : t.Reaches path (.found l (.file content)))
    (s : Settings) : s.allows path = s.allows (pathOf l) := by
  have hnames : (Route.ofPath path).names ≠ [] := by
    cases habs : (Route.ofPath path).absolute with
    | false => exact Route.names_ne_nil h.isPath.nonempty habs
    | true =>
      intro hnil
      have hleads := h.leads
      rw [hnil, Route.start, if_pos habs] at hleads
      cases hleads with
      | arrived h => simp at h
  obtain ⟨name, hlast, hl, hn⟩ := h.leads.lastName ht hnames
  obtain ⟨hslash, hname⟩ := Route.name_of_mem (List.mem_of_getLast? hlast)
  obtain ⟨above, rfl⟩ := List.getLast?_eq_some_iff.1 hl
  refine s.allows_congr ?_
  rw [Path.fileName?_of_last hlast hn.ne_dot hn.ne_dots,
    Path.fileName?_of_last (names_pathOf hslash hname) hn.ne_dot hn.ne_dots]

end FileTree

end ScriptSandbox
