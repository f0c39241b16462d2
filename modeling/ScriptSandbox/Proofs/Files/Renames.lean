import ScriptSandbox.Proofs.Files.Descent
import ScriptSandbox.Proofs.Files.Links

/-!
# Renaming

Two paths that differ in their last names only lead into one directory (`Goes.parent`). When an
entry of it gets another name there, everything at and below the entry is at and below the new name,
and all else is as it was (`Moved`, `moved_of_rename`). The old path then leads nowhere
(`Moved.not_goes`).
-/

namespace ScriptSandbox.FileTree

variable {t t' : FileTree} {n : Nat} {d k l l' : Location} {e e' : Entry} {p : Place}
variable {names front rest : List String} {name a b : String} {source target : String}

/-- Where a path leads that has no slash at its end. -/
theorem goes_of_route {path : String} {absolute follow : Bool}
    (hroute : Route.ofPath path = ⟨absolute, names, false⟩) (h : t.resolve path follow = .ok p) :
    t.Goes follow maxLinks (if absolute then [] else home) names p := by
  obtain ⟨-, hwalk, -⟩ := resolve_eq_ok_iff_walk.1 h
  rw [hroute, Bool.or_false] at hwalk
  exact goes_of_walk hwalk

/-! ## The last name -/

/-- A place is the entry at a location, or the location if nothing is there. -/
def Place.Is (t : FileTree) (k : Location) (p : Place) : Prop :=
  (t.get? k = none ∧ p = .free k) ∨ ∃ e, t.get? k = some e ∧ p = .found k e

/-- Where names lead of which the last is no dot, the others lead to a directory, and the last is a
name in it. -/
theorem Goes.parent (h : t.Goes false n l (front ++ [name]) p) (hdot : name ≠ ".")
    (hdots : name ≠ "..") :
    ∃ d, t.Goes true n l front (.found d .dir) ∧ p.Is t (d ++ [name]) := by
  generalize hnames : front ++ [name] = names at h
  induction h generalizing front with
  | arrived => simp at hnames
  | here hl _ ih =>
    cases front with
    | nil => exact absurd (List.cons.inj hnames).1 hdot
    | cons first front =>
      obtain ⟨rfl, hrest⟩ := List.cons.inj hnames
      obtain ⟨d, hgoes, hp⟩ := ih hrest
      exact ⟨d, .here hl hgoes, hp⟩
  | up hl _ ih =>
    cases front with
    | nil => exact absurd (List.cons.inj hnames).1 hdots
    | cons first front =>
      obtain ⟨rfl, hrest⟩ := List.cons.inj hnames
      obtain ⟨d, hgoes, hp⟩ := ih hrest
      exact ⟨d, .up hl hgoes, hp⟩
  | @free _ l _ hl hn hc =>
    obtain rfl : front = [] := by simpa using congrArg List.length hnames
    obtain ⟨rfl, -⟩ := List.cons.inj hnames
    exact ⟨l, .arrived hl, .inl ⟨hc, rfl⟩⟩
  | @child _ l _ _ _ e hl hn hc hlink hp ih =>
    cases front with
    | nil =>
      obtain ⟨rfl, rfl⟩ := List.cons.inj hnames
      cases hp with
      | arrived h => exact ⟨l, .arrived hl, .inr ⟨_, h, rfl⟩⟩
    | cons first front =>
      obtain ⟨rfl, hrest⟩ := List.cons.inj hnames
      obtain ⟨d, hgoes, hp⟩ := ih hrest
      exact ⟨d, .child hl hn hc hlink hgoes, hp⟩
  | @stopped _ l _ _ hl hn hc _ =>
    obtain rfl : front = [] := by simpa using congrArg List.length hnames
    obtain ⟨rfl, -⟩ := List.cons.inj hnames
    exact ⟨l, .arrived hl, .inr ⟨_, hc, rfl⟩⟩
  | linked hl hn hc hon _ ih =>
    cases front with
    | nil => exact absurd (List.cons.inj hnames).2.symm (hon.resolve_right (by simp))
    | cons first front =>
      obtain ⟨rfl, rfl⟩ := List.cons.inj hnames
      obtain ⟨d, hgoes, hp⟩ := ih (List.append_assoc ..)
      exact ⟨d, .linked hl hn hc (.inr rfl) hgoes, hp⟩

/-- A walk ends in one place. -/
theorem Goes.unique {follow : Bool} {q : Place} (h : t.Goes follow n l names p)
    (h' : t.Goes follow n l names q) : p = q :=
  Except.ok.inj ((walk_of_goes h).symm.trans (walk_of_goes h'))

/-! ## What is moved -/

/-- Everything at and below one location is at and below another, and all else is as it was. -/
structure Moved (l goal : Location) (t t' : FileTree) : Prop where
  there : ∀ rest, t'.get? (goal ++ rest) = t.get? (l ++ rest)
  gone : ∀ rest, t'.get? (l ++ rest) = none
  others : ∀ k, ¬ l <+: k → ¬ goal <+: k → t'.get? k = t.get? k

/-- An entry after a move has been moved, or it was there before and is apart from both places. -/
theorem Moved.origin {goal : Location} (h : Moved l goal t t') (hk : t'.get? k = some e) :
    (∃ rest, k = goal ++ rest ∧ t.get? (l ++ rest) = some e) ∨
      ¬ l <+: k ∧ ¬ goal <+: k ∧ t.get? k = some e := by
  by_cases hgoal : goal <+: k
  · obtain ⟨rest, rfl⟩ := hgoal
    exact .inl ⟨rest, rfl, (h.there rest).symm.trans hk⟩
  · by_cases hl : l <+: k
    · obtain ⟨rest, rfl⟩ := hl
      cases (h.gone rest).symm.trans hk
    · exact .inr ⟨hl, hgoal, (h.others k hl hgoal).symm.trans hk⟩

/-- The entries below a location, below another. -/
theorem lookup_moved (l goal k : Location) (entries : List (Location × Entry)) :
    (entries.filterMap fun a =>
      if l.isPrefixOf a.1 then some (goal ++ a.1.drop l.length, a.2) else none).lookup k =
      if goal <+: k then entries.lookup (l ++ k.drop goal.length) else none := by
  induction entries with
  | nil => simp
  | cons a entries ih =>
    obtain ⟨j, e⟩ := a
    rw [List.filterMap_cons]
    by_cases hj : l <+: j
    · obtain ⟨rest, rfl⟩ := hj
      simp only [List.isPrefixOf_iff_prefix.2 (List.prefix_append l rest), if_true,
        List.drop_left, List.lookup_cons, ih]
      by_cases hk : goal <+: k
      · obtain ⟨rest', rfl⟩ := hk
        by_cases hrest : rest' = rest
        · subst hrest
          simp
        · simp [hrest, beq_false_of_ne]
      · have hne : k ≠ goal ++ rest := by
          rintro rfl
          exact hk (List.prefix_append ..)
        simp [hk, beq_false_of_ne hne]
    · have hj' : l.isPrefixOf j = false := by
        rw [← Bool.not_eq_true, List.isPrefixOf_iff_prefix]
        exact hj
      simp only [hj', Bool.false_eq_true, if_false, ih]
      split
      · have hne : l ++ k.drop goal.length ≠ j := by
          rintro rfl
          exact hj (List.prefix_append ..)
        rw [List.lookup_cons, beq_false_of_ne hne]
      · rfl

/-- Names in one directory are not below one another. -/
theorem sibling_not_above (hne : a ≠ b) (rest : List String) :
    ¬ d ++ [a] <+: (d ++ [b]) ++ rest := by
  rw [List.append_assoc, List.prefix_append_right_inj, List.singleton_append, List.cons_prefix_cons]
  exact fun h => hne h.1

/-- A tree with everything at and below one location moved to another. -/
def move (t : FileTree) (l goal : Location) : FileTree :=
  ⟨((t.eraseAll goal).eraseAll l).entries ++ t.entries.filterMap fun a =>
    if l.isPrefixOf a.1 then some (goal ++ a.1.drop l.length, a.2) else none⟩

theorem get?_move (hl : l ≠ []) (goal : Location) (hgoal : goal ≠ []) (k : Location) :
    (t.move l goal).get? k =
      if l <+: k ∨ goal <+: k then
        if goal <+: k then t.get? (l ++ k.drop goal.length) else none
      else t.get? k := by
  by_cases hk : k = []
  · subst hk
    simp [hl, hgoal]
  · have hne : l ++ k.drop goal.length ≠ [] := by simp [hl]
    rw [get?_of_ne_nil hk, move, List.lookup_append, lookup_moved, ← get?_of_ne_nil hk,
      get?_eraseAll hk, get?_eraseAll hk, get?_of_ne_nil hne]
    by_cases hlk : l <+: k <;> by_cases hgk : goal <+: k <;> simp [hlk, hgk]

theorem moved_move (hne : a ≠ b) :
    Moved (d ++ [a]) (d ++ [b]) t (t.move (d ++ [a]) (d ++ [b])) where
  there rest := by
    rw [get?_move (by simp) _ (by simp), if_pos (.inr (List.prefix_append ..)),
      if_pos (List.prefix_append ..), List.drop_left]
  gone rest := by
    rw [get?_move (by simp) _ (by simp), if_pos (.inl (List.prefix_append ..)),
      if_neg (sibling_not_above (Ne.symm hne) rest)]
  others k hl hgoal := by
    rw [get?_move (by simp) _ (by simp), if_neg (not_or.2 ⟨hl, hgoal⟩)]

/-- Renaming moves an entry, and a directory that it replaces is empty and replaced by another. -/
theorem moved_of_rename (hne : a ≠ b) (hsource : t.resolve source false = .ok (.found (d ++ [a]) e))
    (htarget : t.resolve target false = .ok p) (hp : p.Is t (d ++ [b]))
    (h : t.rename source target = .ok t') : Moved (d ++ [a]) (d ++ [b]) t t' ∧
      (t.get? (d ++ [b]) = some .dir → e = .dir ∧ t.children (d ++ [b]) = []) := by
  have hapart : d ++ [a] ≠ d ++ [b] := by simpa using hne
  unfold rename at h
  rw [hsource, htarget] at h
  rcases hp with ⟨hnone, rfl⟩ | ⟨old, hold, rfl⟩
  · dsimp only at h
    rw [if_neg hapart] at h
    obtain rfl := Except.ok.inj h
    exact ⟨moved_move hne, fun hdir => nomatch hnone.symm.trans hdir⟩
  · dsimp only at h
    rw [if_neg hapart] at h
    split at h
    · cases h
    · rename_i hclash
      obtain rfl := Except.ok.inj h
      refine ⟨moved_move hne, fun hdir => ?_⟩
      obtain rfl := Option.some.inj (hold.symm.trans hdir)
      cases e <;> simp_all [Entry.isDir]

/-! ## Trees in which everything stands in a directory -/

/-- Nothing is below what is no directory, or an empty one. -/
theorem Rooted.none_below (ht : t.Rooted) (h : t.get? k = some .dir → t.children k = [])
    (hrest : rest ≠ []) : t.get? (k ++ rest) = none := by
  cases hbelow : t.get? (k ++ rest) with
  | none => rfl
  | some e =>
    exfalso
    obtain ⟨name, rest, rfl⟩ := List.exists_cons_of_ne_nil hrest
    have hempty := h (ht.dir_of_append hrest hbelow)
    obtain ⟨child, hchild⟩ : ∃ child, t.get? (k ++ [name]) = some child := by
      by_cases hlast : rest = []
      · exact ⟨e, by rwa [hlast] at hbelow⟩
      · rw [List.append_cons] at hbelow
        exact ⟨_, ht.dir_of_append hlast hbelow⟩
    have hmem := mem_children hchild
    rw [hempty] at hmem
    cases hmem

theorem Moved.rooted (ht : t.Rooted) (hd : t.get? d = some .dir)
    (h : Moved (d ++ [a]) (d ++ [b]) t t') : t'.Rooted := by
  have habove (c : String) : ¬ d ++ [c] <+: d := fun hp =>
    Nat.not_succ_le_self _ (List.length_append ▸ hp.length_le)
  intro k e hk
  rcases h.origin hk with ⟨rest, rfl, hold⟩ | ⟨hl, hgoal, hold⟩
  · cases rest using List.reverseRecOn with
    | nil =>
      rw [List.append_nil, List.dropLast_concat, h.others d (habove a) (habove b)]
      exact hd
    | append_singleton rest name =>
      rw [← List.append_assoc, List.dropLast_concat, h.there]
      have hparent := ht _ _ hold
      rwa [← List.append_assoc, List.dropLast_concat] at hparent
  · have hup {j : Location} (hj : ¬ j <+: k) : ¬ j <+: k.dropLast := fun hp =>
      hj (hp.trans (List.dropLast_prefix k))
    rw [h.others _ (hup hl) (hup hgoal)]
    exact ht _ _ hold

/-! ## What a move leaves of paths and contents -/

/-- What a tree has at a location to which something can be moved. -/
structure Takes (t : FileTree) (goal : Location) (e : Entry) : Prop where
  dir : t.get? goal = some .dir → e = .dir ∧ t.children goal = []
  notLink : ∀ target, t.get? goal ≠ some (.link target)

/-- Names that led to what has been moved lead nowhere. -/
theorem Moved.not_goes (ht : t.Rooted) (hgoes : t.Goes false n l names (.found (d ++ [a]) e))
    (hgoal : t.Takes (d ++ [b]) e) (h : Moved (d ++ [a]) (d ++ [b]) t t') (k : Location)
    (e' : Entry) : ¬ t'.Goes true n l names (.found k e') := by
  have hnone (rest : List String) (hrest : rest ≠ []) : t.get? ((d ++ [b]) ++ rest) = none :=
    ht.none_below (fun hdir => (hgoal.dir hdir).2) hrest
  -- what is still there is what it was, but for what has taken the place of something
  have hsame : ∀ j c c', t.get? j = some c → t'.get? j = some c' →
      (j = d ++ [b] ∧ c' = e) ∨ c' = c := by
    intro j c c' hj hj'
    rcases h.origin hj' with ⟨rest, rfl, hold⟩ | ⟨-, -, hold⟩
    · by_cases hrest : rest = []
      · subst hrest
        rw [List.append_nil, hgoes.stands] at hold
        exact .inl ⟨List.append_nil _, (Option.some.inj hold).symm⟩
      · exact nomatch (hnone rest hrest).symm.trans hj
    · exact .inr (Option.some.inj (hold.symm.trans hj))
  refine hgoes.not_gone (by simpa using h.gone []) (fun j c hj hj' => ?_)
    fun j target c hj hj' => ?_
  · rcases hsame j _ c hj hj' with ⟨rfl, rfl⟩ | hc
    · exact (hgoal.dir hj).1
    · exact hc
  · rcases hsame j _ c hj hj' with ⟨rfl, -⟩ | hc
    · exact absurd hj (hgoal.notLink target)
    · exact hc

/-- What is in the directory is still in it, unless it had the new name. -/
theorem Moved.kept (h : Moved (d ++ [a]) (d ++ [b]) t t') (hname : t.get? (d ++ [name]) = some e)
    (hb : name ≠ b) : ∃ name', t'.get? (d ++ [name']) = some e := by
  by_cases hlog : name = a
  · subst hlog
    exact ⟨b, by simpa [hname] using h.there []⟩
  · have hapart {c : String} (hc : name ≠ c) : ¬ d ++ [c] <+: d ++ [name] := by
      simpa using sibling_not_above (d := d) (Ne.symm hc) []
    exact ⟨name, by rw [h.others _ (hapart hlog) (hapart hb), hname]⟩

/-! ## Names that a tree knows -/

/-- The name is the last of a location where something is, or the last of where a link leads. -/
def Knows (t : FileTree) (name : String) : Prop :=
  ∃ l e, t.get? l = some e ∧ (l.getLast? = some name ∨
    ∃ target, e = .link target ∧ (Route.ofPath target).names.getLast? = some name)

/-- A free place is right in a directory, by a name that was walked or that a link leads to. -/
theorem Goes.of_free {follow : Bool} (h : t.Goes follow n l names (.free k)) :
    ∃ d name, k = d ++ [name] ∧ t.get? d = some .dir ∧
      (names.getLast? = some name ∨ t.Knows name) := by
  generalize hp : Place.free k = p at h
  induction h with
  | arrived | stopped => cases hp
  | @here _ _ rest _ _ _ ih | @up _ _ rest _ _ _ ih =>
    obtain ⟨d, name, hk, hd, hlast⟩ := ih hp
    exact ⟨d, name, hk, hd, hlast.imp_left fun hlast => by simp [List.getLast?_cons, hlast]⟩
  | free h =>
    obtain rfl := Place.free.inj hp
    exact ⟨_, _, rfl, h, .inl rfl⟩
  | child _ _ _ _ _ ih =>
    obtain ⟨d, name, hk, hd, hlast⟩ := ih hp
    exact ⟨d, name, hk, hd, hlast.imp_left fun hlast => by simp [List.getLast?_cons, hlast]⟩
  | @linked _ _ _ _ rest _ _ _ hc _ _ ih =>
    obtain ⟨d, name, hk, hd, hlast⟩ := ih hp
    refine ⟨d, name, hk, hd, hlast.elim (fun hlast => ?_) .inr⟩
    by_cases hrest : rest = []
    · subst hrest
      rw [List.append_nil] at hlast
      exact .inr ⟨_, _, hc, .inr ⟨_, rfl, hlast⟩⟩
    · rw [List.getLast?_append_of_ne_nil _ hrest] at hlast
      exact .inl (by simp [List.getLast?_cons, hlast])

/-- A write puts a file where none or another one was. -/
theorem set_of_change {path : String} {f : Bytes → Bytes} (h : t.change path f = .ok t') :
    t' = t ∨ ∃ k p old, TakesFile k p old ∧ t.resolve path true = .ok p ∧
      t' = t.set k (.file (f old)) := by
  unfold change at h
  split at h
  · cases h
  · rename_i k old hfound
    exact .inr ⟨k, _, old, .file old, hfound, (Except.ok.inj h).symm⟩
  · cases h
  · exact .inl (Except.ok.inj h).symm
  · rename_i k hfree
    split at h
    · cases h
    · exact .inr ⟨k, _, [], .free, hfree, (Except.ok.inj h).symm⟩

/-- Where a write puts a file there is a directory around it, and the name is known or that of the
path. -/
theorem place_of_write {path : String} {old : Bytes} (ht : t.Rooted) (hp : TakesFile k p old)
    (h : t.resolve path true = .ok p) : k ≠ [] ∧ t.get? k.dropLast = some .dir ∧
      t.get? k ≠ some .dir ∧
      ∀ name, k.getLast? = some name →
        (Route.ofPath path).names.getLast? = some name ∨ t.Knows name := by
  have hgoes := goes_of_resolve h
  have hstands := hgoes.stands
  cases hp with
  | file =>
    have hk : t.get? k = some (.file old) := hstands
    refine ⟨?_, ht _ _ hk, by simp [hk], fun name hname => .inr ⟨_, _, hk, .inl hname⟩⟩
    rintro rfl
    cases hk
  | free =>
    obtain ⟨d, name, rfl, hd, hlast⟩ := hgoes.of_free
    refine ⟨by simp, by rwa [List.dropLast_concat], by simp [hstands.2], fun name' hname => ?_⟩
    rw [List.getLast?_concat] at hname
    exact Option.some.inj hname ▸ hlast

theorem Rooted.change {path : String} {f : Bytes → Bytes} (ht : t.Rooted)
    (h : t.change path f = .ok t') : t'.Rooted := by
  rcases set_of_change h with rfl | ⟨k, p, old, hp, hresolve, rfl⟩
  · exact ht
  · obtain ⟨hk, hparent, hold, -⟩ := place_of_write ht hp hresolve
    exact ht.set hk hparent hold

/-- A write adds no name but that of its path. -/
theorem Knows.of_change {path : String} {f : Bytes → Bytes} (ht : t.Rooted)
    (h : t.change path f = .ok t') (hname : t'.Knows name) :
    t.Knows name ∨ (Route.ofPath path).names.getLast? = some name := by
  rcases set_of_change h with rfl | ⟨k, p, old, hp, hresolve, rfl⟩
  · exact .inl hname
  · obtain ⟨hk, -, -, hlast⟩ := place_of_write ht hp hresolve
    obtain ⟨j, e, hj, hcase⟩ := hname
    rw [get?_set hk] at hj
    split at hj
    · rename_i hjk
      subst hjk
      obtain rfl := Option.some.inj hj
      rcases hcase with hcase | ⟨target, hlink, -⟩
      · exact (hlast name hcase).symm
      · cases hlink
    · exact .inl ⟨j, e, hj, hcase⟩

/-- A move adds no name but the new one. -/
theorem Knows.of_moved (h : Moved (d ++ [a]) (d ++ [b]) t t') (hname : t'.Knows name) :
    t.Knows name ∨ name = b := by
  obtain ⟨j, e, hj, hcase⟩ := hname
  rcases h.origin hj with ⟨rest, rfl, hold⟩ | ⟨-, -, hold⟩
  · rcases hcase with hlast | hlink
    · by_cases hrest : rest = []
      · subst hrest
        rw [List.append_nil, List.getLast?_concat] at hlast
        exact .inr (Option.some.inj hlast).symm
      · rw [List.getLast?_append_of_ne_nil _ hrest] at hlast
        exact .inl ⟨_, e, hold, .inl (by rw [List.getLast?_append_of_ne_nil _ hrest, hlast])⟩
    · exact .inl ⟨_, e, hold, .inr hlink⟩
  · exact .inl ⟨j, e, hold, hcase⟩

end ScriptSandbox.FileTree
