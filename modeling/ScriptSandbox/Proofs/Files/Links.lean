import ScriptSandbox.Proofs.Files.Walks

/-!
# Where paths lead through links

In any tree, whatever is in it, where a walk ends is a relation with one rule for each kind of step
(`Goes`, `walk_eq_ok_iff_goes`). A file that is put where a walk ends is found there
(`Goes.of_set`), and a walk that follows no link at its end ends at an entry without which nothing
is found (`Goes.not_erased`).
-/

namespace ScriptSandbox.FileTree

variable {t t' : FileTree} {follow : Bool} {n : Nat} {l k : Location} {e : Entry}
  {names : List String} {p : Place} {path : String}

/-! ## Steps -/

/-- Where the names of a link begin that stands in a directory. -/
def linkStart (l : Location) (target : String) : Location :=
  if (Route.ofPath target).absolute then [] else l

/-- From a location these names lead to a place through at most `n` links. `follow` says whether a
link at the end is followed. -/
inductive Goes (t : FileTree) (follow : Bool) : Nat → Location → List String → Place → Prop
  | arrived {n : Nat} {l : Location} {e : Entry} (h : t.get? l = some e) :
      Goes t follow n l [] (.found l e)
  | here {n : Nat} {l : Location} {rest : List String} {p : Place} (h : t.get? l = some .dir)
      (hp : Goes t follow n l rest p) : Goes t follow n l ("." :: rest) p
  | up {n : Nat} {l : Location} {rest : List String} {p : Place} (h : t.get? l = some .dir)
      (hp : Goes t follow n l.dropLast rest p) : Goes t follow n l (".." :: rest) p
  | free {n : Nat} {l : Location} {name : String} (h : t.get? l = some .dir) (hn : IsName name)
      (hc : t.get? (l ++ [name]) = none) : Goes t follow n l [name] (.free (l ++ [name]))
  | child {n : Nat} {l : Location} {name : String} {rest : List String} {p : Place} {e : Entry}
      (h : t.get? l = some .dir) (hn : IsName name) (hc : t.get? (l ++ [name]) = some e)
      (hlink : ∀ target, e ≠ .link target) (hp : Goes t follow n (l ++ [name]) rest p) :
      Goes t follow n l (name :: rest) p
  | stopped {n : Nat} {l : Location} {name target : String} (h : t.get? l = some .dir)
      (hn : IsName name) (hc : t.get? (l ++ [name]) = some (.link target))
      (hfollow : follow = false) :
      Goes t follow n l [name] (.found (l ++ [name]) (.link target))
  | linked {n : Nat} {l : Location} {name target : String} {rest : List String} {p : Place}
      (h : t.get? l = some .dir) (hn : IsName name)
      (hc : t.get? (l ++ [name]) = some (.link target)) (hon : rest ≠ [] ∨ follow = true)
      (hp : Goes t follow n (linkStart l target) ((Route.ofPath target).names ++ rest) p) :
      Goes t follow (n + 1) l (name :: rest) p

theorem eq_dir_of_isDir (h : ¬ (!e.isDir) = true) : e = .dir := by
  cases e <;> simp_all [Entry.isDir]

theorem goes_of_walk (h : t.walk follow n l names = .ok p) : t.Goes follow n l names p := by
  fun_induction t.walk follow n l names with
  | case1 n l e he =>
    obtain rfl := Except.ok.inj h
    exact .arrived he
  | case2 | case3 | case4 | case7 | case9 | case11 => exact nomatch h
  | case5 n l rest e he hdir ih =>
    obtain rfl := eq_dir_of_isDir hdir
    exact .here he (ih h)
  | case6 n l rest e he hdir _ ih =>
    obtain rfl := eq_dir_of_isDir hdir
    exact .up he (ih h)
  | case8 n l name e he hdir hdot hdots hsize _ hc =>
    obtain rfl := eq_dir_of_isDir hdir
    obtain rfl := Except.ok.inj h
    exact .free he ⟨hdot, hdots, Nat.le_of_not_lt hsize⟩ hc
  | case10 n l name rest e he hdir hdot hdots hsize _ target hc hend =>
    obtain rfl := eq_dir_of_isDir hdir
    obtain rfl := Except.ok.inj h
    obtain ⟨rfl, hfollow⟩ := hend
    exact .stopped he ⟨hdot, hdots, Nat.le_of_not_lt hsize⟩ hc (by simpa using hfollow)
  | case12 l name rest e he hdir hdot hdots hsize _ target hc hend n _ ih =>
    obtain rfl := eq_dir_of_isDir hdir
    exact .linked he ⟨hdot, hdots, Nat.le_of_not_lt hsize⟩ hc
      (by simpa [or_iff_not_imp_left] using hend) (ih h)
  | case13 n l name rest e he hdir hdot hdots hsize _ c hlink hc ih =>
    obtain rfl := eq_dir_of_isDir hdir
    exact .child he ⟨hdot, hdots, Nat.le_of_not_lt hsize⟩ hc hlink (ih h)

theorem walk_of_goes (h : t.Goes follow n l names p) : t.walk follow n l names = .ok p := by
  induction h with
  | arrived h => rw [walk, h]
  | here h _ ih =>
    rw [walk, h]
    simpa [Entry.isDir] using ih
  | up h _ ih =>
    rw [walk, h]
    simpa [Entry.isDir] using ih
  | free h hn hc =>
    rw [walk, h]
    simp [Entry.isDir, hn.ne_dot, hn.ne_dots, Nat.not_lt.2 hn.size, hc]
  | @child _ _ _ _ _ e h hn hc hlink _ ih =>
    rw [walk, h]
    have hsize := Nat.not_lt.2 hn.size
    cases e with
    | link target => exact absurd rfl (hlink target)
    | file | dir | sink =>
      simpa [Entry.isDir, hn.ne_dot, hn.ne_dots, hsize, hc] using ih
  | stopped h hn hc hfollow =>
    rw [walk, h]
    simp [Entry.isDir, hn.ne_dot, hn.ne_dots, Nat.not_lt.2 hn.size, hc, hfollow]
  | @linked _ _ _ _ rest _ h hn hc hon _ ih =>
    have hgoes : ¬ (rest = [] ∧ follow = false) := by simpa [or_iff_not_imp_left] using hon
    have hsize := Nat.not_lt.2 hn.size
    rw [walk, h]
    simpa [Entry.isDir, hn.ne_dot, hn.ne_dots, hsize, hc, hgoes, linkStart] using ih

theorem walk_eq_ok_iff_goes : t.walk follow n l names = .ok p ↔ t.Goes follow n l names p :=
  ⟨goes_of_walk, walk_of_goes⟩

theorem Goes.of_dot {name : String} (h : t.Goes follow n l (name :: names) p)
    (hname : name = ".") : t.Goes follow n l names p := by
  cases h with
  | here _ h => exact h
  | up => exact absurd hname (by decide)
  | free _ hn | child _ hn | stopped _ hn | linked _ hn => exact absurd hname hn.ne_dot

theorem Goes.of_dots {name : String} (h : t.Goes follow n l (name :: names) p)
    (hname : name = "..") : t.Goes follow n l.dropLast names p := by
  cases h with
  | here => exact absurd hname (by decide)
  | up _ h => exact h
  | free _ hn | child _ hn | stopped _ hn | linked _ hn => exact absurd hname hn.ne_dots

/-- What a place says of its location is so. -/
def Place.Stands (t : FileTree) : Place → Prop
  | .found k e => t.get? k = some e
  | .free k => k ≠ [] ∧ t.get? k = none

theorem Goes.stands (h : t.Goes follow n l names p) : p.Stands t := by
  induction h with
  | arrived h => exact h
  | free h hn hc => exact ⟨by simp, hc⟩
  | stopped h hn hc => exact hc
  | here _ _ ih | up _ _ ih | child _ _ _ _ _ ih | linked _ _ _ _ _ ih => exact ih

/-! ## Changes at the end -/

/-- A file can be only where no directory is. -/
theorem TakesFile.get?_of_stands {old : Bytes} (hp : TakesFile k p old) (h : p.Stands t) :
    t.get? k = some (.file old) ∨ t.get? k = none := by
  cases hp with
  | file => exact .inl h
  | free => exact .inr h.2

/-- A file that is put where a walk ends is found there. -/
theorem Goes.of_set {old content : Bytes} (hp : TakesFile k p old)
    (h : t.Goes true n l names p) :
    (t.set k (.file content)).Goes true n l names (.found k (.file content)) := by
  have hold := hp.get?_of_stands h.stands
  have hk : k ≠ [] := by
    rintro rfl
    simp at hold
  -- All that a walk passes is there as before: what it goes through is no file.
  have hkeeps : ∀ j e, t.get? j = some e → (∀ c, e ≠ .file c) →
      (t.set k (.file content)).get? j = some e := by
    intro j e hj hfile
    rw [get?_set hk, if_neg, hj]
    rintro rfl
    rcases hold with hold | hold <;> rw [hold] at hj
    · exact hfile old (Option.some.inj hj).symm
    · exact nomatch hj
  have hdir : ∀ j, t.get? j = some .dir → (t.set k (.file content)).get? j = some .dir :=
    fun j hj => hkeeps j _ hj (by simp)
  induction h with
  | arrived h =>
    cases hp
    exact .arrived (get?_set_self hk)
  | here h _ ih => exact .here (hdir _ h) (ih hp)
  | up h _ ih => exact .up (hdir _ h) (ih hp)
  | free h hn hc =>
    cases hp
    exact .child (hdir _ h) hn (get?_set_self hk) (by simp) (.arrived (get?_set_self hk))
  | @child _ j name _ _ e h hn hc hlink _ ih =>
    by_cases hj : j ++ [name] = k
    · exact .child (hdir _ h) hn (by rw [get?_set hk, if_pos hj]) (by simp) (ih hp)
    · exact .child (hdir _ h) hn (by rw [get?_set hk, if_neg hj, hc]) hlink (ih hp)
  | stopped _ _ _ hfollow => exact nomatch hfollow
  | linked h hn hc hon _ ih =>
    exact .linked (hdir _ h) hn (hkeeps _ _ hc (by simp)) hon (ih hp)

/-- A walk that does not follow a link at its end finds such a link, or what a walk finds that
does. -/
theorem Goes.unfollowed (h : t.Goes true n l names (.found k e)) (he : e ≠ .dir) :
    ∃ k' e', t.Goes false n l names (.found k' e') ∧ e' ≠ .dir := by
  generalize hp : Place.found k e = p at h
  induction h with
  | arrived h =>
    obtain ⟨rfl, rfl⟩ := Place.found.inj hp
    exact ⟨k, e, .arrived h, he⟩
  | here h _ ih =>
    obtain ⟨k', e', hgoes, he'⟩ := ih hp
    exact ⟨k', e', .here h hgoes, he'⟩
  | up h _ ih =>
    obtain ⟨k', e', hgoes, he'⟩ := ih hp
    exact ⟨k', e', .up h hgoes, he'⟩
  | free => exact nomatch hp
  | child h hn hc hlink _ ih =>
    obtain ⟨k', e', hgoes, he'⟩ := ih hp
    exact ⟨k', e', .child h hn hc hlink hgoes, he'⟩
  | stopped _ _ _ hfollow => exact nomatch hfollow
  | @linked _ _ _ _ rest _ h hn hc _ _ ih =>
    by_cases hrest : rest = []
    · subst hrest
      exact ⟨_, _, .stopped h hn hc rfl, by simp⟩
    · obtain ⟨k', e', hgoes, he'⟩ := ih hp
      exact ⟨k', e', .linked h hn hc (.inl hrest) hgoes, he'⟩

theorem get?_eraseAll (hl : l ≠ []) :
    (t.eraseAll k).get? l = if k <+: l then none else t.get? l := by
  rw [eraseAll, get?_filter (fun l => !k.isPrefixOf l) hl]
  by_cases h : k <+: l
  · simp [h, List.isPrefixOf_iff_prefix.2 h]
  · simp [h]

theorem get?_of_eraseAll (h : (t.eraseAll k).get? l = some e) : t.get? l = some e := by
  by_cases hl : l = []
  · subst hl
    exact h
  · rw [get?_eraseAll hl] at h
    split at h
    · exact nomatch h
    · exact h

/-- A walk that comes to a name and follows links goes on from an entry of that name. -/
theorem Goes.of_name {name : String} (h : t.Goes true n l (name :: names) (.found k e))
    (hn : IsName name) : ∃ c, t.get? (l ++ [name]) = some c ∧
      ((∀ target, c ≠ .link target) ∧ t.Goes true n (l ++ [name]) names (.found k e) ∨
        ∃ m target, n = m + 1 ∧ c = .link target ∧ t.Goes true m (linkStart l target)
          ((Route.ofPath target).names ++ names) (.found k e)) := by
  cases h with
  | here => exact absurd rfl hn.ne_dot
  | up => exact absurd rfl hn.ne_dots
  | child _ _ hc hlink h => exact ⟨_, hc, .inl ⟨hlink, h⟩⟩
  | stopped _ _ _ hfollow => exact nomatch hfollow
  | linked _ _ hc _ h => exact ⟨_, hc, .inr ⟨_, _, rfl, rfl, h⟩⟩

/-- When what a walk ends at is gone, and the directories and links are none other that are still
there, the walk finds nothing. -/
theorem Goes.not_gone {l' : Location} {e' : Entry} (h : t.Goes false n l names (.found k e))
    (hgone : t'.get? k = none)
    (hdirs : ∀ j c, t.get? j = some .dir → t'.get? j = some c → c = .dir)
    (hlinks : ∀ j target c, t.get? j = some (.link target) → t'.get? j = some c → c = .link target) :
    ¬ t'.Goes true n l names (.found l' e') := by
  generalize hp : Place.found k e = p at h
  induction h with
  | arrived h =>
    obtain ⟨rfl, -⟩ := Place.found.inj hp
    intro h'
    cases h' with
    | arrived h' => exact nomatch hgone.symm.trans h'
  | here _ _ ih => exact fun h' => ih hp (h'.of_dot rfl)
  | up _ _ ih => exact fun h' => ih hp (h'.of_dots rfl)
  | free => exact nomatch hp
  | @child _ _ _ _ _ c _ hn hc hlink hrest ih =>
    intro h'
    obtain ⟨c', hc', ⟨-, h'⟩ | ⟨m, target, rfl, rfl, -⟩⟩ := h'.of_name hn
    · exact ih hp h'
    · by_cases hdir : c = .dir
      · subst hdir
        exact nomatch hdirs _ _ hc hc'
      · -- what is no directory is where the walk ends
        subst hp
        cases hrest with
        | arrived => exact nomatch hgone.symm.trans hc'
        | here h | up h | child h | stopped h | linked h => exact hdir (Option.some.inj (hc.symm.trans h))
  | stopped _ hn hc =>
    obtain ⟨rfl, -⟩ := Place.found.inj hp
    intro h'
    obtain ⟨c, hc', -⟩ := h'.of_name hn
    exact nomatch hgone.symm.trans hc'
  | linked _ hn hc _ _ ih =>
    intro h'
    obtain ⟨c, hc', ⟨hlink, -⟩ | ⟨m, target, hm, rfl, h'⟩⟩ := h'.of_name hn
    · exact hlink _ (hlinks _ _ _ hc hc')
    · obtain rfl := Nat.succ.inj hm
      obtain rfl := Entry.link.inj (hlinks _ _ _ hc hc')
      exact ih hp h'

/-- When what a walk ends at is taken away, the walk finds nothing. -/
theorem Goes.not_erased {l' : Location} {e' : Entry} (h : t.Goes false n l names (.found k e))
    (hk : k ≠ []) : ¬ (t.eraseAll k).Goes true n l names (.found l' e') := by
  have hsame {j : Location} {c c' : Entry} (hj : t.get? j = some c)
      (hj' : (t.eraseAll k).get? j = some c') : c' = c :=
    Option.some.inj ((get?_of_eraseAll hj').symm.trans hj)
  exact h.not_gone (by rw [get?_eraseAll hk, if_pos (List.prefix_refl k)])
    (fun _ _ => hsame) fun _ _ _ => hsame

/-! ## Paths -/

variable {image : Bytes}

theorem goes_of_resolve (h : t.resolve path true = .ok p) :
    t.Goes true maxLinks (Route.ofPath path).start (Route.ofPath path).names p := by
  simpa using goes_of_walk (resolve_eq_ok_iff_walk.1 h).2.1

/-- With a slash at its end a path leads to a directory. -/
theorem not_directory_of_found (h : t.resolve path follow = .ok (.found k e)) (he : e ≠ .dir) :
    (Route.ofPath path).directory = false := by
  cases hd : (Route.ofPath path).directory with
  | false => rfl
  | true =>
    have hdir := (resolve_eq_ok_iff_walk.1 h).2.2 hd k e rfl
    cases e <;> simp_all [Entry.isDir]

theorem resolve_of_goes (hpath : IsPath path) (hslash : (Route.ofPath path).directory = false)
    (h : t.Goes follow maxLinks (Route.ofPath path).start (Route.ofPath path).names p) :
    t.resolve path follow = .ok p :=
  resolve_eq_ok_iff_walk.2
    ⟨hpath, by rw [hslash, Bool.or_false]; exact walk_of_goes h, by simp [hslash]⟩

theorem resolve_of_stat (h : t.stat path = .ok e) :
    ∃ k, t.resolve path true = .ok (.found k e) := by
  unfold stat at h
  split at h
  · rename_i k _ hresolve
    obtain rfl := Except.ok.inj h
    exact ⟨k, hresolve⟩
  · exact nomatch h
  · exact nomatch h

/-- Where a file can be, it is written and then found. -/
theorem write_of_takesFile {old : Bytes} (h : t.resolve path true = .ok p)
    (hp : TakesFile k p old) (hslash : (Route.ofPath path).directory = false) (image : Bytes) :
    t.write path image = .ok (t.set k (.file image)) ∧
      (t.set k (.file image)).stat path = .ok (.file image) := by
  have hfound : (t.set k (.file image)).resolve path true = .ok (.found k (.file image)) :=
    resolve_of_goes (resolve_eq_ok_iff_walk.1 h).1 hslash ((goes_of_resolve h).of_set hp)
  refine ⟨?_, by rw [stat, hfound]⟩
  cases hp <;> simp [write, change, h, hslash]

/-- Where something has been written, there is something that is no directory; if it is a file, it
holds what has been written. -/
theorem stat_of_write (h : t.write path image = .ok t') :
    ∃ e, t'.stat path = .ok e ∧ e ≠ .dir ∧ ∀ content, e = .file content → content = image := by
  have hfile (content : Bytes) : Entry.file image = .file content → content = image :=
    fun h => (Entry.file.inj h).symm
  rw [write, change] at h
  cases hresolve : t.resolve path true with
  | error e =>
    rw [hresolve] at h
    exact nomatch h
  | ok p =>
    rw [hresolve] at h
    rcases p with ⟨k, old | _ | _ | _⟩ | k
    · obtain rfl := Except.ok.inj h
      exact ⟨_, (write_of_takesFile hresolve (.file old)
        (not_directory_of_found hresolve (by simp)) image).2, by simp, hfile⟩
    · exact nomatch h
    · obtain rfl : t = t' := Except.ok.inj h
      exact ⟨_, by rw [stat, hresolve], by simp, by simp⟩
    · obtain rfl : t = t' := Except.ok.inj h
      exact ⟨_, by rw [stat, hresolve], by simp, by simp⟩
    · dsimp only at h
      split at h
      · exact nomatch h
      · rename_i hslash
        obtain rfl := Except.ok.inj h
        exact ⟨_, (write_of_takesFile hresolve .free (eq_false_of_ne_true hslash) image).2,
          by simp, hfile⟩

/-- An entry that is no directory can be taken away, and then the path leads nowhere. -/
theorem removeFile_of_stat (h : t.stat path = .ok e) (he : e ≠ .dir) :
    ∃ t', t.removeFile path = .ok t' ∧ ∀ e', t'.stat path ≠ .ok e' := by
  obtain ⟨k, hresolve⟩ := resolve_of_stat h
  obtain ⟨hpath, -, -⟩ := resolve_eq_ok_iff_walk.1 hresolve
  obtain ⟨k', e', hgoes, he'⟩ := (goes_of_resolve hresolve).unfollowed he
  have hunfollowed : t.resolve path false = .ok (.found k' e') :=
    resolve_of_goes hpath (not_directory_of_found hresolve he) hgoes
  have hk' : k' ≠ [] := by
    rintro rfl
    exact he' (Option.some.inj hgoes.stands).symm
  refine ⟨t.eraseAll k', ?_, fun e₂ hstat => ?_⟩
  · unfold removeFile
    rw [hunfollowed]
    cases e' with
    | dir => exact absurd rfl he'
    | file | link | sink => rfl
  · obtain ⟨k₂, hresolve₂⟩ := resolve_of_stat hstat
    exact hgoes.not_erased hk' (goes_of_resolve hresolve₂)

end ScriptSandbox.FileTree
