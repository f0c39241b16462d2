import ScriptSandbox.Files.LogRotation
import ScriptSandbox.Proofs.Files.Names
import ScriptSandbox.Proofs.Files.Renames
import ScriptSandbox.Proofs.World.Moments

/-!
# Logs that are moved aside

A rotation moves the log of a service to a name beside it that has the second of the rotation in it,
and touches nothing else. What has that name is replaced. So of all that earlier rotations have left
nothing is lost as long as no two fall into one second (`logs_rotated`), and in one second the log
that was moved first is lost (`not_every_log_kept`).
-/

namespace ScriptSandbox

namespace Path

/-- What is written behind a text without a slash goes to its last piece. -/
theorem pieces_append_noSlash {ds : List Char} (h : '/' ∉ ds) (cs : List Char) :
    pieces (cs ++ ds) = (pieces cs).dropLast ++ [(pieces cs).getLastD [] ++ ds] := by
  induction cs with
  | nil => exact pieces_of_noSlash h
  | cons c cs ih =>
    rw [List.cons_append, pieces_cons, pieces_cons, ih]
    obtain ⟨first, more, hcs⟩ : ∃ first more, pieces cs = first :: more := ⟨_, _, rfl⟩
    rw [hcs]
    by_cases hc : c = '/'
    · simp [hc]
    · cases more <;> simp [hc]

end Path

namespace LogRotation

open FileTree

variable {t t' : FileTree} {directory service : String} {m : Moment}

/-! ## Names -/

/-- What the names of the logs of a service begin with. -/
def stem (service : String) : String := String.ofList ((Path.pieces service.toList).getLastD [])

def logName (service : String) : String := stem service ++ ".log"

/-- The name that a log gets when it is moved aside. -/
def keptName (service : String) (m : Moment) : String := stem service ++ ("." ++ m.stamp ++ ".log")

/-- The paths of the logs of a service lead into one directory. -/
theorem route_log (directory service : String) : ∃ absolute front, ∀ suffix : String,
    '/' ∉ suffix.toList → suffix ≠ "" →
      Route.ofPath (directory ++ "/" ++ service ++ suffix) =
        ⟨absolute, front ++ [stem service ++ suffix], false⟩ := by
  refine ⟨(directory ++ "/").toList.head? = some '/',
    ((Path.pieces directory.toList ++ (Path.pieces service.toList).dropLast).filter (· ≠ [])).map
      String.ofList, fun suffix hslash hne => ?_⟩
  have hne' : suffix.toList ≠ [] := fun h => hne (String.toList_eq_nil_iff.1 h)
  have hpieces : Path.pieces (directory ++ "/" ++ service ++ suffix).toList =
      Path.pieces directory.toList ++ (Path.pieces service.toList).dropLast ++
        [(Path.pieces service.toList).getLastD [] ++ suffix.toList] := by
    have htext : (directory ++ "/" ++ service ++ suffix).toList =
        directory.toList ++ '/' :: (service.toList ++ suffix.toList) := by simp
    rw [htext, Path.pieces_append, Path.pieces_append_noSlash hslash, List.append_assoc]
  have hlast : (directory ++ "/" ++ service ++ suffix).toList.getLast? ≠ some '/' := by
    rw [String.toList_append, List.getLast?_append_of_ne_nil _ hne']
    exact fun h => hslash (List.mem_of_getLast? h)
  have hhead : (directory ++ "/" ++ service ++ suffix).toList.head? =
      (directory ++ "/").toList.head? := by
    have hbase : (directory ++ "/").toList ≠ [] := by simp
    rw [String.append_assoc, String.toList_append, List.head?_append_of_ne_nil _ hbase]
  unfold Route.ofPath
  dsimp only
  rw [hpieces, List.filter_append, List.map_append, hhead, decide_eq_false hlast]
  simp [stem, hne']

/-- The names of the two logs are no dots, and not the same. -/
theorem ne_dots_of_log (s : String) : s ++ ".log" ≠ "." ∧ s ++ ".log" ≠ ".." := by
  have hlength : 4 ≤ (s ++ ".log").length := by
    rw [String.length_append]
    exact Nat.le_add_left 4 _
  constructor <;> intro h <;> rw [h] at hlength <;> exact absurd hlength (by decide)

theorem keptName_eq (service : String) (m : Moment) :
    keptName service m = (stem service ++ "." ++ m.stamp) ++ ".log" := by
  simp [keptName, String.append_assoc]

theorem logName_ne_keptName (service : String) (m : Moment) : logName service ≠ keptName service m := by
  intro h
  have hlength := congrArg String.length h
  simp [logName, keptName] at hlength

/-- Logs are moved to one name only in one second. -/
theorem seconds_of_keptName {m m' : Moment} (h : keptName service m = keptName service m') :
    m.seconds = m'.seconds := by
  rw [keptName_eq, keptName_eq] at h
  exact Moment.stamp_eq_iff.1
    (String.append_right_inj _ |>.1 (String.append_left_inj _ |>.1 h))

theorem noSlash_suffix (m : Moment) : '/' ∉ ("." ++ m.stamp ++ ".log").toList := by
  rw [String.toList_append, String.toList_append, List.mem_append, List.mem_append]
  rintro ((h | h) | h)
  · exact absurd h (by decide)
  · exact m.noSlash_stamp h
  · exact absurd h (by decide)

/-! ## One rotation -/

theorem route_current (directory service : String) : ∃ absolute front,
    Route.ofPath (current directory service) = ⟨absolute, front ++ [logName service], false⟩ ∧
      ∀ m : Moment, Route.ofPath (backup directory service m.stamp) =
        ⟨absolute, front ++ [keptName service m], false⟩ := by
  obtain ⟨absolute, front, hroute⟩ := route_log directory service
  refine ⟨absolute, front, hroute ".log" (by decide) (by decide), fun m => ?_⟩
  have hpath : backup directory service m.stamp =
      directory ++ "/" ++ service ++ ("." ++ m.stamp ++ ".log") := by
    simp [backup, String.append_assoc]
  rw [hpath]
  refine hroute _ (noSlash_suffix m) fun h => ?_
  simpa using congrArg String.length h

/-- The log of a service stands in a directory, from where a rotation has moved it to the new name
there. -/
structure Rotated (t t' : FileTree) (directory service : String) (m : Moment) (d : Location)
    (log : Entry) : Prop where
  isDir : t.get? d = some .dir
  found : t.resolve (current directory service) false = .ok (.found (d ++ [logName service]) log)
  takes : t.get? (d ++ [keptName service m]) = some .dir →
    log = .dir ∧ t.children (d ++ [keptName service m]) = []
  moved : Moved (d ++ [logName service]) (d ++ [keptName service m]) t t'

/-- A rotation finds nothing to move and does nothing, or it has moved the log. -/
theorem rotate_cases (h : rotate t directory service m.stamp = .ok t') :
    (t.exists? (current directory service) = false ∧ t' = t) ∨
      (t.exists? (current directory service) = true ∧
        ∃ d log, Rotated t t' directory service m d log) := by
  unfold rotate at h
  split at h
  · rename_i hexists
    refine .inr ⟨hexists, ?_⟩
    obtain ⟨absolute, front, hlog, hkept⟩ := route_current directory service
    cases hsource : t.resolve (current directory service) false with
    | error e => simp [rename, hsource] at h
    | ok source =>
      cases htarget : t.resolve (backup directory service m.stamp) false with
      | error e =>
        unfold rename at h
        rw [hsource, htarget] at h
        cases source <;> cases h
      | ok target =>
        -- the two paths lead into one directory
        obtain ⟨d, hgoes, hp⟩ := (goes_of_route hlog hsource).parent (ne_dots_of_log _).1
          (ne_dots_of_log _).2
        obtain ⟨d', hgoes', hp'⟩ := (goes_of_route (hkept m) htarget).parent
          (keptName_eq service m ▸ (ne_dots_of_log _).1) (keptName_eq service m ▸ (ne_dots_of_log _).2)
        obtain ⟨rfl, -⟩ := Place.found.inj (hgoes.unique hgoes')
        rcases hp with ⟨-, rfl⟩ | ⟨log, -, rfl⟩
        · simp [rename, hsource] at h
        · obtain ⟨hmoved, htakes⟩ :=
            moved_of_rename (logName_ne_keptName service m) hsource htarget hp' h
          exact ⟨d, log, hgoes.stands, hsource, htakes, hmoved⟩
  · rename_i hexists
    exact .inl ⟨eq_false_of_ne_true hexists, (Except.ok.inj h).symm⟩

/-! ## Many -/

/-- What happens to the logs of a service: something is written to the log, in place of what it
holds or behind it, or the log is moved aside. -/
inductive Event
  | write (content : Bytes → Bytes)
  | rotate (now : Moment)

/-- What comes of a tree. An event that fails leaves it as it is. -/
def step (directory service : String) (t : FileTree) : Event → FileTree
  | .write content => (t.change (current directory service) content).toOption.getD t
  | .rotate now => (rotate t directory service now.stamp).toOption.getD t

def play (directory service : String) (t : FileTree) (events : List Event) : FileTree :=
  events.foldl (step directory service) t

/-- An event fails, or has done what it does. -/
theorem step_cases (directory service : String) (t : FileTree) (event : Event) :
    step directory service t event = t ∨
      (∃ content, event = .write content ∧
        t.change (current directory service) content = .ok (step directory service t event)) ∨
      ∃ now, event = .rotate now ∧
        rotate t directory service now.stamp = .ok (step directory service t event) := by
  cases event with
  | write content =>
    cases h : t.change (current directory service) content with
    | error e => exact .inl (by simp [step, h, Except.toOption])
    | ok t' => exact .inr (.inl ⟨content, rfl, by simp [step, h, Except.toOption]⟩)
  | rotate now =>
    cases h : rotate t directory service now.stamp with
    | error e => exact .inl (by simp [step, h, Except.toOption])
    | ok t' => exact .inr (.inr ⟨now, rfl, by simp [step, h, Except.toOption]⟩)

/-- The name under which an event puts something. -/
def Event.name (service : String) : Event → String
  | .write _ => logName service
  | .rotate now => keptName service now

theorem step_rooted (ht : t.Rooted) (event : Event) : (step directory service t event).Rooted := by
  rcases step_cases directory service t event with h | ⟨content, -, h⟩ | ⟨now, -, h⟩
  · rwa [h]
  · exact ht.change h
  · rcases rotate_cases h with ⟨-, hsame⟩ | ⟨-, d, log, hrotated⟩
    · rwa [hsame]
    · exact hrotated.moved.rooted ht hrotated.isDir

/-- An event adds no name but its own. -/
theorem step_knows (ht : t.Rooted) (event : Event) {name : String}
    (hname : (step directory service t event).Knows name) :
    t.Knows name ∨ name = event.name service := by
  rcases step_cases directory service t event with h | ⟨content, rfl, h⟩ | ⟨now, rfl, h⟩
  · rw [h] at hname
    exact .inl hname
  · refine (hname.of_change ht h).imp_right fun hlast => ?_
    obtain ⟨absolute, front, hroute, -⟩ := route_current directory service
    rw [hroute, List.getLast?_concat] at hlast
    exact (Option.some.inj hlast).symm
  · rcases rotate_cases h with ⟨-, hsame⟩ | ⟨-, d, log, hrotated⟩
    · rw [hsame] at hname
      exact .inl hname
    · exact hname.of_moved hrotated.moved

theorem play_rooted (ht : t.Rooted) (events : List Event) :
    (play directory service t events).Rooted := by
  induction events generalizing t with
  | nil => exact ht
  | cons event events ih => exact ih (step_rooted ht event)

theorem play_knows (ht : t.Rooted) (events : List Event) {name : String}
    (hname : (play directory service t events).Knows name) :
    t.Knows name ∨ ∃ event ∈ events, name = event.name service := by
  induction events generalizing t with
  | nil => exact .inl hname
  | cons event events ih =>
    rcases ih (step_rooted ht event) hname with h | ⟨later, hlater, h⟩
    · exact (step_knows ht event h).imp_right fun h => ⟨event, List.mem_cons_self, h⟩
    · exact .inr ⟨later, List.mem_cons_of_mem _ hlater, h⟩

/-! ## What is kept -/

/-- A log that has been moved is not found any more. -/
theorem Rotated.exists?_eq {d : Location} {log : Entry} (ht : t.Rooted)
    (h : Rotated t t' directory service m d log)
    (hlink : ∀ target, t.get? (d ++ [keptName service m]) ≠ some (.link target)) :
    t'.exists? (current directory service) = false := by
  obtain ⟨absolute, front, hroute, -⟩ := route_current directory service
  have hgone := h.moved.not_goes ht (goes_of_route hroute h.found) ⟨h.takes, hlink⟩
  unfold exists?
  cases hstat : t'.stat (current directory service) with
  | error e => rfl
  | ok e =>
    obtain ⟨k, hfound⟩ := resolve_of_stat hstat
    exact absurd (goes_of_route hroute hfound) (hgone k e)

/-- Of the logs of a service, whatever has been written to them and whenever they have been moved
aside before:

* where there is no log, a rotation does nothing;
* one that succeeds where there is one has moved it, with all below it, to its new name in the
  directory, and all else is as it was;
* the log is gone then (with a link of the new name the path may lead elsewhere);
* every file of the directory is still in it, unless it had the new name. Then the name was there
  from the start, or an earlier rotation has fallen into the same second. -/
theorem logs_rotated {t files : FileTree} (ht : t.Rooted) (directory service : String)
    (before : List Event) (hplay : play directory service t before = files) (now : Moment) :
    (files.exists? (current directory service) = false →
      rotate files directory service now.stamp = .ok files) ∧
    ∀ t', files.exists? (current directory service) = true →
      rotate files directory service now.stamp = .ok t' →
      ∃ d log, Rotated files t' directory service now d log ∧
        ((∀ target, files.get? (d ++ [keptName service now]) ≠ some (.link target)) →
          t'.exists? (current directory service) = false) ∧
        ∀ name content, files.get? (d ++ [name]) = some (.file content) →
          (∃ name', t'.get? (d ++ [name']) = some (.file content)) ∨
            name = keptName service now ∧
              (t.Knows name ∨ ∃ m, .rotate m ∈ before ∧ m.seconds = now.seconds) := by
  have hrooted : files.Rooted := hplay ▸ play_rooted ht before
  refine ⟨fun hnone => by rw [rotate, hnone]; rfl, fun t' hexists h => ?_⟩
  rcases rotate_cases h with ⟨hnone, -⟩ | ⟨-, d, log, hrotated⟩
  · exact nomatch hexists.symm.trans hnone
  · refine ⟨d, log, hrotated, hrotated.exists?_eq hrooted, fun name content hname => ?_⟩
    by_cases hkept : name = keptName service now
    · refine .inr ⟨hkept, ?_⟩
      have hknown : files.Knows name := ⟨_, _, hname, .inl List.getLast?_concat⟩
      rcases play_knows ht before (hplay.symm ▸ hknown) with h | ⟨event, hevent, h⟩
      · exact .inl h
      · cases event with
        | write content => exact absurd (h.symm.trans hkept) (logName_ne_keptName service now)
        | rotate m => exact .inr ⟨m, hevent, seconds_of_keptName (h.symm.trans hkept)⟩
    · exact .inl (hrotated.moved.kept hname hkept)

/-! ## Two rotations -/

namespace Notes

def log : Location := home ++ ["s.log"]

/-- A directory without a log. -/
def empty : FileTree := ⟨[(home, .dir)]⟩

/-- A note is written and moved aside, and another one is written. -/
def before : List Event := [.write fun _ => [49], .rotate ⟨0⟩, .write fun _ => [50]]

/-- What has come of the directory then. -/
def files : FileTree :=
  ⟨[(home, .dir), (home ++ ["s.19700101_000000.log"], .file [49]), (log, .file [50])]⟩

/-- A directory that has the name of a log. -/
def shelf : FileTree := ⟨[(home, .dir), (log, .dir), (log ++ ["z"], .file [49])]⟩

variable {p : Place} {e : Entry} {path name : String} {follow : Bool}

theorem resolve_name (hpath : IsPath path) (hroute : Route.ofPath path = ⟨false, [".", name], false⟩)
    (hname : IsName name) (hhome : t.get? home = some .dir) (hp : p.Is t (home ++ [name]))
    (hlink : ∀ target, p ≠ .found (home ++ [name]) (.link target)) : t.resolve path follow = .ok p := by
  refine resolve_of_goes hpath (by rw [hroute]) ?_
  rw [hroute]
  refine .here hhome ?_
  rcases hp with ⟨hnone, rfl⟩ | ⟨e, he, rfl⟩
  · exact .free hhome hname hnone
  · exact .child hhome hname he (fun target h => hlink target (h ▸ rfl)) (.arrived he)

theorem resolve_log (hhome : t.get? home = some .dir) (hp : p.Is t log)
    (hlink : ∀ target, p ≠ .found log (.link target)) : t.resolve "./s.log" follow = .ok p :=
  resolve_name ⟨by decide, by decide, by decide⟩ (by decide) ⟨by decide, by decide, by decide⟩ hhome
    hp hlink

/-- A log moves to a name that is free, or a file to that of a file. -/
theorem rotate_eq (hpath : IsPath (backup "." "s" m.stamp))
    (hroute : Route.ofPath (backup "." "s" m.stamp) = ⟨false, [".", name], false⟩)
    (hname : IsName name) (hne : name ≠ "s.log") (hhome : t.get? home = some .dir)
    (hlog : t.get? log = some e) (he : ∀ target, e ≠ .link target)
    (hkept : t.get? (home ++ [name]) = none ∨
      e.isDir = false ∧ ∃ content, t.get? (home ++ [name]) = some (.file content)) :
    rotate t "." "s" m.stamp = .ok (t.move log (home ++ [name])) := by
  have hsource (follow : Bool) : t.resolve (current "." "s") follow = .ok (.found log e) :=
    resolve_log hhome (.inr ⟨e, hlog, rfl⟩) fun target h => he target (Place.found.inj h).2
  have hapart : log ≠ home ++ [name] := by simpa [log] using Ne.symm hne
  have hexists : t.exists? (current "." "s") = true := by rw [exists?, stat, hsource]
  rw [rotate, if_pos hexists]
  rcases hkept with hnone | ⟨hfile, content, hold⟩
  · have htarget : t.resolve (backup "." "s" m.stamp) false = .ok (.free (home ++ [name])) :=
      resolve_name hpath hroute hname hhome (.inl ⟨hnone, rfl⟩) (by simp)
    rw [rename, hsource, htarget]
    dsimp only
    rw [if_neg hapart]
    rfl
  · have htarget : t.resolve (backup "." "s" m.stamp) false =
        .ok (.found (home ++ [name]) (.file content)) :=
      resolve_name hpath hroute hname hhome (.inr ⟨_, hold, rfl⟩) (by simp)
    rw [rename, hsource, htarget]
    dsimp only
    rw [hfile, if_neg (by decide), if_neg hapart]
    rfl

theorem rotate_zero (hhome : t.get? home = some .dir) (hlog : t.get? log = some e)
    (he : ∀ target, e ≠ .link target)
    (hkept : t.get? (home ++ ["s.19700101_000000.log"]) = none ∨ e.isDir = false ∧
      ∃ content, t.get? (home ++ ["s.19700101_000000.log"]) = some (.file content)) :
    rotate t "." "s" (Moment.mk 0).stamp = .ok (t.move log (home ++ ["s.19700101_000000.log"])) :=
  rotate_eq ⟨by decide, by decide, by decide⟩ (by decide) ⟨by decide, by decide, by decide⟩
    (by decide) hhome hlog he hkept

theorem play_before : play "." "s" empty before = files := by
  have hwrite : empty.change "./s.log" (fun _ => [49]) = .ok (empty.set log (.file [49])) := by
    rw [change, resolve_log rfl (.inl ⟨by decide, rfl⟩) (by simp)]
    rfl
  have hrotate : rotate (empty.set log (.file [49])) "." "s" (Moment.mk 0).stamp =
      .ok ⟨[(home, .dir), (home ++ ["s.19700101_000000.log"], .file [49])]⟩ :=
    rotate_zero (e := .file [49]) rfl (by decide) (by simp) (.inl (by decide))
  have hwrite' : (FileTree.mk [(home, .dir), (home ++ ["s.19700101_000000.log"], .file [49])]).change
      "./s.log" (fun _ => [50]) = .ok files := by
    rw [change, resolve_log rfl (.inl ⟨by decide, rfl⟩) (by simp)]
    rfl
  have hcurrent : current "." "s" = "./s.log" := by decide
  simp [play, before, step, hcurrent, hwrite, hrotate, hwrite', Except.toOption]

end Notes

/-- A log that is moved in the second of an earlier rotation takes the place of the log that was
moved then, whose content is lost. And what is moved need not be a log: it can be a directory. -/
theorem not_every_log_kept :
    (¬ ∀ (t files t' : FileTree) (directory service : String) (before : List Event) (now : Moment),
      t.Rooted → play directory service t before = files →
      (∀ m, .rotate m ∈ before → m.nanoseconds ≤ now.nanoseconds) →
      rotate files directory service now.stamp = .ok t' →
      ∀ k content, files.get? k = some (.file content) →
        ∃ k', t'.get? k' = some (.file content)) ∧
    ¬ ∀ (t t' : FileTree) (directory service : String) (now : Moment), t.Rooted →
      (∀ content, t.stat (current directory service) ≠ .ok (.file content)) →
      rotate t directory service now.stamp = .ok t' → t' = t := by
  constructor
  · intro h
    obtain ⟨k, hk⟩ := h _ _ _ "." "s" Notes.before ⟨0⟩ (rooted_of_entries (by decide))
      Notes.play_before (by simp [Notes.before])
      (Notes.rotate_zero (e := .file [50]) rfl (by decide) (by simp) (.inr ⟨rfl, [49], by decide⟩))
      (home ++ ["s.19700101_000000.log"]) [49] (by decide)
    rcases mem_entries_of_get? hk with ⟨-, hroot⟩ | hin
    · cases hroot
    · have hlost : ∀ a ∈ (Notes.files.move Notes.log (home ++ ["s.19700101_000000.log"])).entries,
          a.2 ≠ .file [49] := by decide
      exact hlost _ hin rfl
  · intro h
    have hsame := h Notes.shelf _ "." "s" ⟨0⟩ (rooted_of_entries (by decide)) ?_
      (Notes.rotate_zero (e := .dir) rfl (by decide) (by simp) (.inl (by decide)))
    · exact absurd (congrArg (·.get? Notes.log) hsame) (by decide)
    · intro content hstat
      have hcurrent : current "." "s" = "./s.log" := by decide
      have hdir : Notes.shelf.get? Notes.log = some .dir := by decide
      rw [hcurrent, stat, Notes.resolve_log rfl (.inr ⟨.dir, hdir, rfl⟩) (by simp)] at hstat
      cases hstat

/-- In the next second both notes are kept. -/
theorem logs_rotated_nextSecond : ∃ t',
    rotate Notes.files "." "s" (Moment.mk 1000000000).stamp = .ok t' ∧
      t'.exists? (current "." "s") = false ∧
      (∃ name, t'.get? (home ++ [name]) = some (.file [49])) ∧
      ∃ name, t'.get? (home ++ [name]) = some (.file [50]) := by
  have hrotate := Notes.rotate_eq (t := Notes.files) (m := ⟨1000000000⟩) (e := .file [50])
    ⟨by decide, by decide, by decide⟩
    (show Route.ofPath (backup "." "s" (Moment.mk 1000000000).stamp) =
      ⟨false, [".", "s.19700101_000001.log"], false⟩ by decide)
    ⟨by decide, by decide, by decide⟩ (by decide) rfl (by decide) (by simp) (.inl (by decide))
  have hlog (follow : Bool) :
      Notes.files.resolve (current "." "s") follow = .ok (.found Notes.log (.file [50])) :=
    Notes.resolve_log rfl (.inr ⟨_, by decide, rfl⟩) (by simp)
  have hexists : Notes.files.exists? (current "." "s") = true := by rw [exists?, stat, hlog]
  obtain ⟨d, log, hrotated, hgone, hkept⟩ := (logs_rotated (rooted_of_entries (by decide)) "." "s"
    Notes.before Notes.play_before ⟨1000000000⟩).2 _ hexists hrotate
  obtain rfl : d = home := by
    have hfound := (hlog false).symm.trans hrotated.found
    exact (List.append_inj_left' (Place.found.inj (Except.ok.inj hfound)).1 rfl).symm
  have hnew : keptName "s" ⟨1000000000⟩ = "s.19700101_000001.log" := by decide
  have hfree : Notes.files.get? (home ++ ["s.19700101_000001.log"]) = none := by decide
  rw [hnew] at hgone hkept
  refine ⟨_, hrotate, hgone fun target => by simp [hfree], ?_, ?_⟩
  · exact (hkept "s.19700101_000000.log" [49] (by decide)).resolve_right fun h =>
      absurd h.1 (by decide)
  · exact (hkept "s.log" [50] (by decide)).resolve_right fun h => absurd h.1 (by decide)

end LogRotation

end ScriptSandbox
