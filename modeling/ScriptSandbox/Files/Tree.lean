import ScriptSandbox.Failure
import ScriptSandbox.Text.Utf8
import ScriptSandbox.Files.Path

/-!
# The file tree

A tree is a finite map from locations to entries. A location is the list of names from the root;
the root itself is always a directory. Relative paths start at the working directory `home`.
`resolve` walks a path through directories and links as a Unix kernel does.
-/

namespace ScriptSandbox

abbrev Location := List String

inductive Entry
  | file (content : Bytes)
  | dir
  | link (target : String)
  /-- A device that swallows what is written and holds nothing. -/
  | sink
deriving DecidableEq, Repr

namespace Entry

def isDir : Entry → Bool
  | .dir => true
  | _ => false

def isFile : Entry → Bool
  | .file _ => true
  | _ => false

end Entry

/-- Errors of the file system. -/
inductive FileError
  | missing
  | isDirectory
  | notDirectory
  | exists
  | notEmpty
  | nameTooLong
  | tooManyLinks
  | invalidArgument
  | nulInPath
  | notUtf8
deriving DecidableEq, Repr

namespace FileError

def message : FileError → String
  | .missing => "No such file or directory (os error 2)"
  | .isDirectory => "Is a directory (os error 21)"
  | .notDirectory => "Not a directory (os error 20)"
  | .exists => "File exists (os error 17)"
  | .notEmpty => "Directory not empty (os error 39)"
  | .nameTooLong => "File name too long (os error 36)"
  | .tooManyLinks => "Too many levels of symbolic links (os error 40)"
  | .invalidArgument => "Invalid argument (os error 22)"
  | .nulInPath => "file name contained an unexpected NUL byte"
  | .notUtf8 => "stream did not contain valid UTF-8"

def toIo (e : FileError) : IoError :=
  { kind := if e = .missing then .notFound else .other, message := e.message }

end FileError

/-- Entries by their locations. -/
structure FileTree where
  entries : List (Location × Entry)
deriving Repr, Inhabited

namespace FileTree

/-- The working directory. -/
def home : Location := ["home"]

/-- A tree with an empty working directory and the swallowing device. -/
def empty : FileTree :=
  ⟨[(home, .dir), (["dev"], .dir), (["dev", "null"], .sink)]⟩

def get? (t : FileTree) (l : Location) : Option Entry :=
  if l = [] then some .dir else t.entries.lookup l

def put (l : Location) (e : Entry) : List (Location × Entry) → List (Location × Entry)
  | [] => [(l, e)]
  | (k, old) :: rest => if l = k then (l, e) :: rest else (k, old) :: put l e rest

def set (t : FileTree) (l : Location) (e : Entry) : FileTree := ⟨put l e t.entries⟩

/-- Takes a location and all below it away. -/
def eraseAll (t : FileTree) (l : Location) : FileTree :=
  ⟨t.entries.filter fun e => !l.isPrefixOf e.1⟩

/-- The entries right below a location, by name. -/
def children (t : FileTree) (l : Location) : List (String × Entry) :=
  t.entries.filterMap fun (k, e) =>
    match k.getLast? with
    | some name => if k.dropLast = l then some (name, e) else none
    | none => none

/-! ## Walking a path -/

/-- A path as the names to walk. -/
structure Route where
  absolute : Bool
  names : List String
  /-- The path ends in a slash, so that only a directory will do. -/
  directory : Bool
deriving Repr, DecidableEq

namespace Route

def ofPath (path : String) : Route :=
  let cs := path.toList
  { absolute := cs.head? = some '/'
    names := ((Path.pieces cs).filter (· ≠ [])).map String.ofList
    directory := cs.getLast? = some '/' }

end Route

/-- Where a walk ends: at an entry, or at a free name in a directory. -/
inductive Place
  | found (location : Location) (entry : Entry)
  | free (location : Location)
deriving Repr, DecidableEq

def longestName : Nat := 255

def longestPath : Nat := 4095

/-- Walks names from a location. `follow` says whether a link at the end is followed; at most
`links` links are. -/
def walk (t : FileTree) (follow : Bool) (links : Nat) (at_ : Location) (names : List String) :
    Except FileError Place :=
  match names with
  | [] =>
    match t.get? at_ with
    | some e => .ok (.found at_ e)
    | none => .error .missing
  | name :: rest =>
    match t.get? at_ with
    | none => .error .missing
    | some e =>
      if !e.isDir then .error .notDirectory
      else if name = "." then walk t follow links at_ rest
      else if name = ".." then walk t follow links at_.dropLast rest
      else if longestName < name.utf8ByteSize then .error .nameTooLong
      else
        let child := at_ ++ [name]
        match t.get? child with
        | none => if rest = [] then .ok (.free child) else .error .missing
        | some (.link target) =>
          if rest = [] ∧ !follow then .ok (.found child (.link target))
          else
            match links with
            | 0 => .error .tooManyLinks
            | links + 1 =>
              let route := Route.ofPath target
              walk t follow links (if route.absolute then [] else at_) (route.names ++ rest)
        | some _ => walk t follow links child rest
termination_by (links, names.length)
decreasing_by
  all_goals simp_wf
  all_goals first
    | (apply Prod.Lex.left; omega)
    | (apply Prod.Lex.right; simp)

def maxLinks : Nat := 40

/-- Walks a whole path. A slash at its end asks for a directory and follows a link. -/
def resolve (t : FileTree) (path : String) (follow : Bool) : Except FileError Place :=
  if path.toList.contains (Char.ofNat 0) then .error .nulInPath
  else if path.isEmpty then .error .missing
  else if longestPath < path.utf8ByteSize then .error .nameTooLong
  else
    let route := Route.ofPath path
    let start := if route.absolute then [] else home
    match t.walk (follow || route.directory) maxLinks start route.names with
    | .ok (.found l e) => if route.directory ∧ !e.isDir then .error .notDirectory else .ok (.found l e)
    | other => other

/-! ## Looking -/

/-- The entry a path leads to, links followed. -/
def stat (t : FileTree) (path : String) : Except FileError Entry :=
  match t.resolve path true with
  | .ok (.found _ e) => .ok e
  | .ok (.free _) => .error .missing
  | .error e => .error e

def isDir (t : FileTree) (path : String) : Bool :=
  match t.stat path with
  | .ok .dir => true
  | _ => false

def exists? (t : FileTree) (path : String) : Bool :=
  match t.stat path with
  | .ok _ => true
  | .error _ => false

end FileTree

/-- The number of bytes an entry reports. -/
def Entry.size : Entry → Nat
  | .file content => content.length
  | .link target => target.utf8ByteSize
  | .dir => 4096
  | .sink => 0

namespace FileTree

def size (t : FileTree) (path : String) : Except FileError Nat := (t.stat path).map Entry.size

/-- The content of the file a path leads to. -/
def read (t : FileTree) (path : String) : Except FileError Bytes :=
  match t.stat path with
  | .error e => .error e
  | .ok (.file content) => .ok content
  | .ok .dir => .error .isDirectory
  | .ok _ => .ok []

def readText (t : FileTree) (path : String) : Except FileError String :=
  match t.read path with
  | .error e => .error e
  | .ok bytes =>
    match Utf8.decode? bytes with
    | some text => .ok text
    | none => .error .notUtf8

/-- The entries of a directory. -/
def list (t : FileTree) (path : String) : Except FileError (List (String × Entry)) :=
  match t.resolve path true with
  | .error e => .error e
  | .ok (.found l .dir) => .ok (t.children l)
  | .ok (.found _ _) => .error .notDirectory
  | .ok (.free _) => .error .missing

/-- The most names of a location. -/
def depth (t : FileTree) : Nat := (t.entries.map fun a => a.1.length).foldr max 0

theorem length_le_depth {t : FileTree} {a : Location × Entry} (h : a ∈ t.entries) :
    a.1.length ≤ t.depth := by
  unfold depth
  generalize t.entries = entries at h
  induction h with
  | head => exact Nat.le_max_left ..
  | tail _ _ ih => exact Nat.le_trans ih (Nat.le_max_right ..)

theorem length_lt_depth {t : FileTree} {l : Location} {c : String × Entry} (h : c ∈ t.children l) :
    l.length < t.depth := by
  unfold children at h
  obtain ⟨⟨k, e⟩, hk, hc⟩ := List.mem_filterMap.1 h
  dsimp only at hc
  split at hc
  · rename_i name hlast
    split at hc
    · rename_i hparent
      have hne : k ≠ [] := by
        rintro rfl
        cases hlast
      have hlength := length_le_depth hk
      have hpositive := List.length_pos_iff.2 hne
      rw [← hparent, List.length_dropLast]
      dsimp only at hlength
      omega
    · cases hc
  · cases hc

/-- The regular files below a directory, each by the names that lead to it. A directory is gone
into where it is met, and no link is followed. -/
def filesUnder (t : FileTree) (l : Location) : List (List String) :=
  (t.children l).attach.flatMap fun ⟨(name, e), _h⟩ =>
    match e with
    | .file _ => [[name]]
    | .dir => (filesUnder t (l ++ [name])).map (name :: ·)
    | _ => []
termination_by t.depth - l.length
decreasing_by
  have hlength := length_lt_depth _h
  simp only [List.length_append, List.length_singleton]
  omega

/-- The paths of the entries below a location that are no directories, from there. -/
def leaves (t : FileTree) (l : Location) : List Location :=
  t.entries.filterMap fun (k, e) =>
    if l.isPrefixOf k ∧ !e.isDir then some (k.drop l.length) else none

/-! ## Changing -/

/-- Makes the content of a file `content` of what it was before, a new file where there is none. -/
def change (t : FileTree) (path : String) (content : Bytes → Bytes) : Except FileError FileTree :=
  match t.resolve path true with
  | .error e => .error e
  | .ok (.found l (.file old)) => .ok (t.set l (.file (content old)))
  | .ok (.found _ .dir) => .error .isDirectory
  | .ok (.found _ _) => .ok t
  | .ok (.free l) =>
    if (Route.ofPath path).directory then .error .isDirectory else .ok (t.set l (.file (content [])))

def write (t : FileTree) (path : String) (content : Bytes) : Except FileError FileTree :=
  t.change path fun _ => content

def append (t : FileTree) (path : String) (content : Bytes) : Except FileError FileTree :=
  t.change path (· ++ content)

/-- Makes one directory. -/
def makeDir (t : FileTree) (path : String) : Except FileError FileTree :=
  match t.resolve path false with
  | .error e => .error e
  | .ok (.found _ _) => .error .exists
  | .ok (.free l) => .ok (t.set l .dir)

/-- Makes a directory and those it stands in, where they are missing. Those made before an error
stay. -/
def makeDirs (t : FileTree) (path : String) (parents : List String) :
    FileTree × Except FileError Unit :=
  if path.isEmpty then (t, .ok ())
  else
    match t.makeDir path with
    | .ok t => (t, .ok ())
    | .error .missing =>
      match parents with
      | [] => (t, .error .missing)
      | parent :: more =>
        match t.makeDirs parent more with
        | (t, .error e) => (t, .error e)
        | (t, .ok ()) =>
          match t.makeDir path with
          | .ok t => (t, .ok ())
          | .error e => (t, if t.isDir path then .ok () else .error e)
    | .error e => (t, if t.isDir path then .ok () else .error e)

/-- The paths a path stands in, nearest first. -/
def ancestors (path : String) : List String :=
  let ps := Path.parts path
  let counts := (List.range ps.length).reverse
  let from_ := if ps.head? = some .root then counts.filter (0 < ·) else counts
  from_.map fun n => Path.ofParts (ps.take n)

def makeAllDirs (t : FileTree) (path : String) : FileTree × Except FileError Unit :=
  t.makeDirs path (ancestors path)

/-- The last name of a path, when it is one of the two dots. -/
def dotted? (path : String) : Option String :=
  (Route.ofPath path).names.getLast?.filter fun n => n = "." ∨ n = ".."

/-- Takes a file or a link away. -/
def removeFile (t : FileTree) (path : String) : Except FileError FileTree :=
  match t.resolve path false with
  | .error e => .error e
  | .ok (.free _) => .error .missing
  | .ok (.found _ .dir) => .error .isDirectory
  | .ok (.found l _) => .ok (t.eraseAll l)

/-- Takes an empty directory away. -/
def removeDir (t : FileTree) (path : String) : Except FileError FileTree :=
  match t.resolve path false with
  | .error e => .error e
  | .ok (.free _) => .error .missing
  | .ok (.found l .dir) =>
    if dotted? path = some "." then .error .invalidArgument
    else if dotted? path = some ".." ∨ !(t.children l).isEmpty then .error .notEmpty
    else .ok (t.eraseAll l)
  | .ok (.found _ _) => .error .notDirectory

/-- Takes a directory and all below it away; of a link the link alone. What is below goes first, and
stays away if the directory itself cannot go. -/
def removeAll (t : FileTree) (path : String) : FileTree × Except FileError Unit :=
  match t.resolve path false with
  | .error e => (t, .error e)
  | .ok (.free _) => (t, .error .missing)
  | .ok (.found l .dir) =>
    let emptied : FileTree := ⟨t.entries.filter fun e => e.1 = l ∨ !l.isPrefixOf e.1⟩
    match emptied.removeDir path with
    | .ok t => (t, .ok ())
    | .error e => (emptied, .error e)
  | .ok (.found l _) => (t.eraseAll l, .ok ())

/-- Gives an entry, with all below it, another name; a file there is replaced. -/
def rename (t : FileTree) (source target : String) : Except FileError FileTree :=
  match t.resolve source false, t.resolve target false with
  | .error e, _ => .error e
  | .ok (.free _), _ => .error .missing
  | _, .error e => .error e
  | .ok (.found l e), .ok place =>
    let goal : Location := match place with
      | .found m _ => m
      | .free m => m
    let clash : Option FileError := match place with
      | .free _ => none
      | .found m .dir =>
        if !e.isDir then some .isDirectory
        else if (t.children m).isEmpty then none else some .notEmpty
      | .found _ _ => if e.isDir then some .notDirectory else none
    match clash with
    | some e => .error e
    | none =>
      if l = goal then .ok t
      else
        let moved := t.entries.filterMap fun (k, e) =>
          if l.isPrefixOf k then some (goal ++ k.drop l.length, e) else none
        .ok ⟨((t.eraseAll goal).eraseAll l).entries ++ moved⟩

end FileTree

end ScriptSandbox
