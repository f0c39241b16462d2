/-!
# Paths

A path is a text. `Path.parts` reads it as steps, with repeated slashes and inner dots dropped;
name, extension and parent are those of its last step.
-/

namespace ScriptSandbox.Path

inductive Part
  | root
  | here
  | up
  | name (text : List Char)
deriving DecidableEq, Repr

/-- The texts between slashes. -/
def pieces (cs : List Char) : List (List Char) :=
  let step (c : Char) (acc : List Char × List (List Char)) : List Char × List (List Char) :=
    if c = '/' then ([], acc.1 :: acc.2) else (c :: acc.1, acc.2)
  let (first, rest) := cs.foldr step ([], [])
  first :: rest

def Part.ofPiece (piece : List Char) : Part :=
  if piece = ['.', '.'] then .up else .name piece

/-- The steps of a path. A dot counts only at the front of a relative path. -/
def parts (path : String) : List Part :=
  let all := pieces path.toList
  let front : List Part :=
    if path.toList.head? = some '/' then [.root]
    else if all.head? = some ['.'] then [.here]
    else []
  front ++ ((all.filter fun p => p ≠ [] ∧ p ≠ ['.']).map Part.ofPiece)

def Part.text : Part → List Char
  | .root => []
  | .here => ['.']
  | .up => ['.', '.']
  | .name t => t

/-- The text of a list of steps. -/
def ofParts : List Part → String
  | [] => ""
  | [.root] => "/"
  | .root :: rest => "/" ++ "/".intercalate (rest.map fun p => String.ofList p.text)
  | ps => "/".intercalate (ps.map fun p => String.ofList p.text)

/-- The last step, when it is a name. -/
def fileName? (path : String) : Option (List Char) :=
  match (parts path).getLast? with
  | some (.name t) => some t
  | _ => none

/-- What follows the last dot of a name that has something before it. -/
def extension? (path : String) : Option String :=
  match fileName? path with
  | none => none
  | some name =>
    let tail := (name.reverse.takeWhile (· ≠ '.')).reverse
    let stem := name.take (name.length - tail.length - 1)
    if tail.length = name.length ∨ stem = [] then none else some (String.ofList tail)

/-- The path without its last step; none for the root and for nothing. -/
def parent? (path : String) : Option String :=
  match (parts path).getLast? with
  | none | some .root => none
  | some _ => some (ofParts (parts path).dropLast)

/-- A name below a directory. -/
def join (directory name : String) : String :=
  if directory.isEmpty ∨ directory.toList.getLast? = some '/' then directory ++ name
  else directory ++ "/" ++ name

end ScriptSandbox.Path
