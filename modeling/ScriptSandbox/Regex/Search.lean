import ScriptSandbox.Regex.Parser
import ScriptSandbox.Regex.Program

/-!
# Searching

All runs of a program go over the text at once, in order of preference, and at most one stands at
each instruction. So a search takes time in proportion to the text.
-/

namespace ScriptSandbox.Regex

/-- A run of the program: the instruction it stands at and where it began. -/
structure Thread where
  place : Nat
  start : Nat

/-- The runs at one place of the text, and the instructions they have come by. -/
structure Front where
  seen : Array Bool
  threads : Array Thread

/-- Follows forks and conditions from the instructions in `pending`. -/
def advance (p : Program) (before behind : Option Char) (start : Nat) :
    Nat → List Nat → Front → Front
  | 0, _, front => front
  | _ + 1, [], front => front
  | n + 1, i :: pending, front =>
    if front.seen.getD i true then advance p before behind start n pending front
    else
      let front := { front with seen := front.seen.set! i true }
      match p.getD i .fail with
      | .fail => advance p before behind start n pending front
      | .fork a b => advance p before behind start n (a :: b :: pending) front
      | .look condition next =>
        if condition before behind then advance p before behind start n (next :: pending) front
        else advance p before behind start n pending front
      | .chars _ _ | .done =>
        advance p before behind start n pending
          { front with threads := front.threads.push ⟨i, start⟩ }

/-- The runs behind the next character, and the match that ends here, which drops the runs after
it. -/
def stepThreads (p : Program) (behind : Option Char) (pos : Nat) :
    List Thread → Array Thread → Array Thread × Option (Nat × Nat)
  | [], next => (next, none)
  | t :: rest, next =>
    match p.getD t.place .fail with
    | .done => (next, some (t.start, pos))
    | .chars set target =>
      match behind with
      | some c =>
        if set c then stepThreads p behind pos rest (next.push ⟨target, t.start⟩)
        else stepThreads p behind pos rest next
      | none => stepThreads p behind pos rest next
    | _ => stepThreads p behind pos rest next

/-- A compiled expression. -/
structure Compiled where
  program : Program
  entry : Nat

/-- Searches on from a place with the runs that have come there. -/
def searchFrom (re : Compiled) (before : Option Char) (pos : Nat) (threads : List Thread)
    (best : Option (Nat × Nat)) (cs : List Char) : Option (Nat × Nat) :=
  let p := re.program
  let behind := cs.head?
  let fuel := 2 * p.size + 2
  let blank : Front := ⟨Array.replicate p.size false, #[]⟩
  let front := threads.foldl (fun front t => advance p before behind t.start fuel [t.place] front) blank
  let front := if best.isNone then advance p before behind pos fuel [re.entry] front else front
  let (next, found) := stepThreads p behind pos front.threads.toList #[]
  let best := found.or best
  match cs with
  | [] => best
  | c :: rest =>
    if next.isEmpty ∧ best.isSome then best
    else searchFrom re (some c) (pos + 1) next.toList best rest

/-- The leftmost match at or behind a place of a text, from where to where. -/
def search (re : Compiled) (before : Option Char) (pos : Nat) (cs : List Char) :
    Option (Nat × Nat) := searchFrom re before pos [] none cs

/-- The character before the first of the remaining ones, after dropping `n`. -/
def lastDropped (before : Option Char) (cs : List Char) (n : Nat) : Option Char :=
  if n = 0 then before else cs[n - 1]?

/-- The matches from a place on; an empty match right at the end of the one before does not
count. -/
def matchesFrom (re : Compiled) (before : Option Char) (pos : Nat) (lastEnd : Option Nat)
    (cs : List Char) : Nat → List (List Char)
  | 0 => []
  | n + 1 =>
    match search re before pos cs with
    | none => []
    | some (first, last) =>
      if first = last ∧ lastEnd = some last then
        match cs with
        | [] => []
        | c :: rest => matchesFrom re (some c) (pos + 1) lastEnd rest n
      else
        let text := (cs.drop (first - pos)).take (last - first)
        text :: matchesFrom re (lastDropped before cs (last - pos)) last (some last)
          (cs.drop (last - pos)) n

/-- The longest program that is built. -/
def maxWeight : Nat := 436906

inductive Error
  | fault (f : Fault)
  | tooBig
deriving DecidableEq, Repr

def Error.message (pattern : String) : Error → String
  | .fault f => f.message pattern
  | .tooBig => "Compiled regex exceeds size limit of 10485760 bytes."

def compile (pattern : String) : Except Error Compiled :=
  match parse pattern with
  | .error f => .error (.fault f)
  | .ok node =>
    match node.expr {} with
    | .error f => .error (.fault f)
    | .ok (e, _) =>
      if maxWeight < e.weight then .error .tooBig
      else
        let (program, entry) := e.compile #[.done] 0
        .ok { program, entry }

def isMatch (re : Compiled) (text : String) : Bool := (search re none 0 text.toList).isSome

/-- All matches in a text, from the left. -/
def allMatches (re : Compiled) (text : String) : List String :=
  (matchesFrom re none 0 none text.toList (2 * text.length + 3)).map String.ofList

end ScriptSandbox.Regex
