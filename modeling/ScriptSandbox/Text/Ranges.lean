/-!
# Character ranges

Sets of characters as sorted arrays of disjoint closed ranges of code points, read from a table
of hexadecimal ranges such as `9-D 20 85`.
-/

namespace ScriptSandbox.Text

/-- Disjoint closed ranges of code points in increasing order. -/
structure Ranges where
  items : Array (Nat × Nat)
deriving Inhabited, BEq, Repr

def hexDigit? (c : Char) : Option Nat :=
  if '0' ≤ c ∧ c ≤ '9' then some (c.toNat - 48)
  else if 'A' ≤ c ∧ c ≤ 'F' then some (c.toNat - 55)
  else if 'a' ≤ c ∧ c ≤ 'f' then some (c.toNat - 87)
  else none

/-- The hexadecimal number at the front of a text, and the rest. -/
def takeHex (cs : List Char) (n : Nat) : Nat × List Char :=
  match cs with
  | [] => (n, [])
  | c :: r =>
    match hexDigit? c with
    | some d => takeHex r (16 * n + d)
    | none => (n, c :: r)

/-- The blank-separated words of a text. -/
def words (s : String) : List (List Char) :=
  let step (c : Char) (acc : List Char × List (List Char)) : List Char × List (List Char) :=
    if c = ' ' ∨ c = '\n' then ([], if acc.1.isEmpty then acc.2 else acc.1 :: acc.2) else (c :: acc.1, acc.2)
  let (last, done) := s.toList.foldr step ([], [])
  if last.isEmpty then done else last :: done

namespace Ranges

def readOne (cs : List Char) : Nat × Nat :=
  let (first, rest) := takeHex cs 0
  match rest with
  | '-' :: r => (first, (takeHex r 0).1)
  | _ => (first, first)

def read (table : String) : Ranges := ⟨((words table).map readOne).toArray⟩

/-- Looks for the range of `n` among the items from `low` below `high`. -/
def search (items : Array (Nat × Nat)) (n low high : Nat) : Bool :=
  if low < high then
    let mid := (low + high) / 2
    match items[mid]? with
    | none => false
    | some (first, last) =>
      if n < first then search items n low mid
      else if last < n then search items n (mid + 1) high
      else true
  else false
termination_by high - low

def contains (r : Ranges) (c : Char) : Bool := search r.items c.toNat 0 r.items.size

end Ranges

end ScriptSandbox.Text
