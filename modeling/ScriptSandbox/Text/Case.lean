import ScriptSandbox.Text.Ranges
import ScriptSandbox.Text.CaseTable

/-!
# Letter case

Lower and upper case of whole texts. A capital sigma at the end of a word has its own lower case
form; some characters have an upper case of two or three.
-/

namespace ScriptSandbox.Text

/-- Characters from `first` to `last`, each or every second one, moved by `offset`. -/
structure Shift where
  first : Nat
  last : Nat
  alternate : Bool
  offset : Int
deriving Inhabited

def Shift.read (cs : List Char) : Shift :=
  let (first, rest) := takeHex cs 0
  let (last, rest) := takeHex (rest.drop 1) 0
  let alternate := rest.head? == some '/'
  let rest := if alternate then rest.drop 1 else rest
  let amount : Int := ((takeHex (rest.drop 1) 0).1 : Nat)
  { first, last, alternate, offset := if rest.head? == some '~' then -amount else amount }

def shifts (table : String) : Array Shift := ((words table).map Shift.read).toArray

def lowerShifts : Array Shift := shifts CaseTable.lower

def upperShifts : Array Shift := shifts CaseTable.upper

def Shift.apply (s : Shift) (n : Nat) : Option Char :=
  if s.first ≤ n ∧ n ≤ s.last ∧ (s.alternate → (n - s.first) % 2 = 0) then
    some (Char.ofNat ((n : Int) + s.offset).toNat)
  else none

def shifted (table : Array Shift) (c : Char) : Char :=
  ((table.find? fun s => (s.apply c.toNat).isSome).bind (·.apply c.toNat)).getD c

/-- The lower case of one character, the capital I with a dot apart. -/
def lowerChar (c : Char) : Char :=
  if c.toNat < 128 then c.toLower else shifted lowerShifts c

def manyUpper : List (Nat × List Char) :=
  (words CaseTable.upperMany).map fun cs =>
    let (n, rest) := takeHex cs 0
    let parts := (String.ofList (rest.drop 1)).splitOn ","
    (n, parts.map fun p => Char.ofNat (takeHex p.toList 0).1)

/-- The upper case of one character. -/
def upperChar (c : Char) : List Char :=
  if c.toNat < 128 then [c.toUpper]
  else (manyUpper.lookup c.toNat).getD [shifted upperShifts c]

def casedRanges : Ranges := Ranges.read CaseTable.cased

def skippedRanges : Ranges := Ranges.read CaseTable.skipped

/-- Whether the first character that is not skipped has case. -/
def meetsCased (cs : List Char) : Bool :=
  match cs.dropWhile skippedRanges.contains with
  | [] => false
  | c :: _ => casedRanges.contains c

/-- The lower case of a text whose characters before, nearest first, are `before`. -/
def lowerAfter (before : List Char) : List Char → List Char
  | [] => []
  | c :: r =>
    let low :=
      if c = 'Σ' then [if meetsCased before && !meetsCased r then 'ς' else 'σ']
      else if c = 'İ' then ['i', Char.ofNat 0x307]
      else [lowerChar c]
    low ++ lowerAfter (c :: before) r

def lower (s : String) : String := String.ofList (lowerAfter [] s.toList)

def upper (s : String) : String := String.ofList (s.toList.flatMap upperChar)

/-- The lower case of the ASCII letters alone. -/
def lowerAscii (s : String) : String := s.map Char.toLower

def foldShifts : Array Shift := shifts CaseTable.folded

/-- The common form of the characters that differ from this one in case only. -/
def foldChar (c : Char) : Char :=
  if c.toNat < 128 then c.toLower else shifted foldShifts c

/-- The characters with the same common form. -/
def caseVariants (c : Char) : List Char :=
  let low := foldChar c
  let back (s : Shift) : Option Char :=
    let n := ((low.toNat : Int) - s.offset).toNat
    if (s.apply n) = some low then some (Char.ofNat n) else none
  let ascii := if low.toNat < 128 ∧ low.isLower then [low.toUpper] else []
  low :: (ascii ++ foldShifts.toList.filterMap back)

end ScriptSandbox.Text
