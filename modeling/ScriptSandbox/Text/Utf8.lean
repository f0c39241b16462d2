/-!
# UTF-8

Characters as bytes and back. `next` takes one character, or the longest run of bytes that can
start one but does not, off a list of bytes; `decode?` refuses such runs and `decodeLossy` puts
the replacement character for each.
-/

namespace ScriptSandbox

abbrev Bytes := List UInt8

namespace Utf8

def encodeChars (cs : List Char) : Bytes := cs.flatMap String.utf8EncodeChar

def encode (s : String) : Bytes := encodeChars s.toList

/-- What a list of bytes starts with. -/
inductive Item
  | char (c : Char)
  /-- Bytes that no character has. -/
  | invalid
  /-- The start of a character that the bytes end in. -/
  | cut
deriving DecidableEq, Repr

/-- The range of the second byte and the number of bytes after the first. -/
def lead (b : UInt8) : Option (UInt8 × UInt8 × Nat) :=
  if b < 0xC2 then none
  else if b < 0xE0 then some (0x80, 0xBF, 1)
  else if b = 0xE0 then some (0xA0, 0xBF, 2)
  else if b = 0xED then some (0x80, 0x9F, 2)
  else if b < 0xF0 then some (0x80, 0xBF, 2)
  else if b = 0xF0 then some (0x90, 0xBF, 3)
  else if b < 0xF4 then some (0x80, 0xBF, 3)
  else if b = 0xF4 then some (0x80, 0x8F, 3)
  else none

/-- Reads `count` further bytes, the first between `low` and `high`. -/
def tail (value : Nat) (low high : UInt8) : Nat → Bytes → Item × Bytes
  | 0, r => (.char (Char.ofNat value), r)
  | _ + 1, [] => (.cut, [])
  | n + 1, b :: r =>
    if low ≤ b ∧ b ≤ high then tail (64 * value + (b.toNat - 0x80)) 0x80 0xBF n r
    else (.invalid, b :: r)

/-- The item at a first byte, and what follows it. -/
def next (b : UInt8) (r : Bytes) : Item × Bytes :=
  if b < 0x80 then (.char (Char.ofNat b.toNat), r)
  else
    match lead b with
    | none => (.invalid, r)
    | some (low, high, n) => tail (b.toNat % Nat.pow 2 (6 - n)) low high n r

theorem tail_length (value : Nat) (low high : UInt8) (n : Nat) (r : Bytes) :
    (tail value low high n r).2.length ≤ r.length := by
  induction n generalizing value low high r with
  | zero => simp [tail]
  | succ n ih =>
    cases r with
    | nil => simp [tail]
    | cons b r =>
      unfold tail
      split
      · exact Nat.le_succ_of_le (ih ..)
      · simp

theorem next_length (b : UInt8) (r : Bytes) : (next b r).2.length ≤ r.length := by
  unfold next
  split
  · simp
  · split
    · simp
    · exact tail_length ..

theorem length_of_next {b : UInt8} {r rest : Bytes} {item : Item} (h : next b r = (item, rest)) :
    rest.length < (b :: r).length := by
  have := next_length b r
  rw [h] at this
  exact Nat.lt_succ_of_le this

/-- The characters of a list of bytes that is valid throughout. -/
def decodeChars? (bytes : Bytes) : Option (List Char) :=
  match bytes with
  | [] => some []
  | b :: r =>
    match _h : next b r with
    | (.char c, rest) => (decodeChars? rest).map (c :: ·)
    | _ => none
termination_by bytes.length
decreasing_by exact length_of_next _h

def decode? (bytes : Bytes) : Option String := (decodeChars? bytes).map String.ofList

/-- The characters of a list of bytes, one replacement character for each invalid run. -/
def decodeLossyChars (bytes : Bytes) : List Char :=
  match bytes with
  | [] => []
  | b :: r =>
    match _h : next b r with
    | (.char c, rest) => c :: decodeLossyChars rest
    | (_, rest) => Char.ofNat 0xFFFD :: decodeLossyChars rest
termination_by bytes.length
decreasing_by all_goals exact length_of_next _h

def decodeLossy (bytes : Bytes) : String := String.ofList (decodeLossyChars bytes)

/-- The characters before the first invalid run or cut, and which of the two ends them. -/
def decodePartial (bytes : Bytes) : List Char × Option Item :=
  match bytes with
  | [] => ([], none)
  | b :: r =>
    match _h : next b r with
    | (.char c, rest) =>
      let (cs, stop) := decodePartial rest
      (c :: cs, stop)
    | (item, _) => ([], some item)
termination_by bytes.length
decreasing_by exact length_of_next _h

end Utf8

end ScriptSandbox
