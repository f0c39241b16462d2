/-!
# Punycode

A label of any characters as one of ASCII characters. Characters beyond ASCII are written as the
steps between them, in increasing order, by numbers of variable length whose digit limits follow
the steps seen so far.
-/

namespace ScriptSandbox.Punycode

/-- The digits: letters, then decimal digits. -/
def digit (n : Nat) : Char := Char.ofNat (if n < 26 then 97 + n else 22 + n)

def value? (c : Char) : Option Nat :=
  let n := c.toNat
  if 97 ≤ n ∧ n ≤ 122 then some (n - 97)
  else if 65 ≤ n ∧ n ≤ 90 then some (n - 65)
  else if 48 ≤ n ∧ n ≤ 57 then some (n - 22)
  else none

/-- The first value that a digit in place `k` cannot have as the last one of its number. -/
def limit (k bias : Nat) : Nat := max 1 (min 26 (k - bias))

theorem limit_bounds (k bias : Nat) : 1 ≤ limit k bias ∧ limit k bias ≤ 26 := by
  unfold limit
  omega

/-- How often a step is divided by 35 until it is small, and what is left. -/
def halvings (delta : Nat) : Nat × Nat :=
  if 455 < delta then
    let (times, left) := halvings (delta / 35)
    (times + 1, left)
  else (0, delta)
termination_by delta

/-- The bias behind a step that made `count` characters. -/
def adapt (delta count : Nat) (first : Bool) : Nat :=
  let damped := if first then delta / 700 else delta / 2
  let (times, left) := halvings (damped + damped / count)
  36 * times + 36 * left / (left + 38)

def encodeNumber (bias k n : Nat) : List Char :=
  let t := limit k bias
  if n < t then [digit n]
  else digit (t + (n - t) % (36 - t)) :: encodeNumber bias (k + 36) ((n - t) / (36 - t))
termination_by n
decreasing_by
  have := limit_bounds k bias
  have := Nat.div_le_self (n - limit k bias) (36 - limit k bias)
  omega

/-- Writing, with the next code point, the step so far, the bias and the number of characters
written. -/
structure Writer where
  text : List Char := []
  delta : Nat := 0
  bias : Nat := 72
  count : Nat

/-- Passes one character of the label, when the characters with code point `m` are written. -/
def Writer.pass (basic m : Nat) (w : Writer) (c : Char) : Writer :=
  if c.toNat < m then { w with delta := w.delta + 1 }
  else if c.toNat = m then
    { text := w.text ++ encodeNumber w.bias 36 w.delta
      delta := 0
      bias := adapt w.delta (w.count + 1) (w.count = basic)
      count := w.count + 1 }
  else w

/-- Writes the characters with these code points, which increase; `n` is the next one that could
come. -/
def writeAll (label : List Char) (basic : Nat) : List Nat → Nat → Writer → Writer
  | [], _, w => w
  | m :: rest, n, w =>
    let w := { w with delta := w.delta + (m - n) * (w.count + 1) }
    let w := label.foldl (Writer.pass basic m) w
    writeAll label basic rest (m + 1) { w with delta := w.delta + 1 }

def encode (label : List Char) : List Char :=
  let ascii := label.filter (·.toNat < 128)
  let others := ((label.filter (128 ≤ ·.toNat)).map Char.toNat).eraseDups.mergeSort
  let start := if ascii.isEmpty then [] else ascii ++ ['-']
  start ++ (writeAll label ascii.length others 128 { count := ascii.length }).text

/-- Reads one number: its value and what follows it. -/
def decodeNumber (bias : Nat) (k weight sum : Nat) : List Char → Option (Nat × List Char)
  | [] => none
  | c :: rest =>
    match value? c with
    | none => none
    | some d =>
      let sum := sum + d * weight
      let t := limit k bias
      if 0x100000000 ≤ sum then none
      else if d < t then some (sum, rest)
      else decodeNumber bias (k + 36) (weight * (36 - t)) sum rest

theorem decodeNumber_length {bias k weight sum : Nat} {cs : List Char} {r : Nat × List Char}
    (h : decodeNumber bias k weight sum cs = some r) : r.2.length < cs.length := by
  induction cs generalizing k weight sum with
  | nil => simp [decodeNumber] at h
  | cons c rest ih =>
    unfold decodeNumber at h
    split at h
    · cases h
    · simp only at h
      split at h
      · cases h
      · split at h
        · cases h
          simp
        · exact Nat.lt_succ_of_lt (ih h)

/-- Puts in the characters that the numbers give. -/
def decodeFrom (out : List Char) (n i bias : Nat) (first : Bool) (cs : List Char) :
    Option (List Char) :=
  match cs with
  | [] => some out
  | c :: rest =>
    match _h : decodeNumber bias 36 1 0 (c :: rest) with
    | none => none
    | some (delta, after) =>
      let count := out.length + 1
      let place := i + delta
      let m := n + place / count
      if m.isValidChar then
        let out := out.take (place % count) ++ Char.ofNat m :: out.drop (place % count)
        decodeFrom out m (place % count + 1) (adapt delta count first) false after
      else none
termination_by cs.length
decreasing_by exact decodeNumber_length _h

def decode (text : List Char) : Option (List Char) :=
  let tail := (text.reverse.takeWhile (· ≠ '-')).reverse
  let basic := text.take (text.length - tail.length - 1)
  if basic.all (·.toNat < 128) then decodeFrom basic 128 0 72 true tail else none

end ScriptSandbox.Punycode
