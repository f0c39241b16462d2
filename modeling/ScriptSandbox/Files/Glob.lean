import ScriptSandbox.Text.Utf8

/-!
# Globs

A glob is a pattern for the bytes of a whole path, without regard to the case of ASCII letters. A
question mark stands for one byte and a star for any run of bytes, slashes included. Two stars
between slashes stand for any number of directories. A class stands for one byte of a set, and a
group in braces for any of its branches.
-/

namespace ScriptSandbox

namespace Glob

/-- The parts of a pattern as they are written. -/
inductive Token
  | literal (c : Char)
  | one
  | run
  /-- Two stars at the start, with the slash behind them. -/
  | anyStart
  /-- Two stars between slashes. -/
  | anyMiddle
  /-- Two stars at the end, with the slash before them. -/
  | anyEnd
  | class_ (negated : Bool) (ranges : List (Char × Char))
  | choice (branches : List (List Token))
deriving Repr, Inhabited

inductive Fault
  | openClass
  | range (low high : Char)
  | unopened
  | unclosed
  | danglingEscape
deriving DecidableEq, Repr

def Fault.message : Fault → String
  | .openClass => "unclosed character class; missing ']'"
  | .range low high => s!"invalid range; '{low}' > '{high}'"
  | .unopened => "unopened alternate group; missing '\x7b' (maybe escape '\x7d' with '[\x7d]'?)"
  | .unclosed => "unclosed alternate group; missing '\x7d' (maybe escape '\x7b' with '[\x7b]'?)"
  | .danglingEscape => "dangling '\\'"

/-! ## Reading a pattern -/

/-- The items of a class up to its closing bracket, last first, and what follows it. `first` holds
before the first item, `inRange` after a hyphen that may join two. -/
def readClass (first inRange : Bool) (ranges : List (Char × Char)) :
    List Char → Except Fault (List (Char × Char) × List Char)
  | [] => .error .openClass
  | c :: rest =>
    if c = ']' ∧ !first then .ok ((if inRange then ('-', '-') :: ranges else ranges), rest)
    else if c = '-' ∧ !first ∧ !inRange then readClass false true ranges rest
    else
      match inRange && c != ']', ranges with
      | true, (low, _) :: more =>
        if c < low then .error (.range low c) else readClass false false ((low, c) :: more) rest
      | _, _ => readClass false false ((c, c) :: ranges) rest

theorem readClass_length {first inRange : Bool} {ranges : List (Char × Char)} {cs : List Char}
    {result : List (Char × Char) × List Char} (h : readClass first inRange ranges cs = .ok result) :
    result.2.length < cs.length := by
  induction cs generalizing first inRange ranges with
  | nil => simp [readClass] at h
  | cons c rest ih =>
    unfold readClass at h
    repeat' split at h
    all_goals first
      | (cases h; simp)
      | exact Nat.lt_succ_of_lt (ih h)
      | cases h

/-- A branch under way: the branches of its group before it and its own tokens, last first. -/
structure Level where
  branches : List (List Token) := []
  tokens : List Token := []

def Level.push (l : Level) (t : Token) : Level := { l with tokens := t :: l.tokens }

/-- Puts two stars behind what was read. `before` is the character before them and `rest` what
follows. -/
def Level.pushDouble (l : Level) (nested : Bool) (before : Option Char) (rest : List Char) :
    Level × List Char :=
  let plain := ((l.push .run).push .run, rest)
  if l.tokens.isEmpty then
    match rest with
    | [] => (l.push .anyStart, [])
    | c :: more => if c = '/' then (l.push .anyStart, more) else plain
  else if before ≠ some '/' ∧ !(nested ∧ (before = some ',' ∨ before = some '\x7b')) then plain
  else
    let close (token : Token) (rest : List Char) : Level × List Char :=
      match l.tokens with
      | .anyStart :: _ | .anyEnd :: _ => (l, rest)
      | tokens => ({ l with tokens := token :: tokens.drop 1 }, rest)
    match rest with
    | [] => close .anyEnd []
    | c :: more =>
      if c = '/' then close .anyMiddle more
      else if nested ∧ (c = ',' ∨ c = '\x7d') then close .anyEnd rest
      else plain

theorem Level.pushDouble_length (l : Level) (nested : Bool) (before : Option Char)
    (rest : List Char) : (l.pushDouble nested before rest).2.length ≤ rest.length := by
  unfold Level.pushDouble
  repeat' split
  all_goals simp_all

/-- Reads a pattern. `outer` are the levels around the present one, `before` is the last character
read. -/
def readTokens (l : Level) (outer : List Level) (before : Option Char) (cs : List Char) :
    Except Fault (List Token) :=
  match cs with
  | [] => if outer.isEmpty then .ok l.tokens.reverse else .error .unclosed
  | '?' :: rest => readTokens (l.push .one) outer (some '?') rest
  | '*' :: '*' :: rest =>
    match _h : l.pushDouble (!outer.isEmpty) before rest with
    | (next, after) =>
      readTokens next outer (some (if after.length < rest.length then '/' else '*')) after
  | '*' :: rest => readTokens (l.push .run) outer (some '*') rest
  | '[' :: rest =>
    let negated := rest.head? = some '!' ∨ rest.head? = some '^'
    match _h : readClass true false [] (if negated then rest.drop 1 else rest) with
    | .ok (ranges, after) => readTokens (l.push (.class_ negated ranges.reverse)) outer (some ']') after
    | .error e => .error e
  | '\x7b' :: rest => readTokens {} (l :: outer) (some '\x7b') rest
  | '\x7d' :: rest =>
    match outer with
    | [] => .error .unopened
    | up :: outer =>
      let branches := (l.tokens.reverse :: l.branches).reverse
      readTokens (up.push (.choice branches)) outer (some '\x7d') rest
  | '\\' :: [] => .error .danglingEscape
  | '\\' :: c :: rest => readTokens (l.push (.literal c)) outer (some c) rest
  | c :: rest =>
    if c = ',' ∧ !outer.isEmpty then
      readTokens { branches := l.tokens.reverse :: l.branches } outer (some ',') rest
    else readTokens (l.push (.literal c)) outer (some c) rest
termination_by cs.length
decreasing_by
  · exact Nat.lt_succ_self _
  · have := Level.pushDouble_length l (!outer.isEmpty) before rest
    rw [_h] at this
    exact Nat.lt_succ_of_lt (Nat.lt_succ_of_le this)
  · exact Nat.lt_succ_self _
  · have hdrop (n : Prop) [Decidable n] :
        (if n then rest.drop 1 else rest).length ≤ rest.length := by
      split
      · exact (List.drop_sublist 1 rest).length_le
      · exact Nat.le_refl _
    exact Nat.lt_succ_of_lt (Nat.lt_of_lt_of_le (readClass_length _h) (hdrop _))
  · exact Nat.lt_succ_self _
  · exact Nat.lt_succ_self _
  · exact Nat.lt_succ_of_lt (Nat.lt_succ_self _)
  · exact Nat.lt_succ_self _
  · exact Nat.lt_succ_self _

def read (pattern : String) : Except Fault (List Token) := readTokens {} [] none pattern.toList

/-! ## Matching -/

/-- What a path is compared with: single bytes, runs and branches. -/
inductive Piece
  | byte (accepts : UInt8 → Bool)
  | run
  | choice (branches : List (List Piece))

/-- The two cases of an ASCII letter, or the byte itself. -/
def bothCases (b : UInt8) : List UInt8 :=
  if 65 ≤ b ∧ b ≤ 90 then [b, b + 32] else if 97 ≤ b ∧ b ≤ 122 then [b, b - 32] else [b]

def folded (accepts : UInt8 → Bool) (b : UInt8) : Bool := (bothCases b).any accepts

def Piece.ofByte (b : UInt8) : Piece := .byte (folded (· == b))

def slash : Piece := .ofByte 47

def Piece.ofChar (c : Char) : List Piece := (String.utf8EncodeChar c).map .ofByte

/-- The bytes of a range. Of a character with several bytes, each of them stands by itself; the
range is between the last byte of the one end and the first of the other. -/
def rangeAccepts (low high : Char) (b : UInt8) : Bool :=
  let ls := String.utf8EncodeChar low
  let hs := String.utf8EncodeChar high
  if low = high then ls.contains b
  else
    ls.dropLast.contains b || (hs.drop 1).contains b ||
      (ls.getLast?.getD 0 ≤ b && b ≤ hs.head?.getD 0)

def classAccepts (negated : Bool) (ranges : List (Char × Char)) (b : UInt8) : Bool :=
  folded (fun b => ranges.any fun (low, high) => rangeAccepts low high b) b != negated

mutual

def Token.pieces : Token → List Piece
  | .literal c => Piece.ofChar c
  | .one => [.byte fun _ => true]
  | .run => [.run]
  | .anyStart => [.choice [[], [slash], [.run, slash]]]
  | .anyMiddle => [.choice [[slash], [slash, .run, slash]]]
  | .anyEnd => [slash, .run]
  | .class_ negated ranges => [.byte (classAccepts negated ranges)]
  | .choice branches =>
    match choicePieces branches with
    | [] => []
    | some_ => [.choice some_]

def tokenPieces : List Token → List Piece
  | [] => []
  | t :: ts => t.pieces ++ tokenPieces ts

/-- The branches that are not empty. -/
def choicePieces : List (List Token) → List (List Piece)
  | [] => []
  | b :: bs =>
    match tokenPieces b with
    | [] => choicePieces bs
    | ps => ps :: choicePieces bs

end

/-- For each place between the bytes of a path, whether the pattern read so far can end there. -/
abbrev Places := List Bool

/-- The places one accepted byte further. -/
def shift (accepts : UInt8 → Bool) (path : Bytes) (places : Places) : Places :=
  false :: List.zipWith (fun here b => here && accepts b) places path

/-- The places at or behind another. -/
def spread (seen : Bool) : Places → Places
  | [] => []
  | here :: rest => (seen || here) :: spread (seen || here) rest

mutual

def Piece.advance (path : Bytes) (places : Places) : Piece → Places
  | .byte accepts => shift accepts path places
  | .run => spread false places
  | .choice branches => advanceAny path places branches

def advanceAll (path : Bytes) (places : Places) : List Piece → Places
  | [] => places
  | p :: ps => advanceAll path (p.advance path places) ps

def advanceAny (path : Bytes) (places : Places) : List (List Piece) → Places
  | [] => places.map fun _ => false
  | b :: bs => List.zipWith (· || ·) (advanceAll path places b) (advanceAny path places bs)

end

end Glob

/-- A pattern ready to be matched. -/
structure Glob where
  pieces : List Glob.Piece

namespace Glob

def ofPattern (pattern : String) : Except Fault Glob := do
  match ← read pattern with
  | [.anyStart] => return ⟨[.run]⟩
  | tokens => return ⟨tokenPieces tokens⟩

/-- Whether a whole path matches. -/
def accepts (g : Glob) (path : String) : Bool :=
  let bytes := Utf8.encode path
  let start := true :: bytes.map fun _ => false
  ((advanceAll bytes start g.pieces).getLast?).getD false

end Glob

end ScriptSandbox
