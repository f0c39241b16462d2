import ScriptSandbox.Text.Utf8
import ScriptSandbox.Json.Printer

/-!
# Reading JSON

`Json.read` takes the bytes of a text to its value, or to a fault with the line and the column
where reading stopped. Every reader takes the bytes that are left and returns those it leaves.
Brackets nest at most 127 deep.
-/

namespace ScriptSandbox.Json

inductive Cause
  | endInList
  | endInObject
  | endInString
  | endInValue
  | noColon
  | noListComma
  | noObjectComma
  | badWord
  | noValue
  | badEscape
  | badNumber
  | hugeNumber
  | badUtf8
  | controlCharacter
  | keyNotString
  | loneSurrogate
  | trailingComma
  | trailingText
  | cutEscape
  | tooDeep
  /-- A value of another shape than the one asked for. -/
  | wrongShape (found expected : String)
  | wrongValue (found expected : String)
  | repeatedField (name : String)
deriving DecidableEq, Repr

def Cause.message : Cause → String
  | .endInList => "EOF while parsing a list"
  | .endInObject => "EOF while parsing an object"
  | .endInString => "EOF while parsing a string"
  | .endInValue => "EOF while parsing a value"
  | .noColon => "expected `:`"
  | .noListComma => "expected `,` or `]`"
  | .noObjectComma => "expected `,` or `\x7d`"
  | .badWord => "expected ident"
  | .noValue => "expected value"
  | .badEscape => "invalid escape"
  | .badNumber => "invalid number"
  | .hugeNumber => "number out of range"
  | .badUtf8 => "invalid unicode code point"
  | .controlCharacter => "control character (\\u0000-\\u001F) found while parsing a string"
  | .keyNotString => "key must be a string"
  | .loneSurrogate => "lone leading surrogate in hex escape"
  | .trailingComma => "trailing comma"
  | .trailingText => "trailing characters"
  | .cutEscape => "unexpected end of hex escape"
  | .tooDeep => "recursion limit exceeded"
  | .wrongShape found expected => "invalid type: " ++ found ++ ", expected " ++ expected
  | .wrongValue found expected => "invalid value: " ++ found ++ ", expected " ++ expected
  | .repeatedField name => "duplicate field `" ++ name ++ "`"

/-- A fault, with the number of bytes after the place it names. -/
structure Fault where
  cause : Cause
  left : Nat
deriving DecidableEq, Repr

namespace Fault

/-- The fault behind the last byte read. -/
def here (cause : Cause) (rest : Bytes) : Fault := ⟨cause, rest.length⟩

/-- The fault at the byte to be read next. -/
def next (cause : Cause) (rest : Bytes) : Fault := ⟨cause, rest.length - 1⟩

/-- The line of the last of `bytes` and its column there. -/
def position (bytes : Bytes) : Nat × Nat :=
  let step (place : Nat × Nat) (b : UInt8) : Nat × Nat :=
    if b = 10 then (place.1 + 1, 0) else (place.1, place.2 + 1)
  bytes.foldl step (1, 0)

/-- The message for a fault in reading `source`. -/
def message (f : Fault) (source : Bytes) : String :=
  let (line, column) := position (source.take (source.length - f.left))
  f.cause.message ++ " at line " ++ intText line ++ " column " ++ intText column

end Fault

abbrev Reader (α : Type) := Bytes → Except Fault (α × Bytes)

def isSpace (b : UInt8) : Bool := b == 32 || b == 10 || b == 9 || b == 13

def skipSpace (s : Bytes) : Bytes := s.dropWhile isSpace

def isDigit (b : UInt8) : Bool := 48 ≤ b && b ≤ 57

/-- The rest of a word whose first letter has been read. -/
def readWord (word : List Char) (s : Bytes) : Except Fault Bytes :=
  match word with
  | [] => .ok s
  | c :: word =>
    match s with
    | [] => .error (.here .endInValue [])
    | b :: r => if b.toNat = c.toNat then readWord word r else .error (.here .badWord r)

/-! ## Numbers -/

/-- The doubles nearest to the powers of ten, for the exponents that have one. -/
def powerOfTen (n : Nat) : Double := .ofDecimal false 1 n

/-- `x` times a power of ten by one or several rounded steps; `none` when it is too large. -/
def scaleDouble (x : Double) (exponent : Int) : Nat → Option Double
  | 0 => some .zero
  | n + 1 =>
    if exponent.natAbs ≤ 308 then
      if 0 ≤ exponent then
        let y := x.mul (powerOfTen exponent.toNat)
        if y.isFinite then some y else none
      else some (x.div (powerOfTen exponent.natAbs))
    else if x.isZero then some x
    else if 0 ≤ exponent then none
    else scaleDouble (x.div (powerOfTen 308)) (exponent + 308) n

def finish (negative : Bool) (digits : Nat) (exponent : Int) (s : Bytes) :
    Except Fault (Number × Bytes) :=
  match scaleDouble (.ofNat digits) exponent 5 with
  | none => .error (.here .hugeNumber s)
  | some x => .ok (.double (if negative then x.neg else x), s)

def wordMax : Nat := 0xffffffffffffffff

/-- Further digits of a significand; `false` when one does not fit in 64 bits. -/
def significandDigits (digits count : Nat) : Bytes → Nat × Nat × Bool × Bytes
  | [] => (digits, count, true, [])
  | b :: r =>
    if isDigit b then
      let next := 10 * digits + (b.toNat - 48)
      if wordMax < next then (digits, count, false, b :: r) else significandDigits next (count + 1) r
    else (digits, count, true, b :: r)

/-- The value of a run of digits, and the rest. -/
def exponentDigits (value : Nat) : Bytes → Nat × Bytes
  | [] => (value, [])
  | b :: r => if isDigit b then exponentDigits (10 * value + (b.toNat - 48)) r else (value, b :: r)

def readExponent (negative : Bool) (digits : Nat) (exponent : Int) (s : Bytes) :
    Except Fault (Number × Bytes) :=
  let (down, s) := match s with
    | 43 :: r => (false, r)
    | 45 :: r => (true, r)
    | s => (false, s)
  match s with
  | [] => .error (.here .endInValue [])
  | b :: r =>
    if isDigit b then
      let (value, rest) := exponentDigits (b.toNat - 48) r
      if 0x80000000 ≤ value then
        if digits ≠ 0 ∧ !down then
          -- The fault names the digit that makes the exponent too large.
          let fitting := (r.takeWhile isDigit).length
          let tooLong := (List.range (fitting + 1)).find? fun n =>
            0x80000000 ≤ (exponentDigits (b.toNat - 48) (r.take n)).1
          .error (.here .hugeNumber (r.drop (tooLong.getD 0)))
        else .ok (.double (if negative then Double.zero.neg else .zero), rest)
      else finish negative digits (if down then exponent - value else exponent + value) rest
    else .error (.here .badNumber r)

/-- The digits after the point. -/
def readFraction (negative : Bool) (digits : Nat) (exponent : Int) (s : Bytes) :
    Except Fault (Number × Bytes) :=
  let (digits, count, fits, rest) := significandDigits digits 0 s
  if count = 0 ∧ fits then
    match rest with
    | [] => .error (.next .endInValue [])
    | _ => .error (.next .badNumber rest)
  else
    let rest := if fits then rest else rest.dropWhile isDigit
    match rest with
    | 101 :: r | 69 :: r => readExponent negative digits (exponent - count) r
    | _ => finish negative digits (exponent - count) rest

/-- What stands behind the digits before the point. `whole` says that no digit has been left out. -/
def readBehind (negative : Bool) (digits : Nat) (exponent : Nat) (whole : Bool) (s : Bytes) :
    Except Fault (Number × Bytes) :=
  match s with
  | 46 :: r => readFraction negative digits exponent r
  | 101 :: r | 69 :: r => readExponent negative digits exponent r
  | _ =>
    if !whole then finish negative digits exponent s
    else if !negative then .ok (.int digits, s)
    else if digits = 0 ∨ 0x8000000000000000 < digits then .ok (.double (Double.ofNat digits).neg, s)
    else .ok (.int (-digits), s)

/-- A number behind its sign. -/
def readNumber (negative : Bool) (s : Bytes) : Except Fault (Number × Bytes) :=
  match s with
  | [] => .error (.here .endInValue [])
  | 48 :: r =>
    match r with
    | b :: _ => if isDigit b then .error (.next .badNumber r) else readBehind negative 0 0 true r
    | [] => readBehind negative 0 0 true r
  | b :: r =>
    if isDigit b then
      let (digits, _, fits, rest) := significandDigits (b.toNat - 48) 1 r
      if fits then readBehind negative digits 0 true rest
      else
        let extra := rest.takeWhile isDigit
        readBehind negative digits extra.length false (rest.drop extra.length)
    else .error (.here .badNumber r)

/-! ## Strings -/

def hexValue (b : UInt8) : Option Nat :=
  if isDigit b then some (b.toNat - 48)
  else if 97 ≤ b ∧ b ≤ 102 then some (b.toNat - 87)
  else if 65 ≤ b ∧ b ≤ 70 then some (b.toNat - 55)
  else none

/-- The four hexadecimal digits of an escape. -/
def readHex (s : Bytes) : Except Fault (Nat × Bytes) :=
  match s with
  | a :: b :: c :: d :: r =>
    match hexValue a, hexValue b, hexValue c, hexValue d with
    | some a, some b, some c, some d => .ok (((a * 16 + b) * 16 + c) * 16 + d, r)
    | _, _, _, _ => .error (.here .badEscape r)
  | _ => .error (.here .endInString [])

/-- The character of a `\u` escape, whose letter has been read; two escapes may make one. -/
def readUnicode (s : Bytes) : Except Fault (Char × Bytes) := do
  let (n, s) ← readHex s
  if 0xDC00 ≤ n ∧ n ≤ 0xDFFF then throw (.here .loneSurrogate s)
  if n < 0xD800 ∨ 0xDBFF < n then return (Char.ofNat n, s)
  match s with
  | [] => throw (.here .endInString [])
  | 92 :: s =>
    match s with
    | [] => throw (.here .endInString [])
    | 117 :: s =>
      let (low, s) ← readHex s
      if low < 0xDC00 ∨ 0xDFFF < low then throw (.here .loneSurrogate s)
      return (Char.ofNat (0x10000 + (n - 0xD800) * 1024 + (low - 0xDC00)), s)
    | _ :: s => throw (.here .cutEscape s)
  | _ :: s => throw (.here .cutEscape s)

/-- The bytes an escape stands for; the backslash has been read. -/
def readEscape (s : Bytes) : Except Fault (Bytes × Bytes) :=
  match s with
  | [] => .error (.here .endInString [])
  | 34 :: r => .ok ([34], r)
  | 92 :: r => .ok ([92], r)
  | 47 :: r => .ok ([47], r)
  | 98 :: r => .ok ([8], r)
  | 102 :: r => .ok ([12], r)
  | 110 :: r => .ok ([10], r)
  | 114 :: r => .ok ([13], r)
  | 116 :: r => .ok ([9], r)
  | 117 :: r => (readUnicode r).map fun (c, r) => (String.utf8EncodeChar c, r)
  | _ :: r => .error (.here .badEscape r)

/-- The bytes of a string behind its opening quote, in reverse before `acc`. -/
def readStringBytes (acc : Bytes) : Nat → Reader Bytes
  | 0, s => .error (.here .endInString s)
  | _ + 1, [] => .error (.here .endInString [])
  | n + 1, b :: r =>
    if b = 34 then .ok (acc.reverse, r)
    else if b = 92 then
      match readEscape r with
      | .error f => .error f
      | .ok (bytes, r) => readStringBytes (bytes.reverse ++ acc) n r
    else if b < 32 then .error (.here .controlCharacter r)
    else readStringBytes (b :: acc) n r

/-- A string behind its opening quote. Bytes that are no character are a fault at the first of
them, once the string is known to end. -/
def readString (s : Bytes) : Except Fault (String × Bytes) :=
  match readStringBytes [] (s.length + 1) s with
  | .error f => .error f
  | .ok (bytes, rest) =>
    match Utf8.decode? bytes with
    | some text => .ok (text, rest)
    | none =>
      let valid := Utf8.encodeChars (Utf8.decodePartial s).1
      .error (.next .badUtf8 (s.drop valid.length))

/-! ## Values -/

/-- What stands before an item: the start of the item, or the closing bracket. -/
def nextItem (first : Bool) (s : Bytes) : Except Fault (Bool × Bytes) :=
  match skipSpace s with
  | [] => .error (.next .endInList [])
  | 93 :: r => .ok (false, 93 :: r)
  | 44 :: r =>
    if first then .ok (true, 44 :: r)
    else
      match skipSpace r with
      | [] => .error (.next .endInValue [])
      | 93 :: r => .error (.next .trailingComma (93 :: r))
      | r => .ok (true, r)
  | s => if first then .ok (true, s) else .error (.next .noListComma s)

/-- What stands before a field: its name's opening quote, or the closing brace. -/
def nextField (first : Bool) (s : Bytes) : Except Fault (Bool × Bytes) :=
  let name (s : Bytes) : Except Fault (Bool × Bytes) :=
    match s with
    | 34 :: r => .ok (true, 34 :: r)
    | s => .error (.next .keyNotString s)
  match skipSpace s with
  | [] => .error (.next .endInObject [])
  | 125 :: r => .ok (false, 125 :: r)
  | 44 :: r =>
    if first then name (44 :: r)
    else
      match skipSpace r with
      | [] => .error (.next .endInValue [])
      | 125 :: r => .error (.next .trailingComma (125 :: r))
      | r => name r
  | s => if first then name s else .error (.next .noObjectComma s)

def readColon (s : Bytes) : Except Fault Bytes :=
  match skipSpace s with
  | [] => .error (.next .endInObject [])
  | 58 :: r => .ok r
  | s => .error (.next .noColon s)

mutual

/-- A value, inside brackets that leave room for `depth` more. -/
def readValue (depth : Nat) : Nat → Reader Json
  | 0, s => .error (.here .endInValue s)
  | n + 1, s =>
    match skipSpace s with
    | [] => .error (.next .endInValue [])
    | 110 :: r => (readWord "ull".toList r).map fun r => (.null, r)
    | 116 :: r => (readWord "rue".toList r).map fun r => (.bool true, r)
    | 102 :: r => (readWord "alse".toList r).map fun r => (.bool false, r)
    | 45 :: r => (readNumber true r).map fun (x, r) => (.num x, r)
    | 34 :: r => (readString r).map fun (x, r) => (.str x, r)
    | 91 :: r =>
      if depth ≤ 1 then .error (.next .tooDeep (91 :: r)) else readItems (depth - 1) [] n r
    | 123 :: r =>
      if depth ≤ 1 then .error (.next .tooDeep (123 :: r)) else readFields (depth - 1) [] n r
    | b :: r =>
      if isDigit b then (readNumber false (b :: r)).map fun (x, r) => (.num x, r)
      else .error (.next .noValue (b :: r))

/-- The items behind those read before, which stand in reverse in `acc`. -/
def readItems (depth : Nat) (acc : List Json) : Nat → Reader Json
  | 0, s => .error (.here .endInValue s)
  | n + 1, s =>
    match nextItem acc.isEmpty s with
    | .error f => .error f
    | .ok (false, r) => .ok (.arr acc.reverse, r.drop 1)
    | .ok (true, r) =>
      match readValue depth n r with
      | .error f => .error f
      | .ok (x, r) => readItems depth (x :: acc) n r

/-- The fields behind those read before, which stand in reverse in `acc`. -/
def readFields (depth : Nat) (acc : List (String × Json)) : Nat → Reader Json
  | 0, s => .error (.here .endInValue s)
  | n + 1, s =>
    match nextField acc.isEmpty s with
    | .error f => .error f
    | .ok (false, r) => .ok (object acc.reverse, r.drop 1)
    | .ok (true, r) =>
      match readString (r.drop 1) with
      | .error f => .error f
      | .ok (name, r) =>
        match readColon r with
        | .error f => .error f
        | .ok r =>
          match readValue depth n r with
          | .error f => .error f
          | .ok (x, r) => readFields depth ((name, x) :: acc) n r

end

def maxDepth : Nat := 128

/-- Refuses anything but blanks. -/
def readEnd (s : Bytes) : Except Fault Unit :=
  match skipSpace s with
  | [] => .ok ()
  | s => .error (.next .trailingText s)

/-- The value of a whole text. -/
def read (source : Bytes) : Except Fault Json := do
  let (value, rest) ← readValue maxDepth (2 * source.length + 2) source
  readEnd rest
  return value

end ScriptSandbox.Json
