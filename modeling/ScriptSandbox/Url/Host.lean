import ScriptSandbox.Text.Utf8
import ScriptSandbox.Url.Domain

/-!
# Hosts

The host of an address: a domain name, an Internet address of version 4 or 6, or any text where
the scheme is not known.
-/

namespace ScriptSandbox

inductive UrlFault
  | emptyHost
  | badDomain
  | badHostChar
  | badPort
  | badV4
  | badV6
  | relative
deriving DecidableEq, Repr

def UrlFault.message : UrlFault → String
  | .emptyHost => "empty host"
  | .badDomain => "invalid international domain name"
  | .badHostChar => "invalid domain character"
  | .badPort => "invalid port number"
  | .badV4 => "invalid IPv4 address"
  | .badV6 => "invalid IPv6 address"
  | .relative => "relative URL without a base"

/-! ## Percent signs -/

namespace Percent

def hex (b : UInt8) : List Char :=
  let digit (n : Nat) : Char := (Nat.digitChar n).toUpper
  ['%', digit (b.toNat / 16), digit (b.toNat % 16)]

/-- Writes the bytes of characters that are not plain, and those that `also` names, as numbers. -/
def encode (also : String) (cs : List Char) : List Char :=
  cs.flatMap fun c =>
    if c.toNat < 32 ∨ 127 ≤ c.toNat ∨ also.toList.contains c then
      (String.utf8EncodeChar c).flatMap hex
    else [c]

/-- The bytes of a text in which numbers stand for bytes. -/
def decode : Bytes → Bytes
  | 37 :: a :: b :: rest =>
    match Text.hexDigit? (Char.ofNat a.toNat), Text.hexDigit? (Char.ofNat b.toNat) with
    | some x, some y => UInt8.ofNat (16 * x + y) :: decode rest
    | _, _ => 37 :: decode (a :: b :: rest)
  | b :: rest => b :: decode rest
  | [] => []

def fragment : String := " \"<>`"

def path : String := fragment ++ "#?\x7b\x7d"

def userInfo : String := path ++ "/:;=@[\\]^|"

def query : String := " \"#<>"

/-- The characters encoded in the query of an address whose scheme is known. -/
def knownQuery : String := query ++ "'"

end Percent

/-! ## Hosts -/

inductive Host
  | absent
  | domain (name : List Char)
  | text (name : List Char)
  | v4 (address : Nat)
  | v6 (pieces : List Nat)
deriving DecidableEq, Repr

namespace Host

/-- A number of an address of version 4: decimal, octal after a zero, hexadecimal after `0x`. -/
def v4Number (cs : List Char) : Option Nat :=
  let read (base : Nat) (digits : List Char) : Option Nat := do
    let values ← digits.mapM fun c => (Text.hexDigit? c).filter (· < base)
    return values.foldl (fun n d => base * n + d) 0
  match cs with
  | [] => none
  | '0' :: 'x' :: digits | '0' :: 'X' :: digits => read 16 digits
  | '0' :: d :: digits => read 8 (d :: digits)
  | digits => read 10 digits

/-- Whether the last label of a name, or the one before an empty last one, is a number. -/
def endsInNumber (name : List Char) : Bool :=
  let numeric (label : List Char) : Bool :=
    (!label.isEmpty && label.all Char.isDigit) || (v4Number label).isSome
  match (Domain.labels name).reverse with
  | [] :: label :: _ => numeric label
  | label :: _ => numeric label
  | [] => false

def readV4 (name : List Char) : Option Nat := do
  let parts := Domain.labels name
  let parts := if parts.getLast? = some [] then parts.dropLast else parts
  guard (parts.length ≤ 4)
  let numbers ← parts.mapM v4Number
  let last ← numbers.getLast?
  let front := numbers.dropLast
  guard (last < Nat.pow 256 (4 - front.length) ∧ front.all (· < 256))
  let high := front.zipIdx.foldl (fun sum (n, i) => sum + n * Nat.pow 256 (3 - i)) 0
  return high + last

/-- The parts of a text between colons. -/
def colonParts (cs : List Char) : List (List Char) :=
  let step (c : Char) (acc : List Char × List (List Char)) : List Char × List (List Char) :=
    if c = ':' then ([], acc.1 :: acc.2) else (c :: acc.1, acc.2)
  let (first, rest) := cs.foldr step ([], [])
  first :: rest

def v6Piece (cs : List Char) : Option Nat := do
  guard (1 ≤ cs.length ∧ cs.length ≤ 4)
  let values ← cs.mapM Text.hexDigit?
  return values.foldl (fun n d => 16 * n + d) 0

/-- Four decimal numbers between dots, as two pieces. -/
def v6Tail (cs : List Char) : Option (List Nat) := do
  let numbers ← (Domain.labels cs).mapM fun part => do
    guard (part ≠ [] ∧ part.all Char.isDigit ∧ (part.length = 1 ∨ part.head? ≠ some '0'))
    let n := part.foldl (fun n c => 10 * n + (c.toNat - 48)) 0
    guard (n < 256)
    return n
  match numbers with
  | [a, b, c, d] => some [256 * a + b, 256 * c + d]
  | _ => none

/-- The pieces of one side of a double colon. -/
def v6Side (tailAllowed : Bool) (cs : List Char) : Option (List Nat) :=
  if cs.isEmpty then some []
  else do
    let parts := colonParts cs
    let last ← parts.getLast?
    if tailAllowed ∧ last.contains '.' then
      return (← parts.dropLast.mapM v6Piece) ++ (← v6Tail last)
    else parts.mapM v6Piece

/-- Splits at the first double colon. -/
def splitDouble : List Char → Option (List Char × List Char)
  | ':' :: ':' :: rest => some ([], rest)
  | c :: rest => (splitDouble rest).map fun r => (c :: r.1, r.2)
  | [] => none

def readV6 (cs : List Char) : Option (List Nat) :=
  match splitDouble cs with
  | some (left, right) => do
    let front ← v6Side false left
    let back ← v6Side true right
    guard (front.length + back.length ≤ 7)
    return front ++ List.replicate (8 - front.length - back.length) 0 ++ back
  | none => do
    let pieces ← v6Side true cs
    guard (pieces.length = 8)
    return pieces

/-- The longest run of zeros, of two at least: where it starts and its length. -/
def longestZeros (pieces : List Nat) : Option (Nat × Nat) :=
  let runs := (List.range pieces.length).map fun i =>
    (i, ((pieces.drop i).takeWhile (· = 0)).length)
  let best := runs.foldl (fun best r => if best.2 < r.2 then r else best) (0, 1)
  if best.2 < 2 then none else some best

def hexNumber (n : Nat) : List Char := Nat.toDigits 16 n

def v6Text (pieces : List Nat) : List Char :=
  let joined (ps : List Nat) : List Char := [':'].intercalate (ps.map hexNumber)
  match longestZeros pieces with
  | some (start, count) =>
    joined (pieces.take start) ++ [':', ':'] ++ joined (pieces.drop (start + count))
  | none => joined pieces

def toText : Host → List Char
  | .absent => []
  | .domain name | .text name => name
  | .v4 n =>
    ['.'].intercalate ([n / 0x1000000, n / 0x10000 % 256, n / 256 % 256, n % 256].map fun k =>
      (toString k).toList)
  | .v6 pieces => '[' :: v6Text pieces ++ [']']

def readBracketed (cs : List Char) : Except UrlFault Host :=
  if cs.getLast? = some ']' then
    match readV6 (cs.drop 1).dropLast with
    | some pieces => .ok (.v6 pieces)
    | none => .error .badV6
  else .error .badV6

/-- The host of an address whose scheme is known. -/
def read (cs : List Char) : Except UrlFault Host :=
  if cs.head? = some '[' then readBracketed cs
  else
    let decoded := Utf8.decodeLossyChars (Percent.decode (Utf8.encodeChars cs))
    match Domain.toAscii decoded with
    | none => .error .badDomain
    | some [] => .error .emptyHost
    | some name =>
      if endsInNumber name then
        match readV4 name with
        | some n => .ok (.v4 n)
        | none => .error .badV4
      else .ok (.domain name)

def isBarredChar (c : Char) : Bool :=
  c.toNat == 0 || "\t\n\r #/:<>?@[\\]^|".toList.contains c

/-- The host of an address whose scheme is not known. -/
def readAny (cs : List Char) : Except UrlFault Host :=
  if cs.head? = some '[' then readBracketed cs
  else if cs.any isBarredChar then .error .badHostChar
  else if cs.isEmpty then .ok .absent
  else .ok (.text (Percent.encode "" cs))

end Host

end ScriptSandbox
