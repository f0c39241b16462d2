/-!
# UTF-16 units

Texts as lists of 16-bit units, in which half of a pair may stand alone. Reading such a text as
characters puts the replacement character for a lone half.
-/

namespace ScriptSandbox

abbrev Units := List UInt16

namespace Units

def ofChar (c : Char) : Units :=
  let n := c.toNat
  if n < 0x10000 then [UInt16.ofNat n]
  else [UInt16.ofNat (0xD800 + (n - 0x10000) / 0x400), UInt16.ofNat (0xDC00 + (n - 0x10000) % 0x400)]

def ofChars (cs : List Char) : Units := cs.flatMap ofChar

def ofString (s : String) : Units := ofChars s.toList

def isHigh (u : UInt16) : Bool := 0xD800 ≤ u && u < 0xDC00

def isLow (u : UInt16) : Bool := 0xDC00 ≤ u && u < 0xE000

def isHalf (u : UInt16) : Bool := 0xD800 ≤ u && u < 0xE000

/-- The character of two halves. -/
def join (high low : UInt16) : Char :=
  Char.ofNat (0x10000 + (high.toNat - 0xD800) * 0x400 + (low.toNat - 0xDC00))

/-- The characters of a text, with what `lone` puts for a half that stands alone. -/
def charsWith (lone : UInt16 → List Char) : Units → List Char
  | [] => []
  | [u] => if isHalf u then lone u else [Char.ofNat u.toNat]
  | u :: v :: rest =>
    if isHigh u && isLow v then join u v :: charsWith lone rest
    else if isHalf u then lone u ++ charsWith lone (v :: rest)
    else Char.ofNat u.toNat :: charsWith lone (v :: rest)

/-- The characters, with the replacement character for each lone half. -/
def chars : Units → List Char := charsWith fun _ => [Char.ofNat 0xFFFD]

def text (u : Units) : String := String.ofList (chars u)

def hexFour (digit : Nat → Char) (n : Nat) : List Char :=
  [digit (n / 4096 % 16), digit (n / 256 % 16), digit (n / 16 % 16), digit (n % 16)]

/-- The characters, with an escape for each lone half. -/
def shownText (u : Units) : String :=
  String.ofList (charsWith (fun h => '\\' :: 'u' :: (hexFour Nat.digitChar h.toNat).map Char.toUpper) u)

/-- Whether one text comes before another, unit by unit. -/
def before : Units → Units → Bool
  | _, [] => false
  | [], _ :: _ => true
  | u :: us, v :: vs => u < v || (u == v && before us vs)

end Units

end ScriptSandbox
