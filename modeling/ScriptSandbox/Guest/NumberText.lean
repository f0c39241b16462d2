import ScriptSandbox.Json.Printer
import ScriptSandbox.Number.Arithmetic
import ScriptSandbox.Text.Blank
import ScriptSandbox.Text.Units

/-!
# Numbers and texts of guests

A number is written with the fewest digits that read back, positionally from `1e-6` below `1e21`.
A text is read as a number when all of it, apart from blanks at its ends, is one.
-/

namespace ScriptSandbox.Guest

/-- The text of a positive decimal. -/
def decimalText (d : Double.Decimal) : List Char :=
  let ds := decimalDigits d.digits
  let point : Int := ds.length + d.exponent
  if 0 ≤ d.exponent ∧ point ≤ 21 then ds ++ zeros d.exponent.toNat
  else if 0 < point ∧ point ≤ 21 then ds.take point.toNat ++ '.' :: ds.drop point.toNat
  else if -6 < point ∧ point ≤ 0 then '0' :: '.' :: (zeros (-point).toNat ++ ds)
  else
    let mantissa := match ds with
      | [d] => [d]
      | d :: rest => d :: '.' :: rest
      | [] => []
    let power := point - 1
    mantissa ++ ['e', if power < 0 then '-' else '+'] ++ decimalDigits power.natAbs

def numberChars (x : Double) : List Char :=
  if x.isNaN then "NaN".toList
  else if x.isZero then ['0']
  else
    let body := if x.isFinite then decimalText x.shortest else "Infinity".toList
    if x.isNegative then '-' :: body else body

def numberText (x : Double) : Units := Units.ofChars (numberChars x)

def digitValue (c : Char) : Nat :=
  if c.isDigit then c.toNat - 48
  else if 'a' ≤ c ∧ c ≤ 'z' then c.toNat - 87
  else if 'A' ≤ c ∧ c ≤ 'Z' then c.toNat - 55
  else 99

/-- The number that digits of a base write. -/
def digitsIn (base : Nat) (cs : List Char) : Option Nat :=
  if cs.isEmpty || cs.any (base ≤ digitValue ·) then none
  else some (cs.foldl (fun n c => n * base + digitValue c) 0)

/-- Takes digits, and says how many there were. -/
def takeDigits (cs : List Char) : Nat × Nat × List Char :=
  let ds := cs.takeWhile Char.isDigit
  (ds.foldl (fun n c => n * 10 + digitValue c) 0, ds.length, cs.dropWhile Char.isDigit)

def takeExponent (cs : List Char) : Int × List Char :=
  let (negative, body) := match cs.drop 1 with
    | '-' :: r => (true, r)
    | '+' :: r => (false, r)
    | r => (false, r)
  let (n, count, rest) := takeDigits body
  if count = 0 then (0, cs) else (if negative then -(n : Int) else n, rest)

/-- Takes a decimal without a sign off a text. -/
def takeDecimal (cs : List Char) : Option (Double × List Char) :=
  let (whole, count, rest) := takeDigits cs
  let (digits, places, rest) := match rest with
    | '.' :: r =>
      let (part, places, after) := takeDigits r
      if count = 0 ∧ places = 0 then (whole, 0, rest) else (whole * Nat.pow 10 places + part, places, after)
    | r => (whole, 0, r)
  if count = 0 ∧ places = 0 then none
  else
    let (exponent, rest) := match rest with
      | 'e' :: _ | 'E' :: _ => takeExponent rest
      | r => (0, r)
    some (Double.ofDecimal false digits (exponent - places), rest)

def unsignedNumber (cs : List Char) : Double :=
  if cs == "Infinity".toList then Double.infinity
  else
    match takeDecimal cs with
    | some (x, []) => x
    | _ => Double.nan

/-- The number that a text stands for. -/
def readNumber (u : Units) : Double :=
  let ofDigits (base : Nat) (ds : List Char) : Double :=
    match digitsIn base ds with
    | some n => .ofNat n
    | none => .nan
  match Text.trimEnd (Text.trimStart (Units.chars u)) with
  | [] => Double.zero
  | '0' :: 'x' :: ds | '0' :: 'X' :: ds => ofDigits 16 ds
  | '0' :: 'o' :: ds | '0' :: 'O' :: ds => ofDigits 8 ds
  | '0' :: 'b' :: ds | '0' :: 'B' :: ds => ofDigits 2 ds
  | '-' :: cs => (unsignedNumber cs).neg
  | '+' :: cs => unsignedNumber cs
  | cs => unsignedNumber cs

/-- The number that a text begins with. -/
def readLeadingNumber (u : Units) : Double :=
  let unsigned (cs : List Char) : Double :=
    if "Infinity".toList.isPrefixOf cs then Double.infinity
    else ((takeDecimal cs).map Prod.fst).getD Double.nan
  match Text.trimStart (Units.chars u) with
  | '-' :: cs => (unsigned cs).neg
  | '+' :: cs => unsigned cs
  | cs => unsigned cs

/-- The whole number, in a base, that a text begins with. -/
def readLeadingInteger (u : Units) (base : Nat) : Double :=
  let cs := Text.trimStart (Units.chars u)
  let (negative, cs) := match cs with
    | '-' :: r => (true, r)
    | '+' :: r => (false, r)
    | r => (false, r)
  let (base, cs) := match cs with
    | '0' :: 'x' :: r | '0' :: 'X' :: r => if base = 0 ∨ base = 16 then (16, r) else (base, cs)
    | r => (if base = 0 then 10 else base, r)
  if base < 2 ∨ 36 < base then Double.nan
  else
    match digitsIn base (cs.takeWhile (digitValue · < base)) with
    | some n => (Double.ofNat n).signed negative
    | none => Double.nan

/-- The natural that a text writes, if it is the written form of one. -/
def naturalOf? (u : Units) : Option Nat :=
  match Units.chars u with
  | [] => none
  | '0' :: rest => if rest.isEmpty then some 0 else none
  | cs => digitsIn 10 cs

/-- The index that a text writes, if it is the written form of one. -/
def indexOf? (u : Units) : Option Nat := (naturalOf? u).filter (· < 0xffffffff)

end ScriptSandbox.Guest
