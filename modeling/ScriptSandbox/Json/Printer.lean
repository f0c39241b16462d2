import ScriptSandbox.Number.Shortest
import ScriptSandbox.Json.Basic

/-!
# JSON text

Written compactly, or over several lines with two spaces for each level. A double always has a
point or an exponent with its sign: it is positional from `1e-5` below `1e16`.
-/

namespace ScriptSandbox

/-- The text of a natural in decimal digits. -/
def decimalDigits (n : Nat) : List Char := Nat.toDigits 10 n

def zeros (n : Nat) : List Char := List.replicate n '0'

def intText (n : Int) : String :=
  String.ofList (if n < 0 then '-' :: decimalDigits n.natAbs else decimalDigits n.natAbs)

namespace Double

/-- The digits of a positive decimal with a point or an exponent. -/
def Decimal.text (d : Decimal) : List Char :=
  let ds := decimalDigits d.digits
  let count : Int := ds.length
  let point := count + d.exponent
  if 0 ≤ d.exponent ∧ point ≤ 16 then ds ++ zeros d.exponent.toNat ++ ".0".toList
  else if 0 < point ∧ point ≤ 16 then ds.take point.toNat ++ '.' :: ds.drop point.toNat
  else if -5 < point ∧ point ≤ 0 then "0.".toList ++ zeros (-point).toNat ++ ds
  else
    let mantissa := match ds with
      | [d] => [d]
      | d :: rest => d :: '.' :: rest
      | [] => []
    let power := point - 1
    mantissa ++ ['e', if power < 0 then '-' else '+'] ++ decimalDigits power.natAbs

/-- The text of a finite double. -/
def text (x : Double) : String :=
  let body := if x.isZero then "0.0".toList else x.shortest.text
  String.ofList (if x.isNegative then '-' :: body else body)

end Double

namespace Json

def hexDigit (n : Nat) : Char := if n < 10 then Char.ofNat (48 + n) else Char.ofNat (87 + n)

/-- One character inside a string. -/
def escapeChar (c : Char) : List Char :=
  match c with
  | '"' => ['\\', '"']
  | '\\' => ['\\', '\\']
  | '\n' => ['\\', 'n']
  | '\r' => ['\\', 'r']
  | '\t' => ['\\', 't']
  | '\x08' => ['\\', 'b']
  | '\x0c' => ['\\', 'f']
  | c => if c.toNat < 32 then ['\\', 'u', '0', '0', hexDigit (c.toNat / 16), hexDigit (c.toNat % 16)]
    else [c]

/-- A string literal. -/
def quoteChars (cs : List Char) : List Char := '"' :: (cs.flatMap escapeChar ++ ['"'])

def quote (s : String) : String := String.ofList (quoteChars s.toList)

end Json

def Number.text : Number → String
  | .int n => intText n
  | .double x => x.text

namespace Json

mutual

/-- The text without blanks. -/
def compact : Json → String
  | .null => "null"
  | .bool b => if b then "true" else "false"
  | .num n => n.text
  | .str s => quote s
  | .arr xs => "[" ++ compactItems xs ++ "]"
  | .obj fs => "\x7b" ++ compactFields fs ++ "\x7d"

def compactItems : List Json → String
  | [] => ""
  | [x] => compact x
  | x :: y :: rest => compact x ++ "," ++ compactItems (y :: rest)

def compactFields : List (String × Json) → String
  | [] => ""
  | [(k, v)] => quote k ++ ":" ++ compact v
  | (k, v) :: f :: rest => quote k ++ ":" ++ compact v ++ "," ++ compactFields (f :: rest)

end

def indent (level : Nat) : String := String.ofList ('\n' :: List.replicate (2 * level) ' ')

mutual

/-- The text over several lines, inside `level` brackets. -/
def prettyAt (level : Nat) : Json → String
  | .arr (x :: xs) => "[" ++ prettyItems (level + 1) (x :: xs) ++ indent level ++ "]"
  | .obj (f :: fs) => "\x7b" ++ prettyFields (level + 1) (f :: fs) ++ indent level ++ "\x7d"
  | .arr [] => "[]"
  | .obj [] => "\x7b\x7d"
  | .null => "null"
  | .bool b => if b then "true" else "false"
  | .num n => n.text
  | .str s => quote s

def prettyItems (level : Nat) : List Json → String
  | [] => ""
  | [x] => indent level ++ prettyAt level x
  | x :: y :: rest => indent level ++ prettyAt level x ++ "," ++ prettyItems level (y :: rest)

def prettyFields (level : Nat) : List (String × Json) → String
  | [] => ""
  | [(k, v)] => indent level ++ quote k ++ ": " ++ prettyAt level v
  | (k, v) :: f :: rest =>
    indent level ++ quote k ++ ": " ++ prettyAt level v ++ "," ++ prettyFields level (f :: rest)

end

def pretty (j : Json) : String := prettyAt 0 j

end Json

end ScriptSandbox
