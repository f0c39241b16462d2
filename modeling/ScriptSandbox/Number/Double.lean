/-!
# Doubles

A double is its 64-bit word, so equality is decidable and every rule about text and rounding is
arithmetic on naturals. A finite word stands for `significand * 2 ^ scale`; `ofRatio` is the
nearest word to a fraction, with ties to the even significand.
-/

namespace ScriptSandbox

/-- A 64-bit binary floating point word. -/
structure Double where
  bits : UInt64
deriving DecidableEq, Inhabited, Repr

namespace Double

def signBit : UInt64 := 0x8000000000000000

def infinity : Double := ⟨0x7ff0000000000000⟩

def nan : Double := ⟨0x7ff8000000000000⟩

def zero : Double := ⟨0⟩

/-- The bits without the sign. -/
def magnitude (x : Double) : Nat := x.bits.toNat % 0x8000000000000000

def isNegative (x : Double) : Bool := 0x8000000000000000 ≤ x.bits.toNat

def neg (x : Double) : Double := ⟨x.bits ^^^ signBit⟩

def exponentField (x : Double) : Nat := x.magnitude / 0x10000000000000

def fractionField (x : Double) : Nat := x.magnitude % 0x10000000000000

def isFinite (x : Double) : Bool := x.exponentField < 2047

def isNaN (x : Double) : Bool := x.exponentField == 2047 && x.fractionField != 0

def isZero (x : Double) : Bool := x.magnitude == 0

/-- The integer significand of a finite word. -/
def significand (x : Double) : Nat :=
  if x.exponentField = 0 then x.fractionField else 0x10000000000000 + x.fractionField

/-- The power of two that the significand of a finite word is scaled by. -/
def scale (x : Double) : Int :=
  (if x.exponentField = 0 then 1 else (x.exponentField : Int)) - 1075

/-- The fraction a finite word stands for, without its sign. -/
def ratio (x : Double) : Nat × Nat :=
  match x.scale with
  | .ofNat k => (x.significand * Nat.pow 2 k, 1)
  | .negSucc k => (x.significand, Nat.pow 2 (k + 1))

/-- Nearest natural to `num / den`, ties to even. -/
def roundHalfEven (num den : Nat) : Nat :=
  let q := num / den
  let r := num % den
  if 2 * r < den then q
  else if den < 2 * r then q + 1
  else if q % 2 = 0 then q else q + 1

/-- The least scale, not below the subnormal one, at which `num / den` has at most 53 bits. -/
def scaleFor (num den : Nat) : Int :=
  let estimate : Int := (num.log2 : Int) - (den.log2 : Int) - 53
  let fits (e : Int) : Bool :=
    num * Nat.pow 2 (-e).toNat < den * 0x20000000000000 * Nat.pow 2 e.toNat
  let e := if fits estimate then estimate else estimate + 1
  max (-1074) e

/-- The nearest word to `num / den`; too large a fraction becomes infinity. -/
def ofRatio (negative : Bool) (num den : Nat) : Double :=
  let word : Nat :=
    if num = 0 then 0
    else
      let e := scaleFor num den
      let q := roundHalfEven (num * Nat.pow 2 (-e).toNat) (den * Nat.pow 2 e.toNat)
      min ((e + 1074).toNat * 0x10000000000000 + q) infinity.bits.toNat
  ⟨UInt64.ofNat (if negative then 0x8000000000000000 + word else word)⟩

def ofNat (n : Nat) : Double := ofRatio false n 1

def ofInt (n : Int) : Double := ofRatio (n < 0) n.natAbs 1

/-- The nearest word to `digits * 10 ^ exponent`. -/
def ofDecimal (negative : Bool) (digits : Nat) (exponent : Int) : Double :=
  if digits = 0 then ofRatio negative 0 1
  else if exponent > 400 then ofRatio negative (Nat.pow 2 1024) 1
  else if (digits.log2 : Int) + 3 * exponent < -1100 then ofRatio negative 0 1
  else ofRatio negative (digits * Nat.pow 10 exponent.toNat) (Nat.pow 10 (-exponent).toNat)

/-- Whether a finite word is a whole number, and which. -/
def toInt? (x : Double) : Option Int :=
  if x.isFinite then
    let (num, den) := x.ratio
    if num % den = 0 then
      let n : Int := ((num / den : Nat) : Int)
      some (if x.isNegative then -n else n)
    else none
  else none

/-- A finite word without its fractional part. -/
def truncate (x : Double) : Int :=
  let (num, den) := x.ratio
  let n : Int := ((num / den : Nat) : Int)
  if x.isNegative then -n else n

/-- The product of two finite words, rounded once. -/
def mul (x y : Double) : Double :=
  let (a, b) := x.ratio
  let (c, d) := y.ratio
  ofRatio (x.isNegative != y.isNegative) (a * c) (b * d)

/-- The quotient of two finite words, rounded once; the divisor is not zero. -/
def div (x y : Double) : Double :=
  let (a, b) := x.ratio
  let (c, d) := y.ratio
  ofRatio (x.isNegative != y.isNegative) (a * d) (b * c)

def ofFloat (x : Float) : Double := if x.isNaN then nan else ⟨x.toBits⟩

def toFloat (x : Double) : Float := Float.ofBits x.bits

/-- The order of finite words as numbers. -/
def le (x y : Double) : Bool :=
  let (a, b) := x.ratio
  let (c, d) := y.ratio
  let left : Int := if x.isNegative then -((a * d : Nat) : Int) else ((a * d : Nat) : Int)
  let right : Int := if y.isNegative then -((c * b : Nat) : Int) else ((c * b : Nat) : Int)
  left ≤ right

end Double

end ScriptSandbox
