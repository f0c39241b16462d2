import ScriptSandbox.Number.Double

/-!
# Arithmetic of doubles

The operations on all words: each result is the exact one rounded once, with the usual rules for
zeros, infinities and words that are no numbers.
-/

namespace ScriptSandbox.Double

def signed (negative : Bool) (x : Double) : Double := if negative then x.neg else x

def isInfinite (x : Double) : Bool := !x.isFinite && !x.isNaN

/-- A finite word as a fraction with its sign. -/
def signedRatio (x : Double) : Int × Nat :=
  let (num, den) := x.ratio
  (if x.isNegative then -(num : Int) else (num : Int), den)

def ofSignedRatio (num : Int) (den : Nat) : Double := ofRatio (num < 0) num.natAbs den

def plus (x y : Double) : Double :=
  if x.isNaN || y.isNaN then nan
  else if x.isInfinite then if y.isInfinite && x.isNegative != y.isNegative then nan else x
  else if y.isInfinite then y
  else if x.isZero && y.isZero then if x.isNegative && y.isNegative then x else zero
  else
    let (a, b) := x.signedRatio
    let (c, d) := y.signedRatio
    ofSignedRatio (a * d + c * b) (b * d)

def minus (x y : Double) : Double := x.plus y.neg

def times (x y : Double) : Double :=
  let negative := x.isNegative != y.isNegative
  if x.isNaN || y.isNaN then nan
  else if x.isInfinite || y.isInfinite then
    if x.isZero || y.isZero then nan else infinity.signed negative
  else x.mul y

def dividedBy (x y : Double) : Double :=
  let negative := x.isNegative != y.isNegative
  if x.isNaN || y.isNaN then nan
  else if x.isInfinite then if y.isInfinite then nan else infinity.signed negative
  else if y.isInfinite then zero.signed negative
  else if y.isZero then if x.isZero then nan else infinity.signed negative
  else x.div y

/-- The rest of a division toward zero, with the sign of the dividend. -/
def rest (x y : Double) : Double :=
  if x.isNaN || y.isNaN || x.isInfinite || y.isZero then nan
  else if y.isInfinite then x
  else
    let (a, b) := x.ratio
    let (c, d) := y.ratio
    ofRatio x.isNegative ((a * d) % (c * b)) (b * d)

/-- The order of two words, none when one is no number. -/
def compare? (x y : Double) : Option Ordering :=
  if x.isNaN || y.isNaN then none
  else
    let key (x : Double) : Int := if x.isNegative then -(x.magnitude : Int) else (x.magnitude : Int)
    some (compare (key x) (key y))

/-- Whether two words are equal as numbers. -/
def same (x y : Double) : Bool := x.compare? y == some .eq

def power (x y : Double) : Double :=
  if y.isNaN then nan
  else if y.isZero then ofNat 1
  else if (x.same (ofNat 1) || x.same (ofInt (-1))) && y.isInfinite then nan
  else
    match x.toInt?, y.toInt? with
    | some a, some (.ofNat n) =>
      if n ≤ 1100 && !x.isZero then ofInt (Int.pow a n) else ofFloat (Float.pow x.toFloat y.toFloat)
    | _, _ => ofFloat (Float.pow x.toFloat y.toFloat)

/-- The whole part as a word of 32 bits. -/
def toWord (x : Double) : UInt32 :=
  if x.isFinite then UInt32.ofNat (x.truncate % 0x100000000).toNat else 0

/-- The whole part as a signed word of 32 bits. -/
def toInt32 (x : Double) : Int := x.toWord.toInt32.toInt

def floor (x : Double) : Double :=
  if !x.isFinite || x.isZero then x
  else
    let (num, den) := x.signedRatio
    let n := num / den
    if n = 0 then zero else ofInt n

def ceiling (x : Double) : Double := (floor x.neg).neg

/-- The whole part toward zero. -/
def whole (x : Double) : Double := if x.isNegative then x.ceiling else x.floor

end ScriptSandbox.Double
