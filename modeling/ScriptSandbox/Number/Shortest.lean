import ScriptSandbox.Number.Double

/-!
# The fewest digits that read back

`Double.shortest` gives the decimal with the fewest digits among those that round to a finite,
nonzero word: `digits * 10 ^ exponent`, without trailing zeros. Of two on the same grid the nearer
one is taken, and the even one when they are equally near.
-/

namespace ScriptSandbox.Double

/-- A positive decimal, `digits * 10 ^ exponent`. -/
structure Decimal where
  digits : Nat
  exponent : Int
deriving DecidableEq, Repr

/-- The fractions between which every real rounds to the word, over one denominator. -/
structure Interval where
  low : Nat
  value : Nat
  high : Nat
  den : Nat
  closed : Bool

def interval (x : Double) : Interval :=
  let m := x.significand
  let gap := if x.fractionField = 0 ∧ 1 < x.exponentField then 1 else 2
  let e := x.scale - 2
  let up := Nat.pow 2 e.toNat
  { low := (4 * m - gap) * up, value := 4 * m * up, high := (4 * m + 2) * up
    den := Nat.pow 2 (-e).toNat, closed := m % 2 = 0 }

/-- Whether `digits * 10 ^ exponent` lies in the interval. -/
def Interval.holds (i : Interval) (digits : Nat) (exponent : Int) : Bool :=
  let left := digits * Nat.pow 10 exponent.toNat * i.den
  let unit := Nat.pow 10 (-exponent).toNat
  if i.closed then i.low * unit ≤ left && left ≤ i.high * unit
  else i.low * unit < left && left < i.high * unit

/-- The best point of the grid of step `10 ^ exponent`, when one lies in the interval. -/
def Interval.onGrid (i : Interval) (exponent : Int) : Option Nat :=
  let num := i.value * Nat.pow 10 (-exponent).toNat
  let den := i.den * Nat.pow 10 exponent.toNat
  let down := num / den
  let rest := num % den
  let downFits := down ≠ 0 ∧ i.holds down exponent
  let upFits := i.holds (down + 1) exponent
  if downFits then
    if upFits ∧ (den < 2 * rest ∨ (den = 2 * rest ∧ down % 2 = 1)) then some (down + 1)
    else some down
  else if upFits then some (down + 1)
  else none

/-- The number of decimal digits of a natural, one for zero. -/
def digitCount (n : Nat) : Nat := (Nat.toDigits 10 n).length

/-- The power of ten of the leading digit of `num / den`. -/
def leading (num den : Nat) : Int :=
  if den ≤ num then (digitCount (num / den) : Int) - 1
  else -(digitCount ((den - 1) / num) : Int)

/-- The first of the grids `10 ^ (top - 0)`, `10 ^ (top - 1)`, … with a point in the interval. -/
def Interval.search (i : Interval) (exponent : Int) : Nat → Option Decimal
  | 0 => none
  | n + 1 =>
    match i.onGrid exponent with
    | some d => some ⟨d, exponent⟩
    | none => i.search (exponent - 1) n

/-- Drops trailing zeros, at most `fuel` of them. -/
def Decimal.strip (d : Decimal) : Nat → Decimal
  | 0 => d
  | n + 1 => if d.digits % 10 = 0 then strip ⟨d.digits / 10, d.exponent + 1⟩ n else d

def shortest (x : Double) : Decimal :=
  let i := x.interval
  let found := (i.search (leading i.value i.den) 18).getD ⟨x.significand, 0⟩
  found.strip (digitCount found.digits)

end ScriptSandbox.Double
