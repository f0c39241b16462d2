import ScriptSandbox.Argument

/-!
# What a wait is for

A text waits for an element, a number for so many seconds. The number must be one that a count of
nanoseconds below `2 ^ 64` seconds can hold.
-/

namespace ScriptSandbox

inductive WaitTarget
  | selector (text : String)
  | seconds (amount : Double)
deriving DecidableEq, Repr

namespace WaitTarget

/-- Seconds in nanoseconds, to the nearest and to even between two. -/
def nanoseconds? (x : Double) : Option Nat :=
  if x.isNegative && !x.isZero then none
  else
    let (num, den) := x.ratio
    let n := Double.roundHalfEven (num * 1000000000) den
    if n < 0x10000000000000000 * 1000000000 then some n else none

def ofJson : Json → Except Failure WaitTarget
  | .str s =>
    if Text.isBlankText s then .error (.invalidInput "wait() selector must not be empty")
    else .ok (.selector s)
  | .num n =>
    match nanoseconds? n.toDouble with
    | some _ => .ok (.seconds n.toDouble)
    | none =>
      .error (.invalidInput "wait() seconds must be a non-negative number within range")
  | other =>
    .error (.invalidInput
      s!"wait() expects a selector string or a number of seconds, got {other.shape}")

/-- How long a wait for a number of seconds lasts, in nanoseconds. -/
def duration? : WaitTarget → Option Nat
  | .selector _ => none
  | .seconds x => nanoseconds? x

end WaitTarget

end ScriptSandbox
