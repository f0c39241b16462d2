import ScriptSandbox.Failure
import ScriptSandbox.Text.Blank

/-!
# Arguments of host functions

Arguments are JSON values, and one that is not given is null. A value of the wrong shape is a
usage error, except where text is optional.
-/

namespace ScriptSandbox

abbrev Arguments := List Json

namespace Arguments

def get (args : Arguments) (index : Nat) : Json := (args[index]?).getD .null

/-- A text with something other than blanks. -/
def textOf? (value : Json) : Option String :=
  match value with
  | .str s => if Text.isBlankText s then none else some s
  | _ => none

def requireText (args : Arguments) (index : Nat) (name : String) : Except Failure String :=
  match textOf? (args.get index) with
  | some s => .ok s
  | none => .error (.invalidInput s!"'{name}' must be a non-empty string")

/-- A text that may be empty, as null is. -/
def requireAnyText (args : Arguments) (index : Nat) (name : String) : Except Failure String :=
  match args.get index with
  | .str s => .ok s
  | .null => .ok ""
  | other => .error (.invalidInput s!"'{name}' must be a string, got {other.shape}")

def optionalText (args : Arguments) (index : Nat) : Option String := textOf? (args.get index)

/-- The whole part of a double, held between zero and the largest 64-bit word. -/
def clampWord (x : Double) : Nat := min (x.truncate.toNat) 0xffffffffffffffff

/-- A number that is not negative, without its fractional part. -/
def countOf (value : Json) (name : String) : Except Failure (Option Nat) :=
  match value with
  | .null => .ok none
  | .num n =>
    if n.toDouble.isNegative && !n.toDouble.isZero then
      .error (.invalidInput s!"'{name}' must be a non-negative number")
    else .ok (some (clampWord n.toDouble))
  | other => .error (.invalidInput s!"'{name}' must be a number, got {other.shape}")

def optionalCount (args : Arguments) (index : Nat) (name : String) : Except Failure (Option Nat) :=
  countOf (args.get index) name

def optionalObject (args : Arguments) (index : Nat) (name : String) :
    Except Failure (Option (List (String × Json))) :=
  match args.get index with
  | .null => .ok none
  | .obj fields => .ok (some fields)
  | other => .error (.invalidInput s!"'{name}' must be an object, got {other.shape}")

end Arguments

end ScriptSandbox
