import ScriptSandbox.Number.Double

/-!
# JSON values

Whole numbers and doubles are kept apart. The fields of an object are in increasing order of
their names and each name stands once, so equal objects are equal lists.
-/

namespace ScriptSandbox

/-- A JSON number: a whole number, or a finite double. -/
inductive Number
  | int (value : Int)
  | double (value : Double)
deriving DecidableEq, Repr, Inhabited

inductive Json
  | null
  | bool (value : Bool)
  | num (value : Number)
  | str (value : String)
  | arr (items : List Json)
  | obj (fields : List (String × Json))
deriving Repr, Inhabited, BEq

namespace Number

/-- Whole numbers of 64 bits, signed or unsigned. -/
def isWord (n : Int) : Bool := -0x8000000000000000 ≤ n && n < 0x10000000000000000

def toDouble : Number → Double
  | .int n => .ofInt n
  | .double x => x

end Number

namespace Json

def int (n : Int) : Json := .num (.int n)

def nat (n : Nat) : Json := .num (.int n)

def double (x : Double) : Json := .num (.double x)

/-- Puts a field in its place, over one of the same name. -/
def insertField (name : String) (value : Json) :
    List (String × Json) → List (String × Json)
  | [] => [(name, value)]
  | (other, old) :: rest =>
    if name = other then (name, value) :: rest
    else if name < other then (name, value) :: (other, old) :: rest
    else (other, old) :: insertField name value rest

/-- The object with these fields; of two with one name the later counts. -/
def object (fields : List (String × Json)) : Json :=
  .obj (fields.foldl (fun acc f => insertField f.1 f.2 acc) [])

def field? (name : String) : Json → Option Json
  | .obj fields => fields.lookup name
  | _ => none

/-- A field, null when it is missing. -/
def field (name : String) (j : Json) : Json := (j.field? name).getD .null

def str? : Json → Option String
  | .str s => some s
  | _ => none

def bool? : Json → Option Bool
  | .bool b => some b
  | _ => none

def items : Json → List Json
  | .arr xs => xs
  | _ => []

def isNull : Json → Bool
  | .null => true
  | _ => false

/-- The name of a value's shape. -/
def shape : Json → String
  | .null => "null"
  | .bool _ => "boolean"
  | .num _ => "number"
  | .str _ => "string"
  | .arr _ => "array"
  | .obj _ => "object"

mutual

/-- Whether two values are equal, objects with their fields in the same order. -/
def decEq : (a b : Json) → Decidable (a = b)
  | null, null => isTrue rfl
  | bool x, bool y => decidable_of_iff (x = y) (by rw [bool.injEq])
  | num x, num y => decidable_of_iff (x = y) (by rw [num.injEq])
  | str x, str y => decidable_of_iff (x = y) (by rw [str.injEq])
  | arr xs, arr ys => @decidable_of_iff _ (xs = ys) (by rw [arr.injEq]) (decEqItems xs ys)
  | obj xs, obj ys => @decidable_of_iff _ (xs = ys) (by rw [obj.injEq]) (decEqFields xs ys)
  | null, bool _ | null, num _ | null, str _ | null, arr _ | null, obj _
  | bool _, null | bool _, num _ | bool _, str _ | bool _, arr _ | bool _, obj _
  | num _, null | num _, bool _ | num _, str _ | num _, arr _ | num _, obj _
  | str _, null | str _, bool _ | str _, num _ | str _, arr _ | str _, obj _
  | arr _, null | arr _, bool _ | arr _, num _ | arr _, str _ | arr _, obj _
  | obj _, null | obj _, bool _ | obj _, num _ | obj _, str _ | obj _, arr _ => isFalse nofun

def decEqItems : (xs ys : List Json) → Decidable (xs = ys)
  | [], [] => isTrue rfl
  | x :: xs, y :: ys =>
    have := decEq x y
    have := decEqItems xs ys
    decidable_of_iff (x = y ∧ xs = ys) (by rw [List.cons.injEq])
  | [], _ :: _ | _ :: _, [] => isFalse nofun

def decEqFields : (xs ys : List (String × Json)) → Decidable (xs = ys)
  | [], [] => isTrue rfl
  | (n, x) :: xs, (m, y) :: ys =>
    have := decEq x y
    have := decEqFields xs ys
    decidable_of_iff (n = m ∧ x = y ∧ xs = ys) (by rw [List.cons.injEq, Prod.mk.injEq, and_assoc])
  | [], _ :: _ | _ :: _, [] => isFalse nofun

end

instance : DecidableEq Json := decEq

end Json

end ScriptSandbox
