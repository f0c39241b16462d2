import ScriptSandbox.Guest.Store

/-!
# Conversions between values

What the operators do with values that are no objects, and what they refuse.
-/

namespace ScriptSandbox.Guest

/-- Why a guest is stopped: the kind of error and its message. -/
structure Mistake where
  kind : ErrorKind
  message : String
deriving DecidableEq, Repr

namespace Mistake

def type (message : String) : Mistake := ⟨.type, message⟩

def notObject : Mistake := type "cannot convert 'null' or 'undefined' to object"

def notCallable : Mistake := type "not a callable function"

def notConstructor : Mistake := type "not a constructor"

def notWritable (key : Units) : Mistake :=
  type ("cannot set non-writable property: " ++ Units.text key)

def notDeletable (key : Units) : Mistake := type ("cannot delete property: " ++ Units.text key)

def notDefinable (key : Units) : Mistake := type ("cannot redefine property: " ++ Units.text key)

def immutable (name : String) : Mistake := type s!"cannot mutate an immutable binding '{name}'"

def notDefined (name : String) : Mistake := ⟨.reference, s!"{name} is not defined"⟩

def notReached : Mistake := ⟨.reference, "access of uninitialized binding"⟩

def mixedBigint : Mistake :=
  type "cannot mix BigInt and other types, use explicit conversions"

end Mistake

namespace Value

def isObject : Value → Bool
  | .object _ => true
  | _ => false

/-- Whether a value is undefined or null. -/
def isMissing : Value → Bool
  | .undefined | .null => true
  | _ => false

/-- Whether a value counts as true. -/
def truthy : Value → Bool
  | .undefined | .null => false
  | .bool b => b
  | .number x => !x.isNaN && !x.isZero
  | .bigint n => n != 0
  | .text u => !u.isEmpty
  | .symbol _ _ | .object _ => true

def bigintText (n : Int) : Units := Units.ofString (intText n)

/-- The text of a value that is no object. -/
def toText : Value → Except Mistake Units
  | .undefined => .ok (Units.ofString "undefined")
  | .null => .ok (Units.ofString "null")
  | .bool b => .ok (Units.ofString (if b then "true" else "false"))
  | .number x => .ok (numberText x)
  | .bigint n => .ok (bigintText n)
  | .text u => .ok u
  | .symbol _ _ => .error (.type "cannot convert Symbol to string")
  | .object _ => .error (.type "cannot convert object to primitive value")

/-- The number that a value, which is no object, stands for. -/
def toNumber : Value → Except Mistake Double
  | .undefined => .ok .nan
  | .null => .ok .zero
  | .bool b => .ok (if b then .ofNat 1 else .zero)
  | .number x => .ok x
  | .bigint _ => .error (.type "argument must not be a bigint")
  | .text u => .ok (readNumber u)
  | .symbol _ _ => .error (.type "argument must not be a symbol")
  | .object _ => .error (.type "cannot convert object to primitive value")

def symbolText (label : Units) : Units :=
  Units.ofString "Symbol(" ++ label ++ Units.ofString ")"

/-- The name of the property that a value stands for. -/
def toKey : Value → Units
  | .symbol _ label => symbolText label
  | v => (v.toText.toOption).getD []

/-- A whole number for a position; what is no number counts as zero. -/
def toIndex (v : Value) : Except Mistake Int :=
  v.toNumber.map fun x => if x.isFinite then x.truncate
    else if x.isInfinite then (if x.isNegative then -0x20000000000000 else 0x20000000000000) else 0

/-! ## Equality -/

def strictlyEqual : Value → Value → Bool
  | .number x, .number y => x.same y
  | .symbol a _, .symbol b _ => a == b
  | a, b => a == b

/-- Equality of a whole number and what a text or a number says. -/
def bigintEquals (n : Int) (x : Double) : Bool := x.toInt? == some n

/-- Equality with conversions, of values that are not an object and something else. -/
def looselyEqual (a b : Value) : Bool :=
  match a, b with
  | .null, .undefined | .undefined, .null => true
  | .number x, .text u | .text u, .number x => x.same (readNumber u)
  | .bigint n, .text u | .text u, .bigint n => bigintEquals n (readNumber u)
  | .bigint n, .number x | .number x, .bigint n => bigintEquals n x
  | .bool p, .bool q => p == q
  | .bool p, b | b, .bool p =>
    match b with
    | .number x => x.same (if p then .ofNat 1 else .zero)
    | .text u => (readNumber u).same (if p then .ofNat 1 else .zero)
    | .bigint n => n == (if p then 1 else 0)
    | _ => false
  | a, b => strictlyEqual a b

/-- Equality that takes what is no number to be equal to itself. -/
def sameOrNaN (a b : Value) : Bool :=
  match a, b with
  | .number x, .number y => x.same y || (x.isNaN && y.isNaN)
  | a, b => strictlyEqual a b

end Value

/-! ## Operators -/

namespace BinaryOp

def isEquality : BinaryOp → Bool
  | .looseEq | .looseNe | .strictEq | .strictNe => true
  | _ => false

/-- Whether the operator looks at objects as they are. -/
def takesObjects : BinaryOp → Bool
  | .strictEq | .strictNe | .instanceOf | .inside => true
  | _ => false

def onDoubles (op : BinaryOp) (x y : Double) : Value :=
  let word (n : UInt32) : Value := .number (.ofInt n.toInt32.toInt)
  match op with
  | .add => .number (x.plus y)
  | .sub => .number (x.minus y)
  | .mul => .number (x.times y)
  | .div => .number (x.dividedBy y)
  | .rem => .number (x.rest y)
  | .pow => .number (x.power y)
  | .shiftLeft => word (x.toWord <<< (y.toWord % 32))
  | .shiftRight => .number (.ofInt (x.toInt32 >>> (y.toWord % 32).toNat))
  | .shiftRightZero => .number (.ofNat (x.toWord >>> (y.toWord % 32)).toNat)
  | .bitAnd => word (x.toWord &&& y.toWord)
  | .bitOr => word (x.toWord ||| y.toWord)
  | .bitXor => word (x.toWord ^^^ y.toWord)
  | .less => .bool (x.compare? y == some .lt)
  | .greater => .bool (x.compare? y == some .gt)
  | .lessEq => .bool (x.compare? y == some .lt || x.compare? y == some .eq)
  | .greaterEq => .bool (x.compare? y == some .gt || x.compare? y == some .eq)
  | _ => .undefined

def onInts (op : BinaryOp) (a b : Int) : Except Mistake Value :=
  match op with
  | .add => .ok (.bigint (a + b))
  | .sub => .ok (.bigint (a - b))
  | .mul => .ok (.bigint (a * b))
  | .div => if b = 0 then .error ⟨.range, "BigInt division by zero"⟩ else .ok (.bigint (a.tdiv b))
  | .rem => if b = 0 then .error ⟨.range, "BigInt division by zero"⟩ else .ok (.bigint (a.tmod b))
  | .pow =>
    if b < 0 then .error ⟨.range, "BigInt negative exponent"⟩
    else if b > 100000 then .error ⟨.range, "maximum BigInt size exceeded"⟩
    else .ok (.bigint (Int.pow a b.toNat))
  | .less => .ok (.bool (a < b))
  | .greater => .ok (.bool (b < a))
  | .lessEq => .ok (.bool (a ≤ b))
  | .greaterEq => .ok (.bool (b ≤ a))
  | _ => .error .mixedBigint

def isComparison : BinaryOp → Bool
  | .less | .lessEq | .greater | .greaterEq => true
  | _ => false

/-- An operator on numbers, of values that are no objects. -/
def onNumbers (op : BinaryOp) (a b : Value) : Except Mistake Value :=
  match a, b with
  | .bigint m, .bigint n => op.onInts m n
  | .bigint m, b =>
    if op.isComparison then b.toNumber.map (op.onDoubles (.ofInt m)) else .error .mixedBigint
  | a, .bigint n =>
    if op.isComparison then a.toNumber.map (op.onDoubles · (.ofInt n)) else .error .mixedBigint
  | a, b => do
    let x ← a.toNumber
    return op.onDoubles x (← b.toNumber)

def onTexts (op : BinaryOp) (u v : Units) : Value :=
  .bool (match op with
    | .less => Units.before u v
    | .greater => Units.before v u
    | .lessEq => !Units.before v u
    | _ => !Units.before u v)

/-- An operator on values that are no objects, or that it looks at as they are. -/
def apply (op : BinaryOp) (a b : Value) : Except Mistake Value :=
  match op with
  | .strictEq => .ok (.bool (Value.strictlyEqual a b))
  | .strictNe => .ok (.bool (!Value.strictlyEqual a b))
  | .looseEq => .ok (.bool (Value.looselyEqual a b))
  | .looseNe => .ok (.bool (!Value.looselyEqual a b))
  | .add =>
    match a, b with
    | .text u, b => b.toText.map fun v => .text (u ++ v)
    | a, .text v => a.toText.map fun u => .text (u ++ v)
    | a, b => onNumbers .add a b
  | op =>
    match a, b with
    | .text u, .text v => if op.isComparison then .ok (op.onTexts u v) else op.onNumbers a b
    | a, b => op.onNumbers a b

end BinaryOp

def UnaryOp.apply (op : UnaryOp) (v : Value) : Except Mistake Value :=
  match op, v with
  | .not, v => .ok (.bool (!v.truthy))
  | .void, _ => .ok .undefined
  | .minus, .bigint n => .ok (.bigint (-n))
  | .minus, v => v.toNumber.map fun x => .number x.neg
  | .plus, v => v.toNumber.map .number
  | .complement, .bigint n => .ok (.bigint (-n - 1))
  | .complement, v => v.toNumber.map fun x => .number (.ofInt (-x.toInt32 - 1))
  | .typeOf, v => .ok v

/-- What kind of value it is, in the words of guests. -/
def Realm.typeName (r : Realm) (v : Value) : String :=
  match v with
  | .undefined => "undefined"
  | .null => "object"
  | .bool _ => "boolean"
  | .number _ => "number"
  | .bigint _ => "bigint"
  | .text _ => "string"
  | .symbol _ _ => "symbol"
  | .object o => if (r.obj o).isCallable then "function" else "object"

end ScriptSandbox.Guest
