import ScriptSandbox.Guest.Store

/-!
# What every guest starts with

The objects that stand in a new realm have fixed numbers: first the prototypes and the like, then
the functions, in the order of `Native.homes`.
-/

namespace ScriptSandbox.Guest

inductive Intrinsic
  | global
  | objectProto
  | functionProto
  | arrayProto
  | textProto
  | numberProto
  | boolProto
  | symbolProto
  | bigintProto
  | dateProto
  | regexProto
  | promiseProto
  | json
  | math
  | errorProto (k : ErrorKind)
deriving DecidableEq, Repr

namespace Intrinsic

/-- All but the prototypes of errors. -/
def single : List Intrinsic :=
  [.global, .objectProto, .functionProto, .arrayProto, .textProto, .numberProto, .boolProto,
    .symbolProto, .bigintProto, .dateProto, .regexProto, .promiseProto, .json, .math]

def all : List Intrinsic := single ++ ErrorKind.all.map .errorProto

def id (i : Intrinsic) : ObjId := all.idxOf i

def value (i : Intrinsic) : Value := .object i.id

end Intrinsic

namespace Native

/-- Where a function is found: in an object, or in another function. -/
inductive Home
  | within (i : Intrinsic)
  | of (n : Native)
deriving DecidableEq, Repr

/-- A function with where it is found, its name and its number of parameters. -/
abbrev Entry := Native × Home × String × Nat

def makers : List Entry :=
  [(.makeObject, .within .global, "Object", 1), (.makeFunction, .within .global, "Function", 1),
    (.makeArray, .within .global, "Array", 1), (.makeText, .within .global, "String", 1),
    (.makeNumber, .within .global, "Number", 1), (.makeBool, .within .global, "Boolean", 1),
    (.makeSymbol, .within .global, "Symbol", 0), (.makeBigint, .within .global, "BigInt", 1),
    (.makeDate, .within .global, "Date", 7), (.makeRegex, .within .global, "RegExp", 2),
    (.makePromise, .within .global, "Promise", 1)]

def errorMakers : List Entry :=
  ErrorKind.all.map fun k => (.makeError k, .within .global, k.name, 1)

def others : List Entry :=
  [(.eval, .within .global, "eval", 1), (.parseInt, .within .global, "parseInt", 2),
    (.parseFloat, .within .global, "parseFloat", 1), (.isNaN, .within .global, "isNaN", 1),
    (.isFinite, .within .global, "isFinite", 1),
    (.keys, .of .makeObject, "keys", 1), (.values, .of .makeObject, "values", 1),
    (.entries, .of .makeObject, "entries", 1), (.assign, .of .makeObject, "assign", 2),
    (.defineProperty, .of .makeObject, "defineProperty", 3),
    (.preventExtensions, .of .makeObject, "preventExtensions", 1),
    (.ownNames, .of .makeObject, "getOwnPropertyNames", 1),
    (.protoOf, .of .makeObject, "getPrototypeOf", 1),
    (.hasOwn, .within .objectProto, "hasOwnProperty", 1),
    (.objectText, .within .objectProto, "toString", 0),
    (.objectValue, .within .objectProto, "valueOf", 0),
    (.functionCall, .within .functionProto, "call", 1),
    (.functionApply, .within .functionProto, "apply", 2),
    (.isArray, .of .makeArray, "isArray", 1),
    (.push, .within .arrayProto, "push", 1), (.pop, .within .arrayProto, "pop", 0),
    (.slice, .within .arrayProto, "slice", 2), (.concat, .within .arrayProto, "concat", 1),
    (.indexOf, .within .arrayProto, "indexOf", 1), (.includes, .within .arrayProto, "includes", 1),
    (.join, .within .arrayProto, "join", 1), (.reverse, .within .arrayProto, "reverse", 0),
    (.walk .map, .within .arrayProto, "map", 1), (.walk .filter, .within .arrayProto, "filter", 1),
    (.walk .forEach, .within .arrayProto, "forEach", 1),
    (.walk .some, .within .arrayProto, "some", 1), (.walk .every, .within .arrayProto, "every", 1),
    (.walk .find, .within .arrayProto, "find", 1),
    (.walk .reduce, .within .arrayProto, "reduce", 1), (.sort, .within .arrayProto, "sort", 1),
    (.arrayText, .within .arrayProto, "toString", 0),
    (.textValue, .within .textProto, "toString", 0), (.textValue, .within .textProto, "valueOf", 0),
    (.upper, .within .textProto, "toUpperCase", 0), (.lower, .within .textProto, "toLowerCase", 0),
    (.startsWith, .within .textProto, "startsWith", 1),
    (.endsWith, .within .textProto, "endsWith", 1),
    (.textIncludes, .within .textProto, "includes", 1),
    (.textIndexOf, .within .textProto, "indexOf", 1), (.textSlice, .within .textProto, "slice", 2),
    (.trim, .within .textProto, "trim", 0), (.split, .within .textProto, "split", 2),
    (.repeated, .within .textProto, "repeat", 1), (.charAt, .within .textProto, "charAt", 1),
    (.numberText, .within .numberProto, "toString", 1),
    (.numberValue, .within .numberProto, "valueOf", 0),
    (.boolText, .within .boolProto, "toString", 0), (.boolValue, .within .boolProto, "valueOf", 0),
    (.symbolText, .within .symbolProto, "toString", 0),
    (.bigintText, .within .bigintProto, "toString", 0),
    (.isoText, .within .dateProto, "toISOString", 0), (.dateJson, .within .dateProto, "toJSON", 1),
    (.dateTime, .within .dateProto, "getTime", 0), (.dateTime, .within .dateProto, "valueOf", 0),
    (.promiseResolve, .of .makePromise, "resolve", 1),
    (.promiseReject, .of .makePromise, "reject", 1), (.promiseAll, .of .makePromise, "all", 1),
    (.promiseThen, .within .promiseProto, "then", 2),
    (.promiseCatch, .within .promiseProto, "catch", 1),
    (.promiseFinally, .within .promiseProto, "finally", 1),
    (.stringify, .within .json, "stringify", 3), (.parseJson, .within .json, "parse", 2),
    (.rounding .abs, .within .math, "abs", 1), (.rounding .ceil, .within .math, "ceil", 1),
    (.rounding .floor, .within .math, "floor", 1), (.rounding .round, .within .math, "round", 1),
    (.rounding .trunc, .within .math, "trunc", 1), (.greatest, .within .math, "max", 2),
    (.least, .within .math, "min", 2), (.power, .within .math, "pow", 2),
    (.errorText, .within (.errorProto .plain), "toString", 0)]

/-- Every function that has a name. -/
def homes : List Entry := makers ++ errorMakers ++ others

def id (n : Native) : ObjId := Intrinsic.all.length + (homes.map Prod.fst).idxOf n

/-- The prototype of what a constructor makes. -/
def madeProto : Native → Option Intrinsic
  | .makeObject => some .objectProto
  | .makeFunction => some .functionProto
  | .makeArray => some .arrayProto
  | .makeText => some .textProto
  | .makeNumber => some .numberProto
  | .makeBool => some .boolProto
  | .makeSymbol => some .symbolProto
  | .makeBigint => some .bigintProto
  | .makeDate => some .dateProto
  | .makeRegex => some .regexProto
  | .makePromise => some .promiseProto
  | .makeError k => some (.errorProto k)
  | _ => none

/-- Whether a function can be called with `new`. -/
def constructs (n : Native) : Bool :=
  match n with
  | .makeSymbol | .makeBigint => false
  | n => n.madeProto.isSome

end Native

def named (key : String) (p : Property) : Units × Property := (Units.ofString key, p)

/-- The functions that are found in a place. -/
def functionsAt (home : Native.Home) : List (Units × Property) :=
  (Native.homes.filter (·.2.1 == home)).map fun (n, _, key, _) =>
    named key (.hidden (.object n.id))

/-- The properties that every function has. -/
def functionProps (name : Units) (arity : Nat) : List (Units × Property) :=
  [(lengthKey, .fixed (.ofNat arity)), named "name" (.fixed (.text name))]

namespace Intrinsic

/-- What an object of a new realm holds besides functions. -/
def extras : Intrinsic → List (Units × Property)
  | .global =>
    [named "globalThis" (.hidden Intrinsic.global.value),
      named "undefined" (.constant .undefined), named "NaN" (.constant (.number .nan)),
      named "Infinity" (.constant (.number .infinity)), named "JSON" (.hidden Intrinsic.json.value),
      named "Math" (.hidden Intrinsic.math.value)]
  | .errorProto k =>
    [named "name" (.hidden (.ofString k.name)), named "message" (.hidden (.text []))]
  | _ => []

/-- The function that makes objects with a prototype. -/
def maker (i : Intrinsic) : List (Units × Property) :=
  let made := Native.homes.filter fun (n, _) => n.madeProto == some i
  (made.take 1).map fun (n, _) => named "constructor" (.hidden (.object n.id))

def proto : Intrinsic → Option Intrinsic
  | .objectProto => none
  | .errorProto .plain => some .objectProto
  | .errorProto _ => some (.errorProto .plain)
  | _ => some .objectProto

def object (i : Intrinsic) : Obj :=
  { kind := match i with
      | .arrayProto => .array #[]
      | _ => .plain
    proto := i.proto.map Intrinsic.id
    props := i.extras ++ i.maker ++ functionsAt (.within i) }

end Intrinsic

def Native.object (n : Native) (name : String) (arity : Nat) : Obj :=
  let made := match n.madeProto with
    | some i => [named "prototype" (.constant i.value)]
    | none => []
  { kind := .native n
    proto := some (match n with
      | .makeError .plain => Intrinsic.functionProto.id
      | .makeError _ => (Native.makeError .plain).id
      | _ => Intrinsic.functionProto.id)
    props := functionProps (Units.ofString name) arity ++ made ++ functionsAt (.of n) }

/-- The objects that stand in every new realm. -/
def firstObjects : List Obj :=
  Intrinsic.all.map Intrinsic.object ++ Native.homes.map fun h => h.1.object h.2.2.1 h.2.2.2

/-- A realm in which nothing has happened. -/
def Realm.fresh : Realm :=
  { objects := firstObjects.toArray, scopes := #[{ isFunction := true }] }

end ScriptSandbox.Guest
