import ScriptSandbox.Guest.Display
import ScriptSandbox.Guest.Parser
import ScriptSandbox.Guest.Promise
import ScriptSandbox.Guest.Writing
import ScriptSandbox.Json.Reader
import ScriptSandbox.Text.Case
import ScriptSandbox.World.Moment

/-!
# Functions that guests find

What the functions of a new realm do, with `this` and the arguments. Arguments of which a text or a
number is wanted are no objects any more: `Native.wants` says which these are.
-/

namespace ScriptSandbox.Guest

namespace Native

/-- The shapes in which arguments are wanted; arguments behind them are taken as they are. -/
def wants : Native → List Hint
  | .makeText | .makeSymbol | .hasOwn | .startsWith | .endsWith | .textIncludes | .textIndexOf
  | .parseFloat | .parseJson | .split => [.text]
  | .makeNumber | .makeBigint | .isNaN | .isFinite | .repeated | .charAt | .numberText
  | .rounding _ => [.number]
  | .makeDate => [.none]
  | .makeError _ => [.text]
  | .defineProperty => [.none, .text]
  | .slice | .textSlice | .power => [.number, .number]
  | .parseInt => [.text, .number]
  | .greatest | .least => List.replicate 16 .number
  | .join => [.text]
  | _ => []

/-- Whether an argument in this place is taken as it is. -/
def takesAny (n : Native) (i : Nat) : Bool :=
  match n, i with
  | .defineProperty, 0 => true
  | _, _ => false

end Native

namespace Machine

variable (m : Machine)

/-- Splits arguments at the first object that is to become a primitive. -/
def splitArgs (n : Native) : Nat → List Value → List Hint → List Value →
    Option (List Value × ObjId × Hint × List Value)
  | i, .object o :: rest, h :: hs, before =>
    if n.takesAny i then splitArgs n (i + 1) rest hs (.object o :: before)
    else some (before.reverse, o, h, rest)
  | i, v :: rest, _ :: hs, before => splitArgs n (i + 1) rest hs (v :: before)
  | _, _, _, _ => none

/-- What `this` stands for where a text is wanted. -/
def thisText (this : Value) : Except Mistake Units :=
  match this with
  | .object o =>
    match (m.realm.obj o).kind with
    | .boxed v => v.toText
    | _ => .error (.type "'this' is not a string")
  | .undefined | .null => .error .notObject
  | v => v.toText

/-- The value that `this` is or holds. -/
def thisValue (this : Value) : Value :=
  match this with
  | .object o =>
    match (m.realm.obj o).kind with
    | .boxed v => v
    | _ => this
  | v => v

def onText (this : Value) (f : Units → Except Mistake Value) : Machine :=
  m.giveOrFail ((m.thisText this).bind f)

def onNumber (v : Value) (f : Double → Value) : Machine := m.giveOrFail (v.toNumber.map f)

/-! ## Texts -/

/-- The first place of a text within another, from a place on. -/
def placeOf (part : Units) : Units → Nat → Option Nat
  | [], i => if part.isEmpty then some i else none
  | u :: rest, i => if part.isPrefixOf (u :: rest) then some i else placeOf part rest (i + 1)

/-- A position counted from the end where it is negative, within the length. -/
def clamp (length : Nat) (i : Int) : Nat :=
  if i < 0 then (length + i).toNat else min i.toNat length

/-- The bounds of a slice. -/
def sliceBounds (length : Nat) (args : List Value) : Except Mistake (Nat × Nat) := do
  let first ← (args.getD 0 .undefined).toIndex
  let last ← match args.getD 1 .undefined with
    | .undefined => pure (length : Int)
    | v => v.toIndex
  return (clamp length first, clamp length last)

/-- Parts a text at another; `room` bounds the number of parts. -/
def splitAt (separator : Units) : Nat → Units → Units → List Units
  | 0, whole, part => [part.reverse ++ whole]
  | _ + 1, [], part => [part.reverse]
  | room + 1, u :: rest, part =>
    if separator.isPrefixOf (u :: rest) then
      part.reverse :: splitAt separator room ((u :: rest).drop separator.length) []
    else splitAt separator room rest (u :: part)

def textMethod (n : Native) (this : Value) (args : List Value) : Machine :=
  let a := args.getD 0 .undefined
  let within (test : Units → Units → Value) : Machine :=
    m.onText this fun u => a.toText.map fun p => test p u
  match n with
  | .upper => m.onText this fun u => .ok (.text (Units.ofString (Text.upper (Units.text u))))
  | .lower => m.onText this fun u => .ok (.text (Units.ofString (Text.lower (Units.text u))))
  | .startsWith => within fun p u => .bool (p.isPrefixOf u)
  | .endsWith => within fun p u => .bool (p.isSuffixOf u)
  | .textIncludes => within fun p u => .bool (placeOf p u 0).isSome
  | .textIndexOf => within fun p u => .number ((placeOf p u 0).elim (.ofInt (-1)) .ofNat)
  | .textSlice => m.onText this fun u =>
    (sliceBounds u.length args).map fun (i, j) => .text ((u.take j).drop i)
  | .trim => m.onText this fun u =>
    .ok (.text (Units.ofChars (Text.trimEnd (Text.trimStart (Units.chars u)))))
  | .repeated => m.onText this fun u => do
    let n ← a.toIndex
    if n < 0 || 100000 < n * u.length then .error ⟨.range, "invalid repeat count"⟩
    else .ok (.text (List.replicate n.toNat u).flatten)
  | .charAt => m.onText this fun u => a.toIndex.map fun i =>
    .text (if i < 0 then [] else (u[i.toNat]?).toList)
  | .split =>
    match m.thisText this, a with
    | .error e, _ => m.fail e
    | .ok u, .undefined => m.giveArray [.text u]
    | .ok u, a =>
      match a.toText with
      | .error e => m.fail e
      | .ok [] => m.giveArray (u.map fun c => .text [c])
      | .ok s => m.giveArray ((splitAt s (u.length + 1) u []).map .text)
  | _ => m.onText this fun u => .ok (.text u)

/-! ## Objects -/

def enumerableOf (o : ObjId) : List (Units × Property) :=
  (m.realm.obj o).entries.filter (·.2.enumerable)

/-- The definition that an object describes. -/
def changeOf (o : ObjId) : PropertyChange :=
  let part (key : String) : Option Value :=
    (m.realm.find o (Units.ofString key)).map Property.value
  { value := part "value", writable := (part "writable").map Value.truthy
    getter := part "get", setter := part "set"
    enumerable := (part "enumerable").map Value.truthy
    configurable := (part "configurable").map Value.truthy }

def defineProperty (target key descriptor : Value) : Machine :=
  match target, descriptor with
  | .object o, .object d =>
    match m.realm.define o key.toKey (m.changeOf d) with
    | some realm => { m with realm, control := .give target }
    | none => m.fail (.notDefinable key.toKey)
  | _, _ => m.fail (.type "Object.defineProperty called on non-object")

/-- Copies the properties of objects into another. -/
def assignAll (target : Value) (sources : List Value) : Machine :=
  match target with
  | .object o =>
    let copy (r : Realm) (v : Value) : Realm :=
      match v with
      | .object s =>
        ((r.obj s).entries.filter (·.2.enumerable)).foldl
          (fun r (k, p) => r.put o k (.plain p.value)) r
      | _ => r
    { m with realm := sources.foldl copy m.realm, control := .give target }
  | v => m.give v

/-- What `Object.prototype.toString` says of a value. -/
def kindText (this : Value) : String :=
  let name : String := match this with
    | .undefined => "Undefined"
    | .null => "Null"
    | .text _ => "String"
    | .number _ => "Number"
    | .bool _ => "Boolean"
    | .symbol _ _ => "Symbol"
    | .bigint _ => "BigInt"
    | .object o =>
      match (m.realm.obj o).kind with
      | .array _ => "Array"
      | .closure _ _ | .native _ | .host _ _ => "Function"
      | .error => "Error"
      | .boxed (.text _) => "String"
      | .boxed (.number _) => "Number"
      | .boxed (.bool _) => "Boolean"
      | .date _ => "Date"
      | .regex _ _ => "RegExp"
      | .promise _ => "Promise"
      | _ => "Object"
  "[object " ++ name ++ "]"

def objectMethod (n : Native) (this : Value) (args : List Value) : Machine :=
  let a := args.getD 0 .undefined
  match n with
  | .defineProperty => m.defineProperty a (args.getD 1 .undefined) (args.getD 2 .undefined)
  | .assign => m.assignAll a (args.drop 1)
  | .objectText => m.give (.ofString (m.kindText this))
  | .objectValue => m.give this
  | .hasOwn =>
    match this with
    | .object o => m.give (.bool ((m.realm.obj o).own a.toKey).isSome)
    | _ => m.give (.bool false)
  | n =>
    match n, a with
    | _, .undefined | _, .null => m.fail .notObject
    | .keys, .object o => m.giveArray ((m.enumerableOf o).map fun p => .text p.1)
    | .values, .object o => m.giveArray ((m.enumerableOf o).map fun p => p.2.value)
    | .entries, .object o =>
      let (pairs, realm) := (m.enumerableOf o).foldl (fun (acc, r) p =>
        let (x, r) := Realm.alloc r (arrayOf [some (.text p.1), some p.2.value])
        (Value.object x :: acc, r)) ([], m.realm)
      { m with realm }.giveArray pairs.reverse
    | .ownNames, .object o => m.giveArray ((m.realm.obj o).entries.map fun p => .text p.1)
    | .protoOf, .object o => m.give ((m.realm.obj o).proto.elim .null .object)
    | .preventExtensions, .object o =>
      { m with
        realm := m.realm.setObj o { m.realm.obj o with extensible := false }, control := .give a }
    | .keys, v => m.giveArray (((boxOf v).entries.filter (·.2.enumerable)).map fun p => .text p.1)
    | .preventExtensions, v => m.give v
    | _, _ => m.giveArray []

/-! ## Arrays -/

/-- Takes an item of an array in with the next round of a walk, or ends it. -/
def walkOn (w : Walk) (array : ObjId) (callback this : Value) (index length : Nat)
    (acc : List (Option Value)) : Machine :=
  let items := match (m.realm.obj array).kind with
    | .array items => items
    | _ => #[]
  let ends : Machine :=
    match w with
    | .map | .filter => m.giveNew (arrayOf acc.reverse)
    | .forEach | .find => m.give .undefined
    | .some => m.give (.bool false)
    | .every => m.give (.bool true)
    | .reduce =>
      match acc with
      | some v :: _ => m.give v
      | _ => m.fail (.type "Array.prototype.reduce: called on an empty array and with no initial value")
  match (items.toList.zipIdx.take length).drop index |>.find? (·.1.isSome) with
  | none => if w == .map then m.giveNew (arrayOf (acc.reverse ++ List.replicate (length - acc.length) none)) else ends
  | some (v, i) =>
    let v := v.getD .undefined
    let acc := if w == .map then List.replicate (i - acc.length) none ++ acc else acc
    let at' : Value := .ofNat i
    match w, acc with
    | .reduce, [] =>
      { (m.push (.walking w array callback this (i + 1) length v [])) with control := .give v }
    | .reduce, soFar :: _ =>
      (m.push (.walking w array callback this (i + 1) length v acc)).call callback .undefined
        [soFar.getD .undefined, v, at', .object array]
    | _, _ =>
      (m.push (.walking w array callback this (i + 1) length v acc)).call callback this
        [v, at', .object array]

/-- Takes in what the function of a walk has returned. -/
def walked (w : Walk) (array : ObjId) (callback this : Value) (index length : Nat) (current : Value)
    (acc : List (Option Value)) (v : Value) : Machine :=
  let goOn (acc : List (Option Value)) : Machine :=
    m.walkOn w array callback this index length acc
  match w with
  | .map => goOn (some v :: acc)
  | .filter => goOn (if v.truthy then some current :: acc else acc)
  | .forEach => goOn acc
  | .some => if v.truthy then m.give (.bool true) else goOn acc
  | .every => if v.truthy then goOn acc else m.give (.bool false)
  | .find => if v.truthy then m.give current else goOn acc
  | .reduce => goOn [some v]

def startWalk (w : Walk) (array : ObjId) (args : List Value) : Machine :=
  let callback := args.getD 0 .undefined
  let length := (m.realm.itemsOf array).length
  if !m.realm.isCallable callback then m.fail .notCallable
  else
    match w with
    | .reduce => m.walkOn w array callback .undefined 0 length ((args.drop 1).take 1 |>.map some)
    | w => m.walkOn w array callback (args.getD 1 .undefined) 0 length []

/-- Joins the texts of the values that are left to those made so far. -/
def joinOn (separator : Units) (done : List Units) (rest : List Value) : Machine :=
  let rec go (done : List Units) : List Value → Machine
    | [] => m.give (.text (separator.intercalate done.reverse))
    | .undefined :: rest | .null :: rest => go ([] :: done) rest
    | .object o :: rest => (m.push (.joining separator done rest)).toPrimitive o .text false
    | v :: rest =>
      match v.toText with
      | .ok u => go (u :: done) rest
      | .error e => m.fail e
  go done rest

/-- Puts sorted values back into an array and gives it. -/
def putSorted (array : ObjId) (sorted : List Value) : Machine :=
  let items := match (m.realm.obj array).kind with
    | .array items => items
    | _ => #[]
  let missing := (items.filter (· == some Value.undefined)).size
  let all := sorted.map some ++ List.replicate missing (some Value.undefined)
  let all := all ++ List.replicate (items.size - all.length) none
  { m with
    realm := m.realm.setKind array (.array all.toArray), control := .give (.object array) }

/-- Finds the texts by which the values that are left are sorted, and sorts. -/
def sortByText (array : ObjId) (done : List (Units × Value)) (rest : List Value) : Machine :=
  let rec go (done : List (Units × Value)) : List Value → Machine
    | [] =>
      m.putSorted array
        ((done.reverse.mergeSort fun a b => !Units.before b.1 a.1).map Prod.snd)
    | .object o :: rest =>
      (m.push (.sortTexts array done (.object o) rest)).toPrimitive o .text false
    | v :: rest =>
      match v.toText with
      | .ok u => go ((u, v) :: done) rest
      | .error e => m.fail e
  go done rest

/-- Asks the guest in which order the value to insert and the last before it stand. -/
def askOrder (array : ObjId) (compare : Value) (last : Value) (before behind : List Value)
    (current : Value) (rest : List Value) : Machine :=
  (m.push (.sorting array compare (last :: before) behind current rest)).call compare .undefined
    [last, current]

/-- Goes on to the next value that is to be inserted. -/
def sortNext (array : ObjId) (compare : Value) (sorted rest : List Value) : Machine :=
  match sorted.reverse, rest with
  | last :: before, next :: rest => m.askOrder array compare last before [] next rest
  | _, rest => m.putSorted array (sorted ++ rest)

/-- Takes in the order of the value to insert and the last of those before it. -/
def sorted (array : ObjId) (compare : Value) (before behind : List Value) (current : Value)
    (rest : List Value) (v : Value) : Machine :=
  let isLater := match v.toNumber with
    | .ok x => !x.isNaN && !x.isZero && !x.isNegative
    | .error _ => false
  match isLater, before with
  | true, last :: b :: before => m.askOrder array compare b before (last :: behind) current rest
  | true, before => m.sortNext array compare (current :: (before ++ behind)) rest
  | false, before => m.sortNext array compare (before.reverse ++ current :: behind) rest

def startSort (array : ObjId) (compare : Value) : Machine :=
  let values : List Value := (match (m.realm.obj array).kind with
    | .array items => items.toList.reduceOption
    | _ => []).filter (· != Value.undefined)
  match compare, values with
  | .undefined, values => m.sortByText array [] values
  | compare, values =>
    if !m.realm.isCallable compare then m.fail .notCallable
    else
      m.sortNext array compare (values.take 1) (values.drop 1)

def arrayMethod (n : Native) (array : ObjId) (args : List Value) : Machine :=
  let a := args.getD 0 .undefined
  let items := match (m.realm.obj array).kind with
    | .array items => items
    | _ => #[]
  let values := m.realm.itemsOf array
  let putItems (items : Array (Option Value)) (v : Value) : Machine :=
    { m with realm := m.realm.setKind array (.array items), control := .give v }
  match n with
  | .push => putItems (items ++ (args.map some).toArray) (.ofNat (items.size + args.length))
  | .pop => putItems items.pop ((items.back?.getD none).getD .undefined)
  | .slice =>
    match sliceBounds items.size args with
    | .ok (i, j) => m.giveNew (arrayOf ((items.toList.take j).drop i))
    | .error e => m.fail e
  | .concat =>
    let parts := args.flatMap fun v =>
      match v with
      | .object o =>
        match (m.realm.obj o).kind with
        | .array more => more.toList
        | _ => [some v]
      | v => [some v]
    m.giveNew (arrayOf (items.toList ++ parts))
  | .indexOf =>
    let place := values.findIdx? (Value.strictlyEqual · a)
    m.give (.number (place.elim (.ofInt (-1)) .ofNat))
  | .includes => m.give (.bool (values.any (Value.sameOrNaN · a)))
  | .join =>
    match a with
    | .undefined => m.joinOn (Units.ofString ",") [] values
    | a =>
      match a.toText with
      | .ok u => m.joinOn u [] values
      | .error e => m.fail e
  | .arrayText => m.joinOn (Units.ofString ",") [] values
  | .reverse => putItems items.reverse (.object array)
  | .walk w => m.startWalk w array args
  | .sort => m.startSort array a
  | _ => m.give .undefined

/-! ## Dates -/

/-- The text of a time in milliseconds since the start of 1970, for years from 0 to 9999. -/
def isoText (time : Double) : Option String :=
  match time.toInt? with
  | some t =>
    let days := t.fdiv 86400000
    let part := (t.fmod 86400000).toNat
    let shifted := days + 719528
    if shifted < 0 || 3652424 < shifted then none
    else
      -- A cycle of 400 years is put before, so that the day is not before the start of 1970.
      let (year, month, day) := Moment.civil (days + 5 * 146097).toNat
      let year := year - 2000
      let clock := [Moment.padded 2 (part / 3600000), Moment.padded 2 (part / 60000 % 60),
        Moment.padded 2 (part / 1000 % 60)]
      some ("-".intercalate [Moment.padded 4 year, Moment.padded 2 month, Moment.padded 2 day] ++
        "T" ++ ":".intercalate clock ++ "." ++ Moment.padded 3 (part % 1000) ++ "Z")
  | none => none

def dateMethod (n : Native) (this : Value) : Machine :=
  match this with
  | .object o =>
    match (m.realm.obj o).kind with
    | .date time =>
      match n, isoText time with
      | .isoText, some s | .dateJson, some s => m.give (.ofString s)
      | .isoText, none => m.fail ⟨.range, "Invalid time value"⟩
      | .dateJson, none => m.give .null
      | _, _ => m.give (.number time)
    | _ => m.fail (.type "'this' is not a Date")
  | _ => m.fail (.type "'this' is not a Date")

/-! ## Numbers -/

/-- The digits of a whole number in another base. -/
def inBase (base : Nat) (n : Int) : Units :=
  Units.ofChars ((if n < 0 then ['-'] else []) ++ Nat.toDigits base n.natAbs)

def round (r : Rounding) (x : Double) : Double :=
  match r with
  | .abs => if x.isNegative then x.neg else x
  | .ceil => x.ceiling
  | .floor => x.floor
  | .trunc => x.whole
  | .round => if x.isFinite then (x.plus (Double.ofRatio false 1 2)).floor else x

/-- The greatest, or the least, of numbers. -/
def extreme (greatest : Bool) (xs : List Double) : Double :=
  xs.foldl (fun a x =>
    if a.isNaN || x.isNaN then .nan
    else if a.compare? x == some (if greatest then .lt else .gt) then x else a)
    (Double.infinity.signed greatest)

def numbers (args : List Value) : Except Mistake (List Double) := args.mapM Value.toNumber

def primitiveMethodOf (n : Native) (this : Value) (args : List Value) : Machine :=
  let v := m.thisValue this
  match n, v with
  | .numberText, .number x =>
    match (args.getD 0 .undefined), x.toInt? with
    | .number b, some k =>
      if 2 ≤ b.truncate && b.truncate ≤ 16 then m.give (.text (inBase b.truncate.toNat k))
      else m.give (.text (numberText x))
    | _, _ => m.give (.text (numberText x))
  | .numberValue, .number x => m.give (.number x)
  | .boolText, .bool b => m.giveOrFail ((Value.bool b).toText.map .text)
  | .boolValue, .bool b => m.give (.bool b)
  | .symbolText, .symbol _ label => m.give (.text (Value.symbolText label))
  | .bigintText, .bigint k => m.give (.text (Value.bigintText k))
  | _, _ => m.fail (.type "'this' is not of the expected type")

/-! ## Makers -/

/-- The message of an error that is made: none for undefined. -/
def errorProps (a : Value) : Except Mistake (List (Units × Property)) :=
  match a with
  | .undefined => .ok []
  | a => a.toText.map fun u => [named "message" (.hidden (.text u))]

/-- What a maker gives when it is called without `new`. -/
def convert (n : Native) (args : List Value) : Machine :=
  let a := args.getD 0 .undefined
  match n with
  | .makeText =>
    match args, a with
    | [], _ => m.give (.text [])
    | _, .symbol _ label => m.give (.text (Value.symbolText label))
    | _, a => m.giveOrFail (a.toText.map .text)
  | .makeNumber =>
    match args, a with
    | [], _ => m.give (.number .zero)
    | _, .bigint k => m.give (.number (.ofInt k))
    | _, a => m.onNumber a .number
  | .makeBool => m.give (.bool a.truthy)
  | .makeBigint =>
    match a with
    | .bigint k => m.give (.bigint k)
    | .bool b => m.give (.bigint (if b then 1 else 0))
    | .text u =>
      match (readNumber u).toInt? with
      | some k => m.give (.bigint k)
      | none => m.fail ⟨.malformed, "cannot convert string to BigInt"⟩
    | .number x =>
      match x.toInt? with
      | some k => m.give (.bigint k)
      | none => m.fail ⟨.range, "cannot convert a non-integral number to a BigInt"⟩
    | _ => m.fail (.type "cannot convert value to a BigInt")
  | .makeSymbol =>
    let realm := { m.realm with symbols := m.realm.symbols + 1 }
    match a with
    | .undefined => { m with realm, control := .give (.symbol realm.symbols []) }
    | a => { m with realm }.giveOrFail (a.toText.map (.symbol realm.symbols ·))
  | _ => m.fail .notCallable

/-- Makes an object of an intrinsic kind. -/
def make (n : Native) (args : List Value) (proto : ObjId) : Machine :=
  let a := args.getD 0 .undefined
  let box (r : Except Mistake Value) : Machine :=
    match r with
    | .ok v => m.giveNew { kind := .boxed v, proto := some proto }
    | .error e => m.fail e
  match n with
  | .makeObject =>
    match a with
    | .undefined | .null => m.giveNew { proto := some proto }
    | .object o => m.give (.object o)
    | v => m.giveNew (boxOf v)
  | .makeArray =>
    match args with
    | [.number x] =>
      match x.toInt? with
      | some k =>
        if 0 ≤ k && k ≤ Obj.growth then m.giveNew (arrayOf (List.replicate k.toNat none))
        else m.fail ⟨.range, "invalid array length"⟩
      | none => m.fail ⟨.range, "invalid array length"⟩
    | args => m.giveArray args
  | .makeText => box (if args.isEmpty then .ok (.text []) else a.toText.map .text)
  | .makeNumber => box (if args.isEmpty then .ok (.number .zero) else a.toNumber.map .number)
  | .makeBool => box (.ok (.bool a.truthy))
  | .makeDate =>
    match a.toNumber with
    | .ok x => m.giveNew { kind := .date (if x.isFinite then x.whole else .nan), proto := some proto }
    | .error e => m.fail e
  | .makeError _ =>
    match errorProps a with
    | .ok props => m.giveNew { kind := .error, proto := some proto, props }
    | .error e => m.fail e
  | .makePromise =>
    if !m.realm.isCallable a then m.fail .notCallable
    else
      let (p, realm) := m.realm.alloc { kind := .promise (.pending []), proto := some proto }
      { m with realm }.withSettlers p a .undefined
  | _ => m.fail .notConstructor

/-! ## Promises -/

def promiseMethod (n : Native) (this : Value) (args : List Value) : Machine :=
  let a := args.getD 0 .undefined
  let derive (onFulfilled onRejected : Value) : Machine :=
    match this, m.realm.promiseState? this with
    | .object p, some _ => m.derive p onFulfilled onRejected
    | _, _ => m.fail (.type "'this' is not a Promise")
  match n with
  | .promiseResolve => m.toPromise a
  | .promiseReject =>
    let (p, realm) := m.realm.newPromise (.rejected a)
    { m with realm, control := .give (.object p) }
  | .promiseAll =>
    match m.elementsOf a with
    | some vs => m.gatherAll vs
    | none =>
      let (e, realm) := m.realm.makeError (.type "value is not iterable")
      let (p, realm) := realm.newPromise (.rejected e)
      { m with realm, control := .give (.object p) }
  | .promiseThen => derive a (args.getD 1 .undefined)
  | .promiseCatch => derive .undefined a
  | _ =>
    if !m.realm.isCallable a then derive a a
    else
      let (onFulfilled, realm) := m.realm.makeNative (.finish a false) 1
      let (onRejected, realm) := realm.makeNative (.finish a true) 1
      match this, m.realm.promiseState? this with
      | .object p, some _ => { m with realm }.derive p onFulfilled onRejected
      | _, _ => m.fail (.type "'this' is not a Promise")

/-! ## Scripts and JSON text -/

/-- The indent that the third argument of `JSON.stringify` asks for. -/
def indentOf (v : Value) : Units :=
  match v with
  | .number x => List.replicate (min 10 x.truncate.toNat) 32
  | .text u => u.take 10
  | _ => []

/-- Evaluates JSON text as the expression that it is. -/
def parseJson (u : Units) : Machine :=
  let text := Units.text u
  match Json.read (Utf8.encode text), Program.parse ("(" ++ text ++ ")") false with
  | .ok _, some { body := [.expr e], .. } => m.eval e
  | _, _ => m.fail ⟨.malformed, "invalid JSON"⟩

/-! ## All functions -/

/-- Does what a function does. -/
def native (n : Native) (this : Value) (args : List Value) : Machine :=
  let a := args.getD 0 .undefined
  match splitArgs n 0 args n.wants [] with
  | some (before, o, hint, behind) =>
    (m.push (.prepare n this before behind)).toPrimitive o hint false
  | none =>
    match n with
    | .makeText | .makeNumber | .makeBool | .makeBigint | .makeSymbol => m.convert n args
    | .makeError k => m.make n args (Intrinsic.errorProto k).id
    | .makeArray => m.make n args Intrinsic.arrayProto.id
    | .makeObject => m.make n args Intrinsic.objectProto.id
    | .makeFunction | .makeDate | .makeRegex | .makePromise => m.fail .notConstructor
    | .eval => m.give a
    | .parseInt =>
      match a.toText, (args.getD 1 .undefined).toIndex with
      | .ok u, .ok base => m.give (.number (readLeadingInteger u base.toNat))
      | .error e, _ | _, .error e => m.fail e
    | .parseFloat => m.giveOrFail (a.toText.map fun u => .number (readLeadingNumber u))
    | .isNaN => m.onNumber a fun x => .bool x.isNaN
    | .isFinite => m.onNumber a fun x => .bool x.isFinite
    | .keys | .values | .entries | .assign | .defineProperty | .preventExtensions | .ownNames
    | .protoOf | .hasOwn | .objectText | .objectValue => m.objectMethod n this args
    | .functionCall => m.call this a (args.drop 1)
    | .functionApply => m.call this a ((m.elementsOf (args.getD 1 .undefined)).getD [])
    | .isArray =>
      match a with
      | .object o => m.give (.bool (m.realm.obj o).isArray)
      | _ => m.give (.bool false)
    | .push | .pop | .slice | .concat | .indexOf | .includes | .join | .reverse | .walk _ | .sort
    | .arrayText =>
      match this with
      | .object o =>
        if (m.realm.obj o).isArray then m.arrayMethod n o args
        else m.fail (.type "'this' is not an array")
      | _ => m.fail .notObject
    | .textValue | .upper | .lower | .startsWith | .endsWith | .textIncludes | .textIndexOf
    | .textSlice | .trim | .split | .repeated | .charAt => m.textMethod n this args
    | .numberText | .numberValue | .boolText | .boolValue | .symbolText | .bigintText =>
      m.primitiveMethodOf n this args
    | .isoText | .dateJson | .dateTime => m.dateMethod n this
    | .promiseResolve | .promiseReject | .promiseAll | .promiseThen | .promiseCatch
    | .promiseFinally => m.promiseMethod n this args
    | .stringify => { m with control := .write (Writing.start a (indentOf (args.getD 2 .undefined))) }
    | .parseJson =>
      match a.toText with
      | .ok u => m.parseJson u
      | .error e => m.fail e
    | .rounding r => m.onNumber a fun x => .number (round r x)
    | .greatest => m.giveOrFail ((numbers args).map fun xs => Value.number (extreme true xs))
    | .least => m.giveOrFail ((numbers args).map fun xs => Value.number (extreme false xs))
    | .power => m.giveOrFail (BinaryOp.pow.onNumbers a (args.getD 1 .undefined))
    | .errorText =>
      match this with
      | .object o => m.give (.ofString (m.realm.showError o))
      | _ => m.fail .notObject
    | .settle p latch fulfils => m.settleOnce p latch fulfils a
    | .gather g index latch => m.gatherOne g index latch a
    | .finish callback rejects => (m.push (.finishing a rejects)).call callback .undefined []
    | .giveBack v rejects => if rejects then m.unwind (.throw v) else m.give v

end Machine

end ScriptSandbox.Guest
