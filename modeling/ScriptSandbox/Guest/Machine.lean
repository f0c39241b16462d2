import ScriptSandbox.Guest.Function

/-!
# The machine that runs guest scripts

A machine looks at one thing at a time, its `control`; the frames say, the next one first, what
waits for it. Each of the functions here makes one move and leaves what is to be done next in the
control and the frames.
-/

namespace ScriptSandbox.Guest

inductive Control
  | eval (e : Expr)
  | exec (s : Stmt)
  /-- A value for the next frame; also the end of a statement. -/
  | give (v : Value)
  | unwind (a : Abrupt)
  | call (f this : Value) (args : List Value)
  | construct (f : Value) (args : List Value) (newTarget : ObjId)
  | native (n : Native) (this : Value) (args : List Value)
  | write (w : Writing)
  | export (v : Value)
  | exported (j : Json)

structure Machine where
  realm : Realm
  control : Control
  frames : List Frame := []
  scope : ScopeId := Realm.rootScope
  /-- The value of the last statement that had one. -/
  completion : Value := .undefined

namespace Machine

variable (m : Machine)

/-! ## Moves -/

def give (v : Value) : Machine := { m with control := .give v }

def eval (e : Expr) : Machine := { m with control := .eval e }

def exec (s : Stmt) : Machine := { m with control := .exec s }

def unwind (a : Abrupt) : Machine := { m with control := .unwind a }

def push (f : Frame) : Machine := { m with frames := f :: m.frames }

def call (f this : Value) (args : List Value) : Machine := { m with control := .call f this args }

/-- Throws an error at the guest. -/
def fail (e : Mistake) : Machine :=
  let (v, realm) := m.realm.makeError e
  { m with realm, control := .unwind (.throw v) }

def giveOrFail (r : Except Mistake Value) : Machine :=
  match r with
  | .ok v => m.give v
  | .error e => m.fail e

def isStrict : Bool := (m.realm.scope m.scope).strict

/-- Allocates an object and gives it. -/
def giveNew (x : Obj) : Machine :=
  let (o, realm) := m.realm.alloc x
  { m with realm, control := .give (.object o) }

def giveArray (items : List Value) : Machine := m.giveNew (arrayOf (items.map some))

/-! ## Properties -/

/-- Gives a property that has been found. -/
def giveFound (target : Value) (p : Option Property) : Machine :=
  match p with
  | none => m.give .undefined
  | some ⟨.data v _, _, _⟩ => m.give v
  | some ⟨.accessor getter _, _, _⟩ =>
    if m.realm.isCallable getter then m.call getter target [] else m.give .undefined

/-- Gives a property of a value, which may be none of its own. -/
def getProperty (target : Value) (key : Units) : Machine :=
  match target with
  | .undefined | .null => m.fail .notObject
  | .object o => m.giveFound target (m.realm.find o key)
  | v =>
    let box := boxOf v
    m.giveFound target
      ((box.special key).or (box.proto.bind fun p => m.realm.find p key))

/-- A property cannot be assigned to, which only strict scripts are told. -/
def refuse (strict : Bool) (key : Units) (v : Value) : Machine :=
  if strict then m.fail (.notWritable key) else m.give v

/-- Assigns to a property and gives the value. -/
def putProperty (strict : Bool) (target : Value) (key : Units) (v : Value) : Machine :=
  match target with
  | .undefined | .null => m.fail .notObject
  | .object o =>
    let x := m.realm.obj o
    let add : Machine :=
      if x.extensible then { m with realm := m.realm.put o key (.plain v), control := .give v }
      else m.refuse strict key v
    match x.own key, m.realm.find o key with
    | some ⟨.data _ true, e, c⟩, _ =>
      { m with realm := m.realm.put o key ⟨.data v true, e, c⟩, control := .give v }
    | none, some ⟨.data _ true, _, _⟩ => add
    | _, some ⟨.data _ false, _, _⟩ => m.refuse strict key v
    | _, some ⟨.accessor _ setter, _, _⟩ =>
      if m.realm.isCallable setter then (m.push (.instead v)).call setter target [v]
      else m.refuse strict key v
    | _, none => add
    | some _, _ => m.refuse strict key v
  | _ => m.refuse strict key v

def deleteProperty (target : Value) (key : Units) : Machine :=
  match target with
  | .undefined | .null => m.fail .notObject
  | .object o =>
    match m.realm.remove o key with
    | some realm => { m with realm, control := .give (.bool true) }
    | none => if m.isStrict then m.fail (.notDeletable key) else m.give (.bool false)
  | _ => m.give (.bool true)

/-! ## Names -/

def readName (n : String) : Machine :=
  match m.realm.lookup m.scope n with
  | .bound _ b =>
    match b.value with
    | some v => m.give v
    | none => m.fail .notReached
  | .property p => m.giveFound Intrinsic.global.value (some p)
  | .missing => m.fail (.notDefined n)

def assignName (n : String) (v : Value) : Machine :=
  match m.realm.lookup m.scope n with
  | .bound s b =>
    if b.value.isNone then m.fail .notReached
    else if !b.mutable then m.fail (.immutable n)
    else { m with realm := m.realm.bind s n { b with value := some v }, control := .give v }
  | .property _ => m.putProperty m.isStrict Intrinsic.global.value (Units.ofString n) v
  | .missing =>
    if m.isStrict then m.fail (.notDefined n)
    else m.putProperty m.isStrict Intrinsic.global.value (Units.ofString n) v

def deleteName (n : String) : Machine :=
  match m.realm.lookup m.scope n with
  | .bound _ _ => m.give (.bool false)
  | .property _ => m.deleteProperty Intrinsic.global.value (Units.ofString n)
  | .missing => m.give (.bool true)

/-- Gives a binding its first value. -/
def initialise (n : String) (v : Value) : Machine :=
  match m.realm.lookup m.scope n with
  | .bound s b => { m with realm := m.realm.bind s n { b with value := some v } }
  | _ => { m with realm := m.realm.bind m.scope n { value := some v } }

def assign (r : Ref) (v : Value) : Machine :=
  match r with
  | .name n => m.assignName n v
  | .property target key => m.putProperty m.isStrict target key v

/-! ## Primitives of objects -/

/-- The methods that make a primitive of an object, in the order in which they are tried. -/
def primitiveMethod (o : ObjId) (hint : Hint) (second : Bool) : Units :=
  let textFirst := match hint, (m.realm.obj o).kind with
    | .text, _ => true
    | .none, .date _ => true
    | _, _ => false
  Units.ofString (if textFirst != second then "toString" else "valueOf")

def toPrimitive (o : ObjId) (hint : Hint) (second : Bool) : Machine :=
  (m.push (.primitiveMethod o hint second)).getProperty (.object o)
    (m.primitiveMethod o hint second)

/-- Goes on to the second method, or stops. -/
def nextPrimitive (o : ObjId) (hint : Hint) (second : Bool) : Machine :=
  if second then m.fail (.type "cannot convert object to primitive value")
  else m.toPrimitive o hint true

/-! ## Operators -/

/-- Whether a value is made by a constructor. -/
def instanceOf (v f : Value) : Machine :=
  match f with
  | .object o =>
    if !m.realm.isCallable f then m.fail .notCallable
    else
      match v, m.realm.peek o "prototype" with
      | .object x, .object p => m.give (.bool (m.realm.inherits p (m.realm.objects.size + 1) x))
      | .object _, _ => m.fail (.type "'prototype' property is not an object")
      | _, _ => m.give (.bool false)
  | _ => m.fail (.type "right-hand side of 'instanceof' should be an object")

def applyBinary (op : BinaryOp) (a b : Value) : Machine :=
  match op with
  | .instanceOf => m.instanceOf a b
  | .inside =>
    match a, b with
    | .object o, .object _ => (m.push (.leftPrimitive .inside b)).toPrimitive o .text false
    | a, .object o => m.give (.bool (m.realm.find o a.toKey).isSome)
    | _, _ => m.fail (.type "right-hand side of 'in' should be an object")
  | op =>
    let bothObjects := a.isObject && b.isObject
    let withMissing := a.isMissing || b.isMissing
    let asTheyAre := op.takesObjects || (op.isEquality && (bothObjects || withMissing))
    let hint : Hint := if op == .add || op.isEquality then .none else .number
    match a, b with
    | .object o, b =>
      if asTheyAre then m.giveOrFail (op.apply a b)
      else (m.push (.leftPrimitive op b)).toPrimitive o hint false
    | a, .object o =>
      if asTheyAre then m.giveOrFail (op.apply a b)
      else (m.push (.rightPrimitive op a)).toPrimitive o hint false
    | a, b => m.giveOrFail (op.apply a b)

def applyUnary (op : UnaryOp) (v : Value) : Machine :=
  match op, v with
  | .typeOf, v => m.give (.ofString (m.realm.typeName v))
  | .minus, .object o | .plus, .object o | .complement, .object o =>
    (m.push (.unary op)).toPrimitive o .number false
  | op, v => m.giveOrFail (op.apply v)

/-! ## Functions -/

/-- Runs statements one after the other. -/
def runAll (body : List Stmt) : Machine :=
  match body with
  | [] => m.give .undefined
  | s :: rest => (m.push (.statements rest)).exec s

/-- Runs a block, in a scope of its own where it declares anything. -/
def runBlock (body : List Stmt) : Machine :=
  let names := lexicalNamesOf body
  let fs := functionsOf body
  if names.isEmpty && fs.isEmpty then m.runAll body
  else
    let (s, realm) := m.realm.allocScope
      { bindings := Realm.unreached names, outer := some m.scope, strict := m.isStrict }
    { (m.push (.leaveScope m.scope)) with realm := realm.bindFunctions s fs, scope := s }.runAll body

/-- Begins a call of a function with a body. -/
def enter (f : Func) (outer : ScopeId) (callee : ObjId) (this : Option Value) (args : List Value)
    (newTarget : Option ObjId) (made : ScopeId → Made) : Machine :=
  let (rest, realm) :=
    if f.rest.isSome then
      let (o, r) := m.realm.alloc (arrayOf ((args.drop f.params.length).map some))
      (Value.object o, r)
    else (.undefined, m.realm)
  let activation : Option Activation :=
    if f.kind == .arrow then none else some { this, callee, newTarget }
  let (s, realm) := realm.allocScope
    { bindings := Realm.parameterBindings f args rest, outer := some outer, activation
      isFunction := true, strict := f.strict }
  let realm := realm.bindFunctions s (functionsOf f.body)
  if f.isAsync then
    let (p, realm) := realm.alloc
      { kind := .promise (.pending []), proto := some Intrinsic.promiseProto.id }
    { (m.push (.asyncEnd p m.scope m.completion)) with realm, scope := s }.runAll f.body
  else
    { (m.push (.callEnd m.scope m.completion (made s))) with realm, scope := s }.runAll f.body

/-- The prototype of what a constructor makes. -/
def protoFor (newTarget : ObjId) (otherwise : Intrinsic) : ObjId :=
  match m.realm.peek newTarget "prototype" with
  | .object p => p
  | _ => otherwise.id

def constructClosure (o : ObjId) (f : Func) (outer : ScopeId) (args : List Value)
    (newTarget : ObjId) : Machine :=
  match f.kind, f.isAsync with
  | .normal, false | .recursive, false | .baseClass, false =>
    let (x, realm) := m.realm.alloc { proto := some (m.protoFor newTarget .objectProto) }
    { m with realm }.enter f outer o (some (.object x)) args (some newTarget) fun _ => .object x
  | .derivedClass, false => m.enter f outer o none args (some newTarget) .kept
  | _, _ => m.fail .notConstructor

/-- Gives `this`. -/
def readThis : Machine :=
  match m.realm.callScope (m.realm.scopes.size + 1) m.scope with
  | none => m.give Intrinsic.global.value
  | some s =>
    match (m.realm.scope s).activation with
    | some ⟨some v, _, _⟩ => m.give v
    | _ => m.fail ⟨.reference, "this has not been initialised"⟩

/-- Calls the constructor of the parent. -/
def superConstruct (args : List Value) : Machine :=
  match m.realm.callScope (m.realm.scopes.size + 1) m.scope with
  | none => m.fail .notConstructor
  | some s =>
    match (m.realm.scope s).activation with
    | some ⟨_, callee, some newTarget⟩ =>
      match (m.realm.obj callee).proto with
      | some parent => { (m.push (.superMade s)) with control := .construct (.object parent) args newTarget }
      | none => m.fail .notConstructor
    | _ => m.fail .notConstructor

/-- Keeps what the constructor of the parent has made as `this`. -/
def keepThis (s : ScopeId) (v : Value) : Machine :=
  let x := m.realm.scope s
  match x.activation with
  | some a =>
    if a.this.isSome then m.fail ⟨.reference, "super() called twice"⟩
    else
      let realm := m.realm.setScope s { x with activation := some { a with this := some v } }
      { m with realm, control := .give v }
  | none => m.give v

/-- Ends a call with what it returns. -/
def leaveCall (scope : ScopeId) (completion : Value) (made : Made) (returned : Value) : Machine :=
  let m := { m with scope, completion }
  match made, returned with
  | .nothing, v => m.give v
  | _, .object o => m.give (.object o)
  | .object o, _ => m.give (.object o)
  | .kept s, _ =>
    match (m.realm.scope s).activation with
    | some ⟨some v, _, _⟩ => m.give v
    | _ => m.fail ⟨.reference, "this has not been initialised"⟩

/-- Makes a class and gives its constructor. -/
def makeClass (name : Option String) (parent : Option ObjId) (construct : Option Func)
    (methods : List (Units × Func)) : Machine :=
  let parentProto : Option ObjId := match parent with
    | none => some Intrinsic.objectProto.id
    | some p =>
      match m.realm.peek p "prototype" with
      | .object q => some q
      | _ => none
  let f := match construct with
    | some (.mk _ k a s ps r b) => Func.mk name k a s ps r b
    | none => Realm.plainConstructor name parent.isSome
  let (s, realm) := m.realm.allocScope
    { bindings := name.toList.map (·, { value := none, mutable := false }), outer := some m.scope
      strict := true }
  let (o, realm) := realm.makeClosure f s
  let (p, realm) := realm.alloc
    { proto := parentProto, props := [named "constructor" (.hidden (.object o))] }
  let realm := realm.put o (Units.ofString "prototype") (.constant (.object p))
  let realm := realm.setObj o { realm.obj o with proto := parent.or (some Intrinsic.functionProto.id) }
  let realm := methods.foldl (fun r (key, f) =>
    let (g, r) := r.makeClosure f s
    r.put p key (.hidden (.object g))) realm
  let realm := match name with
    | some n => realm.bind s n { value := some (.object o), mutable := false }
    | none => realm
  { m with realm, control := .give (.object o) }

/-! ## Items -/

/-- The elements of what can be taken apart. -/
def elementsOf (v : Value) : Option (List Value) :=
  let ofText (u : Units) : List Value := (Units.chars u).map fun c => .text (Units.ofChar c)
  match v with
  | .text u => some (ofText u)
  | .object o =>
    match (m.realm.obj o).kind with
    | .array _ => some (m.realm.itemsOf o)
    | .boxed (.text u) => some (ofText u)
    | _ => none
  | _ => none

/-- Gathers the items that are left. -/
def gatherItems (use : ItemsUse) (finish : List (Option Value) → Machine) :
    List (Option Value) → List Item → Machine
  | done, [] => finish done.reverse
  | done, .hole :: rest => gatherItems use finish (none :: done) rest
  | done, .one e :: rest => (m.push (.items use done rest false)).eval e
  | done, .spread e :: rest => (m.push (.items use done rest true)).eval e

end Machine

end ScriptSandbox.Guest
