import ScriptSandbox.Guest.Conversion
import ScriptSandbox.Guest.Intrinsic

/-!
# Objects that are made for guests

Errors, arrays, boxes and functions. A function knows the scope in which it is made.
-/

namespace ScriptSandbox.Guest

def arrayOf (items : List (Option Value)) : Obj :=
  { kind := .array items.toArray, proto := some Intrinsic.arrayProto.id }

/-- An object for a value that is none. -/
def boxOf (v : Value) : Obj :=
  let proto : Intrinsic := match v with
    | .number _ => .numberProto
    | .bool _ => .boolProto
    | .symbol _ _ => .symbolProto
    | .bigint _ => .bigintProto
    | _ => .textProto
  { kind := .boxed v, proto := some proto.id }

namespace Realm

/-- An error object. -/
def makeError (r : Realm) (e : Mistake) : Value × Realm :=
  let (o, r) := r.alloc
    { kind := .error
      proto := some (Intrinsic.errorProto e.kind).id
      props := [named "message" (.hidden (.ofString e.message))] }
  (.object o, r)

/-- Makes a function of its syntax; it knows the scope where it is made. -/
def makeClosure (r : Realm) (f : Func) (scope : ScopeId) :
    ObjId × Realm :=
  let name := f.name.getD ""
  let (inner, r) :=
    if f.kind == .recursive && f.name.isSome then
      r.allocScope
        { bindings := [(name, { value := none })], outer := some scope
          strict := (r.scope scope).strict }
    else (scope, r)
  let (o, r) := r.alloc
    { kind := .closure f inner
      proto := some Intrinsic.functionProto.id
      props := functionProps (Units.ofString name) f.arity }
  let r :=
    if f.kind == .recursive && f.name.isSome then r.bind inner name { value := some (.object o) }
    else r
  let hasProto := (f.kind == .normal || f.kind == .recursive) && !f.isAsync
  if !hasProto then (o, r)
  else
    let (p, r) := r.alloc
      { proto := some Intrinsic.objectProto.id
        props := [named "constructor" (.hidden (.object o))] }
    (o, r.put o (Units.ofString "prototype") ⟨.data (.object p) true, false, false⟩)

/-- A function of the machine itself, such as the two of a promise. -/
def makeNative (r : Realm) (n : Native) (arity : Nat) :
    Value × Realm :=
  let (o, r) := r.alloc
    { kind := .native n, proto := some Intrinsic.functionProto.id, props := functionProps [] arity }
  (.object o, r)

/-- Defines the functions of a block in its scope. -/
def bindFunctions (r : Realm) (scope : ScopeId) (fs : List (String × Func)) : Realm :=
  fs.foldl (fun r (name, f) =>
    let (o, r) := r.makeClosure f scope
    r.bind scope name { value := some (.object o) }) r

/-- Bindings for names that are declared and not reached yet. -/
def unreached (names : List (String × Bool)) : List (String × Binding) :=
  names.map fun (n, mutable) => (n, { value := none, mutable })

/-- The bindings with which the body of a function begins. -/
def parameterBindings (f : Func) (args : List Value) (rest : Value) : List (String × Binding) :=
  let params := f.params.zipIdx.map fun (n, i) => (n, ({ value := some (args.getD i .undefined) } : Binding))
  let rests := f.rest.toList.map fun n => (n, ({ value := some rest } : Binding))
  let bound := (params ++ rests).foldl (fun bs (n, b) => bindIn n b bs) []
  let vars := (varNamesOf f.body).foldl (fun bs n =>
    if (bs.lookup n).isSome then bs else bs ++ [(n, { value := some .undefined })]) bound
  vars ++ unreached (lexicalNamesOf f.body)

/-- What a function sees as `this`. -/
def thisFor (r : Realm) (f : Func) (this : Value) : Value × Realm :=
  if f.strict then (this, r)
  else
    match this with
    | .undefined | .null => (Intrinsic.global.value, r)
    | .object o => (.object o, r)
    | v =>
      let (o, r) := r.alloc (boxOf v)
      (.object o, r)

/-- The constructor of a class that writes none. -/
def plainConstructor (name : Option String) (isDerived : Bool) : Func :=
  if isDerived then
    .mk name .derivedClass false true [] (some "args") [.expr (.superCall [.spread (.name "args")])]
  else .mk name .baseClass false true [] none []

end Realm

end ScriptSandbox.Guest
