import ScriptSandbox.Guest.NumberText
import ScriptSandbox.Guest.Value

/-!
# The store of a guest

Objects with their properties and scopes with their bindings. A property is looked for along the
prototypes, a name along the scopes and then among the properties of the global object.
-/

namespace ScriptSandbox.Guest

def lengthKey : Units := Units.ofString "length"

def indexKey (i : Nat) : Units := Units.ofChars (decimalDigits i)

/-! ## Properties of one object -/

/-- A definition of a property, in which parts may be left open. -/
structure PropertyChange where
  value : Option Value := none
  writable : Option Bool := none
  getter : Option Value := none
  setter : Option Value := none
  enumerable : Option Bool := none
  configurable : Option Bool := none
deriving DecidableEq, Repr

namespace PropertyChange

def ofProperty (p : Property) : PropertyChange :=
  let base : PropertyChange :=
    { enumerable := some p.enumerable, configurable := some p.configurable }
  match p.slot with
  | .data v w => { base with value := some v, writable := some w }
  | .accessor g s => { base with getter := some g, setter := some s }

def isAccessor (d : PropertyChange) : Bool := d.getter.isSome || d.setter.isSome

def isData (d : PropertyChange) : Bool := d.value.isSome || d.writable.isSome

/-- The property that a definition makes where there is none. -/
def fresh (d : PropertyChange) : Property :=
  let slot : Slot :=
    if d.isAccessor then .accessor (d.getter.getD .undefined) (d.setter.getD .undefined)
    else .data (d.value.getD .undefined) (d.writable.getD false)
  ⟨slot, d.enumerable.getD false, d.configurable.getD false⟩

/-- Whether a property that is not configurable allows the change. -/
def allowed (d : PropertyChange) (p : Property) : Bool :=
  p.configurable ||
    (d.configurable != some true && (d.enumerable.getD p.enumerable) == p.enumerable &&
      match p.slot with
      | .data v w =>
        !d.isAccessor && (w || (d.writable != some true && d.value.getD v == v))
      | .accessor g s =>
        !d.isData && d.getter.getD g == g && d.setter.getD s == s)

/-- The property after the change. -/
def change (d : PropertyChange) (p : Property) : Property :=
  let slot : Slot :=
    match p.slot with
    | .data v w =>
      if d.isAccessor then .accessor (d.getter.getD .undefined) (d.setter.getD .undefined)
      else .data (d.value.getD v) (d.writable.getD w)
    | .accessor g s =>
      if d.isData then .data (d.value.getD .undefined) (d.writable.getD false)
      else .accessor (d.getter.getD g) (d.setter.getD s)
  ⟨slot, d.enumerable.getD p.enumerable, d.configurable.getD p.configurable⟩

end PropertyChange

/-- Puts a property in the place of one of the same name, or behind all others. -/
def putProperty (key : Units) (p : Property) : List (Units × Property) → List (Units × Property)
  | [] => [(key, p)]
  | (k, q) :: rest => if k = key then (key, p) :: rest else (k, q) :: putProperty key p rest

def dropProperty (key : Units) (props : List (Units × Property)) : List (Units × Property) :=
  props.filter fun p => p.1 != key

/-- Whether the name of a property is an index, and which. -/
def indexBefore (a b : Units × Property) : Bool :=
  match indexOf? a.1, indexOf? b.1 with
  | some i, some j => i ≤ j
  | some _, none => true
  | none, some _ => false
  | none, none => true

namespace Obj

def isArray (x : Obj) : Bool :=
  match x.kind with
  | .array _ => true
  | _ => false

def isCallable (x : Obj) : Bool :=
  match x.kind with
  | .closure _ _ | .native _ | .host _ _ => true
  | _ => false

/-- The most that an array grows at once. -/
def growth : Nat := 1000000

/-- The properties that an object has by its kind. -/
def special (x : Obj) (key : Units) : Option Property :=
  match x.kind with
  | .array items =>
    if key = lengthKey then some ⟨.data (.ofNat items.size) true, false, false⟩
    else
      match naturalOf? key with
      | some i => ((items[i]?).getD none).map Property.plain
      | none => none
  | .boxed (.text u) =>
    if key = lengthKey then some (.constant (.ofNat u.length))
    else
      match indexOf? key with
      | some i => (u[i]?).map fun c => ⟨.data (.text [c]) false, true, false⟩
      | none => none
  | _ => none

/-- How many parts an object has, with itself. -/
def extent (x : Obj) : Nat :=
  match x.kind with
  | .array items => 1 + items.size + x.props.length
  | _ => 1 + x.props.length

def own (x : Obj) (key : Units) : Option Property := (x.special key).or (x.props.lookup key)

/-- All own properties: indices in order, then the others as they came. -/
def entries (x : Obj) : List (Units × Property) :=
  let special : List (Units × Property) :=
    match x.kind with
    | .array items =>
      (items.toList.zipIdx.filterMap fun (v, i) => v.map fun v => (indexKey i, Property.plain v)) ++
        [(lengthKey, ⟨.data (.ofNat items.size) true, false, false⟩)]
    | .boxed (.text u) =>
      (u.zipIdx.map fun (c, i) => (indexKey i, ⟨.data (.text [c]) false, true, false⟩)) ++
        [(lengthKey, Property.constant (.ofNat u.length))]
    | _ => []
  special ++ x.props.mergeSort indexBefore

def put (x : Obj) (key : Units) (p : Property) : Obj :=
  let other : Obj := { x with props := putProperty key p x.props }
  match x.kind with
  | .array items =>
    if key = lengthKey then
      match p.value with
      | .number n =>
        let size := n.truncate.toNat
        let items := if size ≤ items.size then items.extract 0 size
          else if size ≤ items.size + growth then
            items ++ Array.replicate (size - items.size) none
          else items
        { x with kind := .array items }
      | _ => x
    else
      match indexOf? key with
      | some i =>
        if i < items.size then { x with kind := .array (items.setIfInBounds i (some p.value)) }
        else if i ≤ items.size + growth then
          { x with
            kind := .array ((items ++ Array.replicate (i - items.size) none).push (some p.value)) }
        else other
      | none => other
  | _ => other

/-- The object after a definition, unless it is refused. -/
def define (x : Obj) (key : Units) (d : PropertyChange) : Option Obj :=
  match x.own key with
  | none => if x.extensible then some (x.put key d.fresh) else none
  | some p => if d.allowed p then some (x.put key (d.change p)) else none

/-- The object without a property, unless that stays. -/
def remove (x : Obj) (key : Units) : Option Obj :=
  match x.own key with
  | none => some x
  | some p =>
    if !p.configurable then none
    else
      match x.kind, indexOf? key with
      | .array items, some i =>
        if i < items.size then some { x with kind := .array (items.setIfInBounds i none) }
        else some { x with props := dropProperty key x.props }
      | _, _ => some { x with props := dropProperty key x.props }

end Obj

/-! ## Realms -/

/-- All that a guest has: objects, scopes, and what is to be done when no script runs. -/
structure Realm where
  objects : Array Obj := #[]
  scopes : Array Scope := #[]
  microtasks : List Microtask := []
  /-- How many symbols have been made. -/
  symbols : Nat := 0

instance : Inhabited Realm := ⟨{}⟩

/-- What a name stands for. -/
inductive Found
  | bound (s : ScopeId) (b : Binding)
  | property (p : Property)
  | missing

namespace Realm

/-- The number of the global object. -/
def globalId : ObjId := 0

/-- The number of the scope around all others. -/
def rootScope : ScopeId := 0

def obj (r : Realm) (o : ObjId) : Obj := r.objects.getD o default

def setObj (r : Realm) (o : ObjId) (x : Obj) : Realm :=
  { r with objects := r.objects.setIfInBounds o x }

def alloc (r : Realm) (x : Obj) : ObjId × Realm :=
  (r.objects.size, { r with objects := r.objects.push x })

def setKind (r : Realm) (o : ObjId) (k : ObjKind) : Realm := r.setObj o { r.obj o with kind := k }

/-- The property that an object or one of its prototypes has; at most `depth` are looked at. -/
def findFrom (r : Realm) (key : Units) : Nat → ObjId → Option Property
  | 0, _ => none
  | depth + 1, o =>
    match (r.obj o).own key with
    | some p => some p
    | none =>
      match (r.obj o).proto with
      | some parent => findFrom r key depth parent
      | none => none

def find (r : Realm) (o : ObjId) (key : Units) : Option Property :=
  r.findFrom key (r.objects.size + 1) o

/-- The value of a property without asking the guest, undefined where that would be needed. -/
def peek (r : Realm) (o : ObjId) (key : String) : Value :=
  match r.find o (Units.ofString key) with
  | some p => p.value
  | none => .undefined

def put (r : Realm) (o : ObjId) (key : Units) (p : Property) : Realm :=
  r.setObj o ((r.obj o).put key p)

/-- Defines a property, unless that is refused. -/
def define (r : Realm) (o : ObjId) (key : Units) (d : PropertyChange) : Option Realm :=
  ((r.obj o).define key d).map (r.setObj o)

def remove (r : Realm) (o : ObjId) (key : Units) : Option Realm :=
  ((r.obj o).remove key).map (r.setObj o)

/-- How many objects, properties and items there are. -/
def extent (r : Realm) : Nat := r.objects.toList.foldr (fun x total => x.extent + total) 0

def isCallable (r : Realm) (v : Value) : Bool :=
  match v with
  | .object o => (r.obj o).isCallable
  | _ => false

/-- The items of an array; a hole is undefined. -/
def itemsOf (r : Realm) (o : ObjId) : List Value :=
  match (r.obj o).kind with
  | .array items => items.toList.map (·.getD .undefined)
  | _ => []

/-- Whether an object is among the prototypes of another. -/
def inherits (r : Realm) (parent : ObjId) : Nat → ObjId → Bool
  | 0, _ => false
  | depth + 1, o =>
    match (r.obj o).proto with
    | some p => p == parent || inherits r parent depth p
    | none => false

/-! ## Scopes -/

def scope (r : Realm) (s : ScopeId) : Scope := r.scopes.getD s default

def setScope (r : Realm) (s : ScopeId) (x : Scope) : Realm :=
  { r with scopes := r.scopes.setIfInBounds s x }

def allocScope (r : Realm) (x : Scope) : ScopeId × Realm :=
  (r.scopes.size, { r with scopes := r.scopes.push x })

def lookupFrom (r : Realm) (name : String) : Nat → ScopeId → Found
  | 0, _ => .missing
  | depth + 1, s =>
    match (r.scope s).bindings.lookup name, (r.scope s).outer with
    | some b, _ => .bound s b
    | none, some outer => lookupFrom r name depth outer
    | none, none =>
      match r.find globalId (Units.ofString name) with
      | some p => .property p
      | none => .missing

/-- What a name stands for in a scope. -/
def lookup (r : Realm) (s : ScopeId) (name : String) : Found :=
  r.lookupFrom name (r.scopes.size + 1) s

/-- The bindings with one changed or added. -/
def bindIn (name : String) (b : Binding) : List (String × Binding) → List (String × Binding)
  | [] => [(name, b)]
  | (n, old) :: rest => if n = name then (name, b) :: rest else (n, old) :: bindIn name b rest

def bind (r : Realm) (s : ScopeId) (name : String) (b : Binding) : Realm :=
  let x := r.scope s
  r.setScope s { x with bindings := bindIn name b x.bindings }

/-- The scope in which declarations for the whole function land. -/
def functionScope (r : Realm) : Nat → ScopeId → ScopeId
  | 0, s => s
  | depth + 1, s =>
    if (r.scope s).isFunction then s
    else
      match (r.scope s).outer with
      | some outer => functionScope r depth outer
      | none => s

/-- The scope of the call that a scope belongs to, if it belongs to one. -/
def callScope (r : Realm) : Nat → ScopeId → Option ScopeId
  | 0, _ => none
  | depth + 1, s =>
    if (r.scope s).activation.isSome then some s
    else
      match (r.scope s).outer with
      | some outer => callScope r depth outer
      | none => none

/-- Adds something to be done when no script runs. -/
def enqueue (r : Realm) (t : Microtask) : Realm := { r with microtasks := r.microtasks ++ [t] }

end Realm

end ScriptSandbox.Guest
