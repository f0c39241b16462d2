import ScriptSandbox.Guest.Syntax
import ScriptSandbox.Json.Basic

/-!
# Values, objects and scopes of guests

Objects and scopes live in a store and are spoken of by their numbers. A `Frame` is what waits for
the value of an expression or for the end of a statement; frames are values too, since a function
that awaits a promise leaves its frames with the promise.
-/

namespace ScriptSandbox.Guest

abbrev ObjId := Nat

abbrev ScopeId := Nat

/-- Functions of the host, by the numbers under which it knows them. -/
abbrev HostId := Nat

inductive Value
  | undefined
  | null
  | bool (b : Bool)
  | number (x : Double)
  | bigint (n : Int)
  | text (u : Units)
  | symbol (id : Nat) (label : Units)
  | object (o : ObjId)
deriving DecidableEq, Repr, Inhabited

def Value.ofString (s : String) : Value := .text (Units.ofString s)

def Value.ofNat (n : Nat) : Value := .number (.ofNat n)

/-- A statement that does not end normally. -/
inductive Abrupt
  | throw (v : Value)
  | «return» (v : Value)
  | «break»
  | «continue»
deriving DecidableEq, Repr

inductive ErrorKind
  | plain
  | type
  | range
  | reference
  | malformed
  | evaluation
  | address
deriving DecidableEq, Repr

def ErrorKind.all : List ErrorKind :=
  [.plain, .type, .range, .reference, .malformed, .evaluation, .address]

def ErrorKind.name : ErrorKind → String
  | .plain => "Error"
  | .type => "TypeError"
  | .range => "RangeError"
  | .reference => "ReferenceError"
  | .malformed => "SyntaxError"
  | .evaluation => "EvalError"
  | .address => "URIError"

/-! ## Functions that guests find -/

/-- The ways to walk along an array with a function. -/
inductive Walk
  | map
  | filter
  | forEach
  | some
  | every
  | find
  | reduce
deriving DecidableEq, Repr

inductive Rounding
  | abs
  | ceil
  | floor
  | round
  | trunc
deriving DecidableEq, Repr

inductive Native
  | makeObject
  | makeFunction
  | makeArray
  | makeText
  | makeNumber
  | makeBool
  | makeSymbol
  | makeBigint
  | makeDate
  | makeRegex
  | makePromise
  | makeError (k : ErrorKind)
  | eval
  | parseInt
  | parseFloat
  | isNaN
  | isFinite
  | keys
  | values
  | entries
  | assign
  | defineProperty
  | preventExtensions
  | ownNames
  | protoOf
  | hasOwn
  | objectText
  | objectValue
  | functionCall
  | functionApply
  | isArray
  | push
  | pop
  | slice
  | concat
  | indexOf
  | includes
  | join
  | reverse
  | walk (w : Walk)
  | sort
  | arrayText
  | textValue
  | upper
  | lower
  | startsWith
  | endsWith
  | textIncludes
  | textIndexOf
  | textSlice
  | trim
  | split
  | repeated
  | charAt
  | numberText
  | numberValue
  | boolText
  | boolValue
  | symbolText
  | bigintText
  | isoText
  | dateJson
  | dateTime
  | promiseResolve
  | promiseReject
  | promiseAll
  | promiseThen
  | promiseCatch
  | promiseFinally
  | stringify
  | parseJson
  | rounding (r : Rounding)
  | greatest
  | least
  | power
  | errorText
  /-- Fulfils or rejects a promise, unless the latch has been set. -/
  | settle (promise latch : ObjId) (fulfils : Bool)
  /-- Puts one of the values that are gathered in its place, unless the latch has been set. -/
  | gather (gathering : ObjId) (index : Nat) (latch : ObjId)
  /-- Calls what is to be called in the end, and then goes on as before. -/
  | finish (callback : Value) (rejects : Bool)
  /-- Returns or throws a value. -/
  | giveBack (v : Value) (rejects : Bool)
deriving DecidableEq, Repr

/-! ## Frames -/

/-- What can be assigned to. -/
inductive Ref
  | name (n : String)
  | property (target : Value) (key : Units)
deriving DecidableEq, Repr

/-- How a member is named. -/
inductive Access
  | named (name : Units)
  | keyed (key : Expr)

/-- What is done with a member. -/
inductive RefUse
  | read
  | call (args : List Item)
  | assign (e : Expr)
  | assignWith (op : BinaryOp) (e : Expr)
  | update (up before : Bool)
  | delete

/-- What items are gathered for. -/
inductive ItemsUse
  | array
  /-- A call is direct where the function is named by itself. -/
  | call (f this : Value) (direct : Bool)
  | construct (f : Value)
  | super
deriving DecidableEq, Repr

inductive Hint
  | text
  | number
  | none
deriving DecidableEq, Repr

/-- What a call is to give besides what it returns. -/
inductive Made
  | nothing
  /-- The object that a constructor was given. -/
  | object (o : ObjId)
  /-- The object that the constructor of the parent has made, kept with the call. -/
  | kept (call : ScopeId)
deriving DecidableEq, Repr

structure Loop where
  test : Option Expr
  update : Option Expr
  body : Stmt
  /-- The names that each round has for itself. -/
  own : List String

/-- Where a value stands in a JSON text. -/
inductive WritePlace
  | top
  | field
  | item
deriving DecidableEq, Repr

/-- A piece of what is still to be written as JSON text. -/
inductive WriteStep
  | property (holder : ObjId) (key : Units) (place : WritePlace)
  /-- A value that has not been asked yet what it wants written in its stead. -/
  | value (v : Value) (key : Units) (place : WritePlace)
  | plain (v : Value) (key : Units) (place : WritePlace)
  /-- The end of an array or an object. -/
  | close (u : UInt16)
deriving DecidableEq, Repr

structure Writing where
  steps : List WriteStep
  /-- The text so far, in reverse. -/
  text : Units := []
  /-- The objects that are open, each with whether something has been written in it. -/
  around : List (ObjId × Bool) := []
  indent : Units := []
deriving DecidableEq, Repr

inductive Frame
  -- expressions
  | unary (op : UnaryOp)
  | left (op : BinaryOp) (right : Expr)
  | right (op : BinaryOp) (left : Value)
  | leftPrimitive (op : BinaryOp) (right : Value)
  | rightPrimitive (op : BinaryOp) (left : Value)
  | logical (op : LogicalOp) (right : Expr)
  | choose (yes no : Expr)
  | discard (next : Expr)
  | template (before behind : Units) (rest : List (Expr × Units))
  | items (use : ItemsUse) (done : List (Option Value)) (rest : List Item) (spread : Bool)
  | memberKey (o : ObjId) (e : Expr) (rest : List Member)
  | memberValue (o : ObjId) (key : Units) (rest : List Member)
  | target (a : Access) (use : RefUse)
  | key (target : Value) (use : RefUse)
  | newCallee (args : List Item)
  | callee (this : Value) (args : List Item) (direct : Bool)
  | assignTo (r : Ref)
  | combineOld (r : Ref) (op : BinaryOp) (e : Expr)
  | combineNew (r : Ref) (op : BinaryOp) (old : Value)
  | updateOld (r : Ref) (up before : Bool)
  | parent (name : Option String) (construct : Option Func) (methods : List (Units × Func))
  | awaits
  /-- Waits for the promise on which a function is suspended. -/
  | suspends
  /-- Gives this value, whatever comes. -/
  | instead (v : Value)
  -- statements
  | completes
  | binds (kind : DeclKind) (name : String) (rest : List (String × Option Expr))
  | bindsRest (kind : DeclKind) (rest : List (String × Option Expr))
  | statements (rest : List Stmt)
  | branch (yes : Stmt) (no : Option Stmt)
  | loopStart (l : Loop)
  | loopTest (l : Loop)
  | loopBody (l : Loop)
  | loopUpdate (l : Loop)
  | returns
  | throws
  | attempt (handler : Option (Option String × List Stmt)) (finalizer : Option (List Stmt))
      (scope : ScopeId)
  | handler (finalizer : Option (List Stmt)) (scope : ScopeId)
  | finalizer (pending : Option Abrupt) (completion : Value)
  | leaveScope (outer : ScopeId)
  -- calls
  | callEnd (scope : ScopeId) (completion : Value) (made : Made)
  | asyncEnd (promise : ObjId) (scope : ScopeId) (completion : Value)
  | evalEnd (scope : ScopeId) (completion : Value)
  /-- Waits for what the constructor of the parent makes. -/
  | superMade (call : ScopeId)
  /-- Waits for the method that makes a primitive of an object, or for its result. -/
  | primitiveMethod (o : ObjId) (hint : Hint) (second : Bool)
  | primitiveResult (o : ObjId) (hint : Hint) (second : Bool)
  | prepare (n : Native) (this : Value) (before behind : List Value)
  | constructs (f : Value) (before behind : List Value) (newTarget : ObjId)
  | walking (w : Walk) (array : ObjId) (callback this : Value) (index length : Nat) (current : Value)
      (acc : List (Option Value))
  | joining (separator : Units) (done : List Units) (rest : List Value)
  | sortTexts (array : ObjId) (done : List (Units × Value)) (current : Value) (rest : List Value)
  /-- An insertion: what is sorted already stands before and behind the place, what comes after the
  place in order, what comes before in reverse. -/
  | sorting (array : ObjId) (compare : Value) (before behind : List Value) (current : Value)
      (rest : List Value)
  /-- Waits for a property, or for what is to be written in the stead of a value. -/
  | writing (w : Writing) (key : Units) (place : WritePlace) (isPlain : Bool)
  | thenOf (promise : ObjId) (v : Value)
  | rejecting (promise latch : ObjId)
  | derived (promise : ObjId)
  | finishing (v : Value) (rejects : Bool)
  | finished (v : Value) (rejects : Bool)
  | gathers (gathering promise : ObjId) (index : Nat) (rest : List Value)
  -- leaving the guest
  | exportJson (v : Value)
  | exportStringify (v json : Value)
  | exportText (v : Value)
  | hostArgument (f : HostId) (done : List Json) (rest : List Value)

/-- The frames that a function leaves when it awaits a promise. -/
structure Coroutine where
  promise : ObjId
  frames : List Frame
  scope : ScopeId
  completion : Value

/-! ## Promises -/

/-- Who waits for a promise. -/
inductive Waiter
  | derived (promise : ObjId) (onFulfilled onRejected : Value)
  | coroutine (c : Coroutine)

inductive PromiseState
  | pending (waiters : List Waiter)
  | fulfilled (v : Value)
  | rejected (v : Value)

/-- What is done when no script runs. -/
inductive Microtask
  | react (w : Waiter) (fulfilled : Bool) (v : Value)
  | follow (promise : ObjId) (thenable method : Value)

/-! ## Objects -/

inductive Slot
  | data (value : Value) (writable : Bool)
  | accessor (getter setter : Value)
deriving DecidableEq, Repr

structure Property where
  slot : Slot
  enumerable : Bool
  configurable : Bool
deriving DecidableEq, Repr

namespace Property

def value (p : Property) : Value :=
  match p.slot with
  | .data v _ => v
  | .accessor _ _ => .undefined

/-- A property as assignments make it. -/
def plain (v : Value) : Property := ⟨.data v true, true, true⟩

/-- A property that is not enumerated. -/
def hidden (v : Value) : Property := ⟨.data v true, false, true⟩

/-- A property that only a definition changes. -/
def fixed (v : Value) : Property := ⟨.data v false, false, true⟩

/-- A property that nothing changes. -/
def constant (v : Value) : Property := ⟨.data v false, false, false⟩

end Property

inductive ObjKind
  | plain
  | array (items : Array (Option Value))
  | closure (f : Func) (scope : ScopeId)
  | native (n : Native)
  | host (f : HostId) (constructs : Bool)
  | error
  | boxed (v : Value)
  | date (time : Double)
  | regex (pattern flags : Units)
  | promise (state : PromiseState)
  | latch (isSet : Bool)
  | gathering (values : Array Value) (missing : Nat) (promise : ObjId)

structure Obj where
  kind : ObjKind := .plain
  proto : Option ObjId := none
  /-- The properties in the order in which they came, each name once. -/
  props : List (Units × Property) := []
  extensible : Bool := true

instance : Inhabited Obj := ⟨{}⟩

/-! ## Scopes -/

structure Binding where
  /-- What is bound, absent before its declaration has been reached. -/
  value : Option Value
  mutable : Bool := true
deriving DecidableEq, Repr

/-- The call that a scope belongs to. -/
structure Activation where
  /-- Absent in a constructor before it has called that of its parent. -/
  this : Option Value
  callee : ObjId
  newTarget : Option ObjId
deriving DecidableEq, Repr

structure Scope where
  bindings : List (String × Binding) := []
  outer : Option ScopeId := none
  activation : Option Activation := none
  /-- Whether declarations for the whole function land here. -/
  isFunction : Bool := false
  strict : Bool := false
deriving Repr, Inhabited

end ScriptSandbox.Guest
