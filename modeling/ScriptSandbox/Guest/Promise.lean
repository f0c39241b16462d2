import ScriptSandbox.Guest.Machine

/-!
# Promises of guests

A promise is settled once. Who waits for it is told when no script runs, in the order in which they
came; a function that awaits a promise is taken off the frames and goes on then.
-/

namespace ScriptSandbox.Guest

namespace Realm

def newPromise (r : Realm) (state : PromiseState) : ObjId × Realm :=
  r.alloc { kind := .promise state, proto := some Intrinsic.promiseProto.id }

def promiseState? (r : Realm) (v : Value) : Option PromiseState :=
  match v with
  | .object o =>
    match (r.obj o).kind with
    | .promise s => some s
    | _ => none
  | _ => none

/-- Settles a promise that is pending, and lets those who wait go on. -/
def settle (r : Realm) (p : ObjId) (fulfilled : Bool) (v : Value) : Realm :=
  match (r.obj p).kind with
  | .promise (.pending waiters) =>
    let r := r.setKind p (.promise (if fulfilled then .fulfilled v else .rejected v))
    waiters.reverse.foldl (fun r w => r.enqueue (.react w fulfilled v)) r
  | _ => r

/-- Lets someone wait for a promise. -/
def await (r : Realm) (p : ObjId) (w : Waiter) : Realm :=
  match (r.obj p).kind with
  | .promise (.pending waiters) => r.setKind p (.promise (.pending (w :: waiters)))
  | .promise (.fulfilled v) => r.enqueue (.react w true v)
  | .promise (.rejected v) => r.enqueue (.react w false v)
  | _ => r

def isLatched (r : Realm) (latch : ObjId) : Bool :=
  match (r.obj latch).kind with
  | .latch b => b
  | _ => true

def setLatch (r : Realm) (latch : ObjId) : Realm := r.setKind latch (.latch true)

/-- The two functions that settle a promise; only the first call of either counts. -/
def settlers (r : Realm) (p : ObjId) : ObjId × Value × Value × Realm :=
  let (latch, r) := r.alloc { kind := .latch false }
  let (fulfil, r) := r.makeNative (.settle p latch true) 1
  let (reject, r) := r.makeNative (.settle p latch false) 1
  (latch, fulfil, reject, r)

end Realm

namespace Machine

variable (m : Machine)

/-- Settles a promise and gives nothing. -/
def settle (p : ObjId) (fulfilled : Bool) (v : Value) : Machine :=
  { m with realm := m.realm.settle p fulfilled v, control := .give .undefined }

/-- Settles a promise with a value, or lets it follow the value if that is a promise. -/
def resolve (p : ObjId) (v : Value) : Machine :=
  match v with
  | .object o =>
    if o = p then
      let (e, realm) := m.realm.makeError (.type "a promise cannot be resolved to itself")
      { m with realm }.settle p false e
    else (m.push (.thenOf p v)).getProperty v (Units.ofString "then")
  | v => m.settle p true v

/-- Lets a promise follow a value whose method `then` has been read. -/
def follow (p : ObjId) (v method : Value) : Machine :=
  if m.realm.isCallable method then
    { m with realm := m.realm.enqueue (.follow p v method), control := .give .undefined }
  else m.settle p true v

/-- Gives a promise for a value: the value itself if it is one. -/
def toPromise (v : Value) : Machine :=
  match m.realm.promiseState? v with
  | some _ => m.give v
  | none =>
    let (p, realm) := m.realm.newPromise (.pending [])
    ({ m with realm }.push (.instead (.object p))).resolve p v

/-- Gives the promise of what is done after another. -/
def derive (p : ObjId) (onFulfilled onRejected : Value) : Machine :=
  let (d, realm) := m.realm.newPromise (.pending [])
  { m with
    realm := realm.await p (.derived d onFulfilled onRejected), control := .give (.object d) }

/-- The frames up to the end of the asynchronous call, that call, and the frames behind it. -/
def splitAsync : List Frame → Option (List Frame × (ObjId × ScopeId × Value) × List Frame)
  | [] => none
  | .asyncEnd p scope completion :: rest => some ([], (p, scope, completion), rest)
  | f :: rest => (splitAsync rest).map fun (inner, call, outer) => (f :: inner, call, outer)

/-- Suspends the call that awaits a promise. -/
def suspend (p : Value) : Machine :=
  match p, splitAsync m.frames with
  | .object o, some (inner, (promise, scope, completion), outer) =>
    let c : Coroutine := { promise, frames := inner, scope := m.scope, completion := m.completion }
    { m with
      realm := m.realm.await o (.coroutine c), frames := outer, scope, completion
      control := .give (.object promise) }
  | p, _ => m.give p

/-- Ends an asynchronous call: its promise is settled and given. -/
def leaveAsync (p : ObjId) (scope : ScopeId) (completion : Value) (fulfilled : Bool) (v : Value) :
    Machine :=
  let m := { m with scope, completion }.push (.instead (.object p))
  if fulfilled then m.resolve p v else m.settle p false v

/-- Calls a function with the two that settle a promise, and gives the promise. -/
def withSettlers (p : ObjId) (f this : Value) : Machine :=
  let (latch, fulfil, reject, realm) := m.realm.settlers p
  (({ m with realm }.push (.instead (.object p))).push (.rejecting p latch)).call f this
    [fulfil, reject]

/-- Rejects a promise unless it has been settled. -/
def rejectUnlatched (p latch : ObjId) (e : Value) : Machine :=
  if m.realm.isLatched latch then m.give .undefined
  else { m with realm := m.realm.setLatch latch }.settle p false e

/-- What the functions that settle a promise do. -/
def settleOnce (p latch : ObjId) (fulfils : Bool) (v : Value) : Machine :=
  if m.realm.isLatched latch then m.give .undefined
  else
    let m := { m with realm := m.realm.setLatch latch }
    let m := m.push (.instead .undefined)
    if fulfils then m.resolve p v else m.settle p false v

/-! ## All of several promises -/

/-- Turns the next of several values into a promise to wait for. -/
def gatherNext (gathering promise : ObjId) (index : Nat) (rest : List Value) : Machine :=
  match rest with
  | [] => m.give (.object promise)
  | v :: rest => (m.push (.gathers gathering promise index rest)).toPromise v

/-- Waits for one of several promises. -/
def gatherOn (gathering promise : ObjId) (index : Nat) (rest : List Value) (p : Value) : Machine :=
  match p with
  | .object o =>
    let (latch, realm) := m.realm.alloc { kind := .latch false }
    let (onFulfilled, realm) := realm.makeNative (.gather gathering index latch) 1
    let (rejected, realm) := realm.alloc { kind := .latch false }
    let (onRejected, realm) := realm.makeNative (.settle promise rejected false) 1
    let (d, realm) := realm.newPromise (.pending [])
    let realm := realm.await o (.derived d onFulfilled onRejected)
    { m with realm }.gatherNext gathering promise (index + 1) rest
  | _ => m.gatherNext gathering promise (index + 1) rest

/-- Gives a promise for all of several values. -/
def gatherAll (vs : List Value) : Machine :=
  let (p, realm) := m.realm.newPromise (.pending [])
  let (g, realm) := realm.alloc
    { kind := .gathering (Array.replicate vs.length .undefined) vs.length p }
  let m := { m with realm }
  if vs.isEmpty then
    let (a, realm) := m.realm.alloc (arrayOf [])
    ({ m with realm }.push (.instead (.object p))).settle p true (.object a)
  else m.gatherNext g p 0 vs

/-- Puts one of several values in its place; the last one settles the promise. -/
def gatherOne (g : ObjId) (index : Nat) (latch : ObjId) (v : Value) : Machine :=
  match (m.realm.obj g).kind with
  | .gathering values missing p =>
    if m.realm.isLatched latch then m.give .undefined
    else
      let values := values.setIfInBounds index v
      let realm := (m.realm.setLatch latch).setKind g (.gathering values (missing - 1) p)
      if missing ≤ 1 then
        let (a, realm) := realm.alloc (arrayOf (values.toList.map some))
        { m with realm }.settle p true (.object a)
      else { m with realm, control := .give .undefined }
  | _ => m.give .undefined

/-! ## Microtasks -/

/-- The machine that does what is next. -/
def ofMicrotask (r : Realm) (t : Microtask) : Machine :=
  let m : Machine := { realm := r, control := .give .undefined }
  match t with
  | .react (.derived d onFulfilled onRejected) fulfilled v =>
    let f := if fulfilled then onFulfilled else onRejected
    if r.isCallable f then (m.push (.derived d)).call f .undefined [v]
    else if fulfilled then m.resolve d v
    else m.settle d false v
  | .react (.coroutine c) fulfilled v =>
    { realm := r, frames := c.frames ++ [.asyncEnd c.promise Realm.rootScope .undefined]
      scope := c.scope, completion := c.completion
      control := if fulfilled then .give v else .unwind (.throw v) }
  | .follow p thenable method => m.withSettlers p method thenable

end Machine

end ScriptSandbox.Guest
