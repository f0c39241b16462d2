import ScriptSandbox.Guest.Builtin

/-!
# Steps of the machine

`Machine.step` takes a machine from one state to the next. It stops where a function of the host is
called, until the machine is given its answer, and where nothing waits any more.
-/

namespace ScriptSandbox.Guest

/-- How a machine ends. -/
inductive Ending
  | value (v : Value)
  | thrown (v : Value)
  /-- A value that has left the guest. -/
  | json (j : Json)

inductive Turn
  | next (m : Machine)
  /-- A function of the host is called; the machine goes on with what it is given. -/
  | call (f : HostId) (args : List Json) (m : Machine)
  | ended (e : Ending) (r : Realm)

namespace Machine

variable (m : Machine)

/-! ## Scripts -/

/-- Whether the global object lets a script declare a name for its block. -/
def hidesGlobal (r : Realm) (n : String) : Bool :=
  match (r.obj Realm.globalId).own (Units.ofString n) with
  | some p => p.configurable
  | none => true

/-- Whether a function can be declared as a property of the global object. -/
def declaresFunction (r : Realm) (n : String) : Bool :=
  match (r.obj Realm.globalId).own (Units.ofString n) with
  | none => (r.obj Realm.globalId).extensible
  | some ⟨.data _ true, true, _⟩ => true
  | some p => p.configurable

def declaresVar (r : Realm) (n : String) : Bool :=
  ((r.obj Realm.globalId).own (Units.ofString n)).isSome || (r.obj Realm.globalId).extensible

/-- Declares the names of a script at the global object; `configurable` says whether they can be
deleted again. -/
def declareGlobals (r : Realm) (body : List Stmt) (scope : ScopeId) (configurable : Bool) : Realm :=
  let declareVar (r : Realm) (n : String) : Realm :=
    let key := Units.ofString n
    match (r.obj Realm.globalId).own key with
    | some _ => r
    | none => r.put Realm.globalId key ⟨.data .undefined true, true, configurable⟩
  let declareFunction (r : Realm) (d : String × Func) : Realm :=
    let key := Units.ofString d.1
    let (o, r) := r.makeClosure d.2 scope
    match (r.obj Realm.globalId).own key with
    | some p =>
      if p.configurable then
        r.put Realm.globalId key ⟨.data (.object o) true, true, configurable⟩
      else r.put Realm.globalId key { p with slot := .data (.object o) true }
    | none => r.put Realm.globalId key ⟨.data (.object o) true, true, configurable⟩
  (varNamesOf body).foldl declareVar ((functionsOf body).foldl declareFunction r)

/-- Why the names of a script cannot be declared. -/
def scriptMistake (r : Realm) (body : List Stmt) : Option Mistake :=
  let taken (n : String) : Bool := ((r.scope Realm.rootScope).bindings.lookup n).isSome
  let lexical := (lexicalNamesOf body).map Prod.fst
  let functions := (functionsOf body).map Prod.fst
  let redeclared (n : String) : Mistake := ⟨.malformed, s!"redeclaration of variable '{n}'"⟩
  match lexical.find? (fun n => taken n || !hidesGlobal r n),
      (varNamesOf body ++ functions).find? taken,
      (functions.find? (!declaresFunction r ·)).or ((varNamesOf body).find? (!declaresVar r ·)) with
  | some n, _, _ | none, some n, _ => some (redeclared n)
  | none, none, some n => some (.type s!"cannot declare global '{n}'")
  | none, none, none => none

/-- The machine that runs a script. -/
def ofScript (r : Realm) (source : String) : Machine :=
  let m : Machine := { realm := r, control := .give .undefined }
  match Program.parse source false with
  | none => m.fail ⟨.malformed, ""⟩
  | some program =>
    match scriptMistake r program.body with
    | some e => m.fail e
    | none =>
      let root := r.scope Realm.rootScope
      let r := r.setScope Realm.rootScope
        { root with
          bindings := root.bindings ++ Realm.unreached (lexicalNamesOf program.body) }
      let realm := declareGlobals r program.body Realm.rootScope false
      let m := { m with realm }.push (.evalEnd Realm.rootScope .undefined)
      if program.strict then
        let (s, realm) := m.realm.allocScope { outer := some Realm.rootScope, strict := true }
        { m with realm, scope := s }.runAll program.body
      else m.runAll program.body

/-- Evaluates a script where the machine stands: it sees the names around it, and declares its own
variables there unless it is strict. -/
def evalHere (source : Value) : Machine :=
  match source with
  | .text u =>
    match Program.parse (Units.text u) m.isStrict with
    | none => m.fail ⟨.malformed, ""⟩
    | some program =>
      let (s, realm) := m.realm.allocScope
        { bindings := Realm.unreached (lexicalNamesOf program.body), outer := some m.scope
          isFunction := program.strict, strict := program.strict }
      let home := realm.functionScope (realm.scopes.size + 1) s
      let realm :=
        if home = Realm.rootScope then declareGlobals realm program.body s true
        else
          let vars := (varNamesOf program.body).foldl (fun r n =>
            if ((r.scope home).bindings.lookup n).isSome then r
            else r.bind home n { value := some .undefined }) realm
          (functionsOf program.body).foldl (fun r (n, f) =>
            let (o, r) := r.makeClosure f s
            r.bind home n { value := some (.object o) }) vars
      { (m.push (.evalEnd m.scope m.completion)) with
        realm, scope := s, completion := .undefined }.runAll program.body
  | v => m.give v

/-- Evaluates a script in the scope around all others. -/
def evalOutside (source : Value) : Machine :=
  { (m.push (.leaveScope m.scope)) with scope := Realm.rootScope }.evalHere source

/-! ## Members and items -/

def finishItems (use : ItemsUse) (items : List (Option Value)) : Machine :=
  let args := items.map (·.getD .undefined)
  match use with
  | .array => m.giveNew (arrayOf items)
  | .call f this direct =>
    if direct && f == .object Native.eval.id then m.evalHere (args.headD .undefined)
    else m.call f this args
  | .construct (.object o) => { m with control := .construct (.object o) args o }
  | .construct _ => m.fail .notConstructor
  | .super => m.superConstruct args

def gather (use : ItemsUse) (done : List (Option Value)) (rest : List Item) : Machine :=
  m.gatherItems use (m.finishItems use) done rest

/-- Uses a member of a value. -/
def useMember (target : Value) (key : Units) (use : RefUse) : Machine :=
  match use with
  | .read => m.getProperty target key
  | .call args => (m.push (.callee target args false)).getProperty target key
  | .assign e => (m.push (.assignTo (.property target key))).eval e
  | .assignWith op e => (m.push (.combineOld (.property target key) op e)).getProperty target key
  | .update up before => (m.push (.updateOld (.property target key) up before)).getProperty target key
  | .delete => m.deleteProperty target key

/-- Uses what stands at an assignment or the like. -/
def useTarget (e : Expr) (use : RefUse) : Machine :=
  match e, use with
  | .member t name, use => (m.push (.target (.named name) use)).eval t
  | .index t key, use => (m.push (.target (.keyed key) use)).eval t
  | .name n, .read => m.readName n
  | .name n, .call args => (m.push (.callee .undefined args (n == "eval"))).readName n
  | .name n, .assign e => (m.push (.assignTo (.name n))).eval e
  | .name n, .assignWith op e => (m.push (.combineOld (.name n) op e)).readName n
  | .name n, .update up before => (m.push (.updateOld (.name n) up before)).readName n
  | .name n, .delete => m.deleteName n
  | e, .call args => (m.push (.callee .undefined args false)).eval e
  | e, .delete => (m.push (.instead (.bool true))).eval e
  | e, _ => m.eval e

/-- Makes the members of an object one after the other. -/
def addMembers (o : ObjId) (members : List Member) : Machine :=
  match members with
  | [] => m.give (.object o)
  | .named name e :: rest => (m.push (.memberValue o name rest)).eval e
  | .keyed key e :: rest => (m.push (.memberKey o e rest)).eval key

/-! ## Expressions and statements -/

def evalLiteral (l : Literal) : Machine :=
  match l with
  | .null => m.give .null
  | .bool b => m.give (.bool b)
  | .number x => m.give (.number x)
  | .bigint n => m.give (.bigint n)
  | .text u => m.give (.text u)
  | .regex pattern flags =>
    m.giveNew { kind := .regex pattern flags, proto := some Intrinsic.regexProto.id }

def evalExpr (e : Expr) : Machine :=
  match e with
  | .literal l => m.evalLiteral l
  | .name n => m.readName n
  | .self => m.readThis
  | .array items => m.gather .array [] items
  | .object members =>
    let (o, realm) := m.realm.alloc { proto := some Intrinsic.objectProto.id }
    { m with realm }.addMembers o members
  | .func f =>
    let (o, realm) := m.realm.makeClosure f m.scope
    { m with realm, control := .give (.object o) }
  | .klass name none construct methods => m.makeClass name none construct methods
  | .klass name (some p) construct methods => (m.push (.parent name construct methods)).eval p
  | .template start [] => m.give (.text start)
  | .template start ((e, behind) :: rest) => (m.push (.template start behind rest)).eval e
  | .member _ _ | .index _ _ => m.useTarget e .read
  | .call callee args => m.useTarget callee (.call args)
  | .construct callee args => (m.push (.newCallee args)).eval callee
  | .superCall args => m.gather .super [] args
  | .unary .typeOf (.name n) =>
    match m.realm.lookup m.scope n with
    | .missing => m.give (.ofString "undefined")
    | _ => (m.push (.unary .typeOf)).readName n
  | .unary op e => (m.push (.unary op)).eval e
  | .delete e => m.useTarget e .delete
  | .binary op a b => (m.push (.left op b)).eval a
  | .logical op a b => (m.push (.logical op b)).eval a
  | .conditional test yes no => (m.push (.choose yes no)).eval test
  | .assign target value => m.useTarget target (.assign value)
  | .assignWith op target value => m.useTarget target (.assignWith op value)
  | .update up before target => m.useTarget target (.update up before)
  | .sequence a b => (m.push (.discard b)).eval a
  | .await e => (m.push .awaits).eval e

/-- Declares and begins the names that are left. -/
def declare (kind : DeclKind) : List (String × Option Expr) → Machine → Machine
  | [], m => m.give .undefined
  | (n, some e) :: rest, m => (m.push (.binds kind n rest)).eval e
  | (n, none) :: rest, m =>
    declare kind rest (if kind == .var then m else m.initialise n .undefined)

/-- Gives each round of a loop bindings of its own. -/
def renew (l : Loop) : Machine :=
  if l.own.isEmpty then m
  else
    let (s, realm) := m.realm.allocScope (m.realm.scope m.scope)
    { m with realm, scope := s }

def testLoop (l : Loop) : Machine :=
  match l.test with
  | none => (m.push (.loopBody l)).exec l.body
  | some e => (m.push (.loopTest l)).eval e

/-- Goes on to the next round of a loop. -/
def nextRound (l : Loop) : Machine :=
  let m := m.renew l
  match l.update with
  | none => m.testLoop l
  | some e => (m.push (.loopUpdate l)).eval e

def startLoop (init : Option Stmt) (l : Loop) : Machine :=
  let m := { m with completion := .undefined }
  match init with
  | none => m.testLoop l
  | some s =>
    match lexicalNamesOf [s] with
    | [] => (m.push (.loopStart l)).exec s
    | names =>
      let (scope, realm) := m.realm.allocScope
        { bindings := Realm.unreached names, outer := some m.scope, strict := m.isStrict }
      let l := { l with own := names.map Prod.fst }
      ({ (m.push (.leaveScope m.scope)) with realm, scope }.push (.loopStart l)).exec s

def execStmt (s : Stmt) : Machine :=
  match s with
  | .empty | .func _ => m.give .undefined
  | .expr e => (m.push .completes).eval e
  | .declare kind items => declare kind items m
  | .klass name e => (m.push (.binds .let name [])).eval e
  | .block body => m.runBlock body
  | .branch test yes no =>
    ({ m with completion := .undefined }.push (.branch yes no)).eval test
  | .loop init test update body => m.startLoop init { test, update, body, own := [] }
  | .break => m.unwind .break
  | .continue => m.unwind .continue
  | .return none => m.unwind (.return .undefined)
  | .return (some e) => (m.push .returns).eval e
  | .throw e => (m.push .throws).eval e
  | .attempt body handler finalizer =>
    ({ m with completion := .undefined }.push (.attempt handler finalizer m.scope)).runBlock body

/-- Goes to what is to be run last, and then on as before. -/
def runFinalizer (finalizer : Option (List Stmt)) (pending : Option Abrupt) : Machine :=
  match finalizer, pending with
  | some body, pending => (m.push (.finalizer pending m.completion)).runBlock body
  | none, some a => m.unwind a
  | none, none => m.give .undefined

/-- Runs the handler of what has been thrown. -/
def handle (handler : Option String × List Stmt) (finalizer : Option (List Stmt)) (v : Value) :
    Machine :=
  let (s, realm) := m.realm.allocScope
    { bindings := handler.1.toList.map (·, { value := some v }), outer := some m.scope
      strict := m.isStrict }
  let m := { m with realm, completion := .undefined }.push (.handler finalizer m.scope)
  { m with scope := s }.runBlock handler.2

/-! ## Leaving the guest -/

/-- Lets a value leave the guest. What the guest would write as JSON text becomes what that text
says, functions become null, and what cannot be written becomes the text that messages show. -/
def exportValue (v : Value) : Machine :=
  let out (j : Json) : Machine := { m with control := .exported j }
  match v with
  | .undefined | .null => out .null
  | .bool b => out (.bool b)
  | .text u => out (.str (Units.text u))
  | .number x =>
    match x.toInt? with
    | some n => out (if n.natAbs < 0x20000000000000 then .int n else .double x)
    | none => out (if x.isFinite then .double x else .null)
  | v =>
    if m.realm.isCallable v then out .null
    else (m.push (.exportJson v)).getProperty Intrinsic.global.value (Units.ofString "JSON")

/-- What a text that the guest has written says. -/
def readWritten (v : Value) : Json :=
  match v with
  | .text u => ((Json.read (Utf8.encode (Units.text u))).toOption).getD .null
  | _ => .null

def exportShown (v : Value) : Machine :=
  { m with control := .exported (.str (m.realm.display v)) }

/-- Lets the arguments of a call leave the guest, and then makes the call. -/
def hostCall (f : HostId) (done : List Json) (rest : List Value) : Turn :=
  match rest with
  | [] => .call f done.reverse m
  | v :: rest => .next { (m.push (.hostArgument f done rest)) with control := .export v }

/-! ## Calls -/

def callValue (f this : Value) (args : List Value) : Turn :=
  match f with
  | .object o =>
    match (m.realm.obj o).kind with
    | .closure fn outer =>
      match fn.kind with
      | .baseClass | .derivedClass => .next (m.fail (.type "class constructor must be called with new"))
      | _ =>
        let (this, realm) := m.realm.thisFor fn this
        .next ({ m with realm }.enter fn outer o (some this) args none fun _ => .nothing)
    | .native .eval => .next (m.evalOutside (args.headD .undefined))
    | .native n => .next { m with control := .native n this args }
    | .host h _ => m.hostCall h [] args
    | _ => .next (m.fail .notCallable)
  | _ => .next (m.fail .notCallable)

def constructValue (f : Value) (args : List Value) (newTarget : ObjId) : Turn :=
  match f with
  | .object o =>
    match (m.realm.obj o).kind with
    | .closure fn outer => .next (m.constructClosure o fn outer args newTarget)
    | .native n =>
      match n.constructs, n.madeProto with
      | true, some i =>
        match splitArgs n 0 args n.wants [] with
        | some (before, x, hint, behind) =>
          .next ((m.push (.constructs f before behind newTarget)).toPrimitive x hint false)
        | none => .next (m.make n args (m.protoFor newTarget i))
      | _, _ => .next (m.fail .notConstructor)
    | .host h true => m.hostCall h [] args
    | _ => .next (m.fail .notConstructor)
  | _ => .next (m.fail .notConstructor)

/-! ## Frames -/

/-- What a frame does with the value that it waits for. -/
def resume (f : Frame) (v : Value) : Machine :=
  match f with
  | .unary op => m.applyUnary op v
  | .left op e => (m.push (.right op v)).eval e
  | .right op a => m.applyBinary op a v
  | .leftPrimitive op b => m.applyBinary op v b
  | .rightPrimitive op a => m.applyBinary op a v
  | .logical op e =>
    let goesOn := match op with
      | .and => v.truthy
      | .or => !v.truthy
      | .coalesce => v.isMissing
    if goesOn then m.eval e else m.give v
  | .choose yes no => m.eval (if v.truthy then yes else no)
  | .discard e => m.eval e
  | .template before behind rest =>
    match v with
    | .object o => (m.push (.template before behind rest)).toPrimitive o .text false
    | v =>
      match v.toText with
      | .error e => m.fail e
      | .ok u => m.evalExpr (.template (before ++ u ++ behind) rest)
  | .newCallee args => m.gather (.construct v) [] args
  | .items use done rest spread =>
    if spread then
      match m.elementsOf v with
      | some vs => m.gather use ((vs.map some).reverse ++ done) rest
      | none => m.fail (.type "value with type `object` is not iterable")
    else m.gather use (some v :: done) rest
  | .memberKey o e rest =>
    match v with
    | .object x => (m.push (.memberKey o e rest)).toPrimitive x .text false
    | v => (m.push (.memberValue o v.toKey rest)).eval e
  | .memberValue o key rest =>
    { m with realm := m.realm.put o key (.plain v) }.addMembers o rest
  | .target (.named name) use => m.useMember v name use
  | .target (.keyed e) use => (m.push (.key v use)).eval e
  | .key target use =>
    match v with
    | .object o =>
      if target.isMissing then m.fail .notObject
      else (m.push (.key target use)).toPrimitive o .text false
    | v => m.useMember target v.toKey use
  | .callee this args direct => m.gather (.call v this direct) [] args
  | .assignTo r => m.assign r v
  | .combineOld r op e => (m.push (.combineNew r op v)).eval e
  | .combineNew r op old => (m.push (.assignTo r)).applyBinary op old v
  | .updateOld r up before =>
    match v with
    | .object o => (m.push (.updateOld r up before)).toPrimitive o .number false
    | .bigint n =>
      let new : Value := .bigint (if up then n + 1 else n - 1)
      (if before then m else m.push (.instead v)).assign r new
    | v =>
      match v.toNumber with
      | .error e => m.fail e
      | .ok x =>
        let new : Value := .number (if up then x.plus (.ofNat 1) else x.minus (.ofNat 1))
        (if before then m else m.push (.instead (.number x))).assign r new
  | .parent name construct methods =>
    match v with
    | .object p =>
      if m.realm.isCallable v then m.makeClass name (some p) construct methods
      else m.fail (.type "superclass must be a constructor")
    | _ => m.fail (.type "superclass must be a constructor")
  | .awaits => (m.push .suspends).toPromise v
  | .suspends => m.suspend v
  | .instead v => m.give v
  | .completes => { m with completion := v }.give .undefined
  | .binds .var n rest => (m.push (.bindsRest .var rest)).assignName n v
  | .binds kind n rest => declare kind rest (m.initialise n v)
  | .bindsRest kind rest => declare kind rest m
  | .statements rest => m.runAll rest
  | .branch yes no =>
    if v.truthy then m.exec yes
    else
      match no with
      | some s => m.exec s
      | none => m.give .undefined
  | .loopStart l => (m.renew l).testLoop l
  | .loopTest l => if v.truthy then (m.push (.loopBody l)).exec l.body else m.give .undefined
  | .loopBody l => m.nextRound l
  | .loopUpdate l => m.testLoop l
  | .returns => m.unwind (.return v)
  | .throws => m.unwind (.throw v)
  | .attempt _ finalizer _ => m.runFinalizer finalizer none
  | .handler finalizer scope => { m with scope }.runFinalizer finalizer none
  | .finalizer pending completion =>
    let m := { m with completion }
    match pending with
    | some a => m.unwind a
    | none => m.give .undefined
  | .leaveScope outer => { m with scope := outer }.give v
  | .callEnd scope completion made => m.leaveCall scope completion made .undefined
  | .asyncEnd p scope completion => m.leaveAsync p scope completion true .undefined
  | .evalEnd scope completion => { m with scope, completion }.give m.completion
  | .superMade s => m.keepThis s v
  | .primitiveMethod o hint second =>
    if m.realm.isCallable v then
      (m.push (.primitiveResult o hint second)).call v (.object o) []
    else m.nextPrimitive o hint second
  | .primitiveResult o hint second =>
    if v.isObject then m.nextPrimitive o hint second else m.give v
  | .prepare n this before behind => { m with control := .native n this (before ++ v :: behind) }
  | .constructs f before behind newTarget =>
    { m with control := .construct f (before ++ v :: behind) newTarget }
  | .walking w array callback this index length current acc =>
    m.walked w array callback this index length current acc v
  | .joining separator done rest => m.joinOn separator done (v :: rest)
  | .sortTexts array done current rest =>
    match v.toText with
    | .ok u => m.sortByText array ((u, current) :: done) rest
    | .error e => m.fail e
  | .sorting array compare before behind current rest =>
    match v with
    | .object o =>
      (m.push (.sorting array compare before behind current rest)).toPrimitive o .number false
    | v => m.sorted array compare before behind current rest v
  | .writing w key place isPlain =>
    let step : WriteStep := if isPlain then .plain v key place else .value v key place
    { m with control := .write { w with steps := step :: w.steps } }
  | .thenOf p thenable => m.follow p thenable v
  | .rejecting _ _ => m.give .undefined
  | .derived p => m.resolve p v
  | .finishing v' rejects => (m.push (.finished v' rejects)).toPromise v
  | .finished v' rejects =>
    match v with
    | .object p =>
      let (after, realm) := m.realm.makeNative (.giveBack v' rejects) 0
      { m with realm }.derive p after .undefined
    | v => m.give v
  | .gathers g p index rest => m.gatherOn g p index rest v
  | .exportJson v' =>
    match v with
    | .object _ => (m.push (.exportStringify v' v)).getProperty v (Units.ofString "stringify")
    | _ => m.exportShown v'
  | .exportStringify v' json =>
    if m.realm.isCallable v then (m.push (.exportText v')).call v json [v'] else m.exportShown v'
  | .exportText _ => { m with control := .exported (readWritten v) }
  | .hostArgument _ _ _ => m.give v

/-- What a frame does when something does not end normally. -/
def unwindAt (f : Frame) (a : Abrupt) : Machine :=
  match f, a with
  | .loopBody _, .break => m.give .undefined
  | .loopBody l, .continue => m.nextRound l
  | .attempt (some h) finalizer scope, .throw v => { m with scope }.handle h finalizer v
  | .attempt _ finalizer scope, a => { m with scope }.runFinalizer finalizer (some a)
  | .handler finalizer scope, a => { m with scope }.runFinalizer finalizer (some a)
  | .leaveScope outer, a => { m with scope := outer }.unwind a
  | .callEnd scope completion made, .return v => m.leaveCall scope completion made v
  | .callEnd scope completion _, a => { m with scope, completion }.unwind a
  | .asyncEnd p scope completion, .return v => m.leaveAsync p scope completion true v
  | .asyncEnd p scope completion, .throw v => m.leaveAsync p scope completion false v
  | .evalEnd scope completion, a => { m with scope, completion }.unwind a
  | .thenOf p _, .throw v => m.settle p false v
  | .rejecting p latch, .throw v => m.rejectUnlatched p latch v
  | .derived p, .throw v => m.settle p false v
  | .exportText v, .throw _ => m.exportShown v
  | .hostArgument _ _ _, .throw _ => { m.push f with control := .exported .null }
  | _, a => m.unwind a

/-- One step of writing JSON text. -/
def stepWriting (w : Writing) : Machine :=
  match Writing.step m.realm w with
  | .more w => { m with control := .write w }
  | .done v => m.give v
  | .call w key place isPlain f this args => (m.push (.writing w key place isPlain)).call f this args
  | .mistake e => m.fail e

/-! ## Steps -/

def step : Turn :=
  match m.control with
  | .eval e => .next (m.evalExpr e)
  | .exec s => .next (m.execStmt s)
  | .call f this args => m.callValue f this args
  | .construct f args newTarget => m.constructValue f args newTarget
  | .native n this args => .next (m.native n this args)
  | .write w => .next (m.stepWriting w)
  | .export v => .next (m.exportValue v)
  | .give v =>
    match m.frames with
    | [] => .ended (.value v) m.realm
    | f :: rest => .next ({ m with frames := rest }.resume f v)
  | .unwind a =>
    match m.frames, a with
    | f :: rest, a => .next ({ m with frames := rest }.unwindAt f a)
    | [], .throw v => .ended (.thrown v) m.realm
    | [], .return v => .ended (.value v) m.realm
    | [], _ => .ended (.value .undefined) m.realm
  | .exported j =>
    match m.frames with
    | .hostArgument f done rest :: frames => { m with frames }.hostCall f (j :: done) rest
    | _ => .ended (.json j) m.realm

end Machine

end ScriptSandbox.Guest
