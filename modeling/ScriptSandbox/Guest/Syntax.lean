import ScriptSandbox.Number.Double
import ScriptSandbox.Text.Units

/-!
# Syntax of guest scripts
-/

namespace ScriptSandbox.Guest

inductive UnaryOp
  | minus
  | plus
  | not
  | complement
  | typeOf
  | void
deriving DecidableEq, Repr

inductive BinaryOp
  | add
  | sub
  | mul
  | div
  | rem
  | pow
  | shiftLeft
  | shiftRight
  | shiftRightZero
  | bitAnd
  | bitOr
  | bitXor
  | less
  | lessEq
  | greater
  | greaterEq
  | looseEq
  | looseNe
  | strictEq
  | strictNe
  | instanceOf
  | inside
deriving DecidableEq, Repr

inductive LogicalOp
  | and
  | or
  | coalesce
deriving DecidableEq, Repr

inductive DeclKind
  | var
  | «let»
  | const
deriving DecidableEq, Repr

inductive FuncKind
  | normal
  /-- An expression that knows itself by its name. -/
  | recursive
  | arrow
  | method
  | baseClass
  | derivedClass
deriving DecidableEq, Repr

inductive Literal
  | null
  | bool (b : Bool)
  | number (x : Double)
  | bigint (n : Int)
  | text (u : Units)
  | regex (pattern flags : Units)
deriving DecidableEq, Repr

mutual

inductive Expr
  | literal (l : Literal)
  | name (n : String)
  | self
  | array (items : List Item)
  | object (members : List Member)
  | func (f : Func)
  /-- The constructor is written or, where it is not, made for the class. -/
  | klass (name : Option String) (parent : Option Expr) (construct : Option Func)
      (methods : List (Units × Func))
  | template (start : Units) (parts : List (Expr × Units))
  | member (target : Expr) (name : Units)
  | index (target key : Expr)
  | call (callee : Expr) (args : List Item)
  | construct (callee : Expr) (args : List Item)
  | superCall (args : List Item)
  | unary (op : UnaryOp) (e : Expr)
  | delete (e : Expr)
  | binary (op : BinaryOp) (a b : Expr)
  | logical (op : LogicalOp) (a b : Expr)
  | conditional (test yes no : Expr)
  | assign (target value : Expr)
  | assignWith (op : BinaryOp) (target value : Expr)
  | update (up before : Bool) (target : Expr)
  | sequence (a b : Expr)
  | await (e : Expr)

/-- An element of an array or an argument of a call. -/
inductive Item
  | hole
  | one (e : Expr)
  | spread (e : Expr)

inductive Member
  | named (name : Units) (e : Expr)
  | keyed (key e : Expr)

inductive Func
  | mk (name : Option String) (kind : FuncKind) (isAsync strict : Bool)
      (params : List String) (rest : Option String) (body : List Stmt)

inductive Stmt
  | empty
  | expr (e : Expr)
  | declare (kind : DeclKind) (items : List (String × Option Expr))
  | func (f : Func)
  | klass (name : String) (e : Expr)
  | block (body : List Stmt)
  | branch (test : Expr) (yes : Stmt) (no : Option Stmt)
  | loop (init : Option Stmt) (test : Option Expr) (update : Option Expr) (body : Stmt)
  | «break»
  | «continue»
  | «return» (e : Option Expr)
  | throw (e : Expr)
  /-- The handler names what it catches or does not. -/
  | attempt (body : List Stmt) (handler : Option (Option String × List Stmt))
      (finalizer : Option (List Stmt))

end

namespace Func

def name : Func → Option String
  | .mk n _ _ _ _ _ _ => n

def kind : Func → FuncKind
  | .mk _ k _ _ _ _ _ => k

def isAsync : Func → Bool
  | .mk _ _ a _ _ _ _ => a

def strict : Func → Bool
  | .mk _ _ _ s _ _ _ => s

def params : Func → List String
  | .mk _ _ _ _ p _ _ => p

def rest : Func → Option String
  | .mk _ _ _ _ _ r _ => r

def body : Func → List Stmt
  | .mk _ _ _ _ _ _ b => b

/-- A function without a name gets this one. -/
def withName : Func → String → Func
  | .mk none k a s p r b, n => .mk (some n) k a s p r b
  | f, _ => f

/-- How many arguments a function expects. -/
def arity (f : Func) : Nat := f.params.length

end Func

instance : Inhabited Expr := ⟨.self⟩

instance : Inhabited Stmt := ⟨.empty⟩

/-- What is given to a name gets the name, if it is a function without one. -/
def Expr.withName (e : Expr) (n : String) : Expr :=
  match e with
  | .func f => .func (f.withName n)
  | .klass none p c ms => .klass (some n) p c ms
  | e => e

/-- A script: its statements and whether it is strict. -/
structure Program where
  body : List Stmt
  strict : Bool := false

/-! ## Declared names -/

mutual

/-- The names that a statement declares for the whole function. -/
def Stmt.varNames : Stmt → List String
  | .declare .var items => items.map Prod.fst
  | .block body => varNamesOf body
  | .branch _ yes none => yes.varNames
  | .branch _ yes (some no) => yes.varNames ++ no.varNames
  | .loop none _ _ body => body.varNames
  | .loop (some init) _ _ body => init.varNames ++ body.varNames
  | .attempt body none none => varNamesOf body
  | .attempt body none (some last) => varNamesOf body ++ varNamesOf last
  | .attempt body (some (_, handler)) none => varNamesOf body ++ varNamesOf handler
  | .attempt body (some (_, handler)) (some last) =>
    varNamesOf body ++ (varNamesOf handler ++ varNamesOf last)
  | _ => []

def varNamesOf : List Stmt → List String
  | [] => []
  | s :: rest => s.varNames ++ varNamesOf rest

end

/-- The names that statements declare for their block, and whether these can be changed. -/
def lexicalNamesOf (body : List Stmt) : List (String × Bool) :=
  body.flatMap fun
    | .declare .let items => items.map fun i => (i.1, true)
    | .declare .const items => items.map fun i => (i.1, false)
    | .klass name _ => [(name, true)]
    | _ => []

/-- The functions that statements declare. -/
def functionsOf (body : List Stmt) : List (String × Func) :=
  body.filterMap fun
    | .func f => f.name.map (·, f)
    | _ => none

end ScriptSandbox.Guest
