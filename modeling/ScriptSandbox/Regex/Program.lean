import ScriptSandbox.Regex.Expr

/-!
# Programs for matching

An expression becomes a list of instructions. Of two ways out of a fork the first is preferred, so
that the preferred run of a program is the match that the expression asks for.
-/

namespace ScriptSandbox.Regex

inductive Instruction
  | chars (set : CharSet) (next : Nat)
  | look (condition : Condition) (next : Nat)
  | fork (first second : Nat)
  | fail
  | done
deriving Inhabited

abbrev Program := Array Instruction

/-- Adds an instruction; its place. -/
def Program.add (p : Program) (i : Instruction) : Program × Nat := (p.push i, p.size)

mutual

/-- Whether an expression matches nothing at all. -/
def Expr.nullable : Expr → Bool
  | .empty => true
  | .chars _ => false
  | .look _ => true
  | .repeat low _ _ inner => low == 0 || inner.nullable
  | .concat items => allNullable items
  | .alternate items => anyNullable items

def allNullable : List Expr → Bool
  | [] => true
  | e :: rest => e.nullable && allNullable rest

def anyNullable : List Expr → Bool
  | [] => false
  | e :: rest => e.nullable || anyNullable rest

end

mutual

/-- The number of instructions of an expression, or a bound on it. -/
def Expr.weight : Expr → Nat
  | .empty => 1
  | .chars _ => 1
  | .look _ => 1
  | .repeat low high _ inner => (inner.weight + 1) * ((high.getD low) + 1)
  | .concat items => weightOf items + 1
  | .alternate items => weightOf items + items.length + 1

def weightOf : List Expr → Nat
  | [] => 0
  | e :: rest => e.weight + weightOf rest

end

def fork (greedy : Bool) (inner after : Nat) : Instruction :=
  if greedy then .fork inner after else .fork after inner

/-- One round of `compile` before `next`, `count` times. -/
def copies (compile : Program → Nat → Program × Nat) : Nat → Program → Nat → Program × Nat
  | 0, p, next => (p, next)
  | n + 1, p, next =>
    let (p, next) := compile p next
    copies compile n p next

/-- Up to `count` rounds of `compile`, each of which may go on to `next` instead. -/
def options (compile : Program → Nat → Program × Nat) (greedy : Bool) (next : Nat) :
    Nat → Program → Nat → Program × Nat
  | 0, p, entry => (p, entry)
  | n + 1, p, entry =>
    let (p, inner) := compile p entry
    let (p, entry) := p.add (fork greedy inner next)
    options compile greedy next n p entry

/-- One or more rounds. -/
def plus (compile : Program → Nat → Program × Nat) (greedy : Bool) (p : Program) (next : Nat) :
    Program × Nat :=
  let (p, loop) := p.add .fail
  let (p, inner) := compile p loop
  (p.set! loop (fork greedy inner next), inner)

mutual

/-- Compiles an expression before the instruction at `next`; the place of its entry. -/
def Expr.compile : Expr → Program → Nat → Program × Nat
  | .empty, p, next => (p, next)
  | .chars s, p, next => p.add (.chars s next)
  | .look c, p, next => p.add (.look c next)
  | .repeat low high greedy inner, p, next =>
    let once := inner.compile
    match low, high with
    | 0, none =>
      if inner.nullable then
        let (p, entry) := plus once greedy p next
        p.add (fork greedy entry next)
      else
        let (p, loop) := p.add .fail
        let (p, entry) := once p loop
        (p.set! loop (fork greedy entry next), loop)
    | n + 1, none =>
      let (p, entry) := plus once greedy p next
      copies once n p entry
    | low, some high =>
      let (p, entry) := options once greedy next (high - low) p next
      copies once low p entry
  | .concat items, p, next => compileAll items p next
  | .alternate items, p, next => compileAny items p next

def compileAll : List Expr → Program → Nat → Program × Nat
  | [], p, next => (p, next)
  | e :: rest, p, next =>
    let (p, next) := compileAll rest p next
    e.compile p next

def compileAny : List Expr → Program → Nat → Program × Nat
  | [], p, _ => p.add .fail
  | e :: rest, p, next =>
    match rest with
    | [] => e.compile p next
    | _ =>
      let (p, second) := compileAny rest p next
      let (p, first) := e.compile p next
      p.add (.fork first second)

end

end ScriptSandbox.Regex
