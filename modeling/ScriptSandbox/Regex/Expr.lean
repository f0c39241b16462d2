import ScriptSandbox.Regex.Syntax
import ScriptSandbox.Text.Blank
import ScriptSandbox.Text.Case
import ScriptSandbox.Text.Category
import ScriptSandbox.Text.ScriptTable

/-!
# Meaning of regular expressions

The flags are resolved here: what is left are sets of characters, conditions on the characters on
either side, repetition, sequence and choice.
-/

namespace ScriptSandbox.Regex

/-- A set of characters. -/
abbrev CharSet := Char → Bool

/-- A condition on the characters before and behind a place. -/
abbrev Condition := Option Char → Option Char → Bool

inductive Expr
  | empty
  | chars (set : CharSet)
  | look (condition : Condition)
  | repeat (low : Nat) (high : Option Nat) (greedy : Bool) (inner : Expr)
  | concat (items : List Expr)
  | alternate (items : List Expr)
deriving Inhabited

structure Flags where
  ignoreCase : Bool := false
  multiLine : Bool := false
  dotAll : Bool := false
  swapGreed : Bool := false
  unicode : Bool := true
  crlf : Bool := false

namespace Flags

def set (f : Flags) (flag : Flag) (on : Bool) : Flags :=
  match flag with
  | .ignoreCase => { f with ignoreCase := on }
  | .multiLine => { f with multiLine := on }
  | .dotAll => { f with dotAll := on }
  | .swapGreed => { f with swapGreed := on }
  | .unicode => { f with unicode := on }
  | .crlf => { f with crlf := on }
  | .loose => f

def setAll (f : Flags) (items : List (Flag × Bool)) : Flags :=
  items.foldl (fun f (flag, on) => f.set flag on) f

end Flags

/-! ## Sets of characters -/

def isAsciiWord (c : Char) : Bool := c.isAlphanum || c == '_'

def isAsciiSpace (c : Char) : Bool := c == ' ' || (9 ≤ c.toNat && c.toNat ≤ 13)

def Perl.set (unicode : Bool) : Perl → CharSet
  | .digit => if unicode then Text.isDecimal else Char.isDigit
  | .space => if unicode then Text.isBlank else isAsciiSpace
  | .word => if unicode then Text.isWordChar else isAsciiWord

def asciiSet (name : String) : CharSet :=
  let graph (c : Char) : Bool := 33 ≤ c.toNat && c.toNat ≤ 126
  match name with
  | "alnum" => Char.isAlphanum
  | "alpha" => Char.isAlpha
  | "ascii" => fun c => c.toNat < 128
  | "blank" => fun c => c == ' ' || c == '\t'
  | "cntrl" => fun c => c.toNat < 32 || c.toNat == 127
  | "digit" => Char.isDigit
  | "graph" => graph
  | "lower" => Char.isLower
  | "print" => fun c => graph c || c == ' '
  | "punct" => fun c => graph c && !c.isAlphanum
  | "space" => isAsciiSpace
  | "upper" => Char.isUpper
  | "word" => isAsciiWord
  | _ => fun c => c.isDigit || ('a' ≤ c && c ≤ 'f') || ('A' ≤ c && c ≤ 'F')

/-- The characters some case variant of which is in a set. -/
def foldSet (s : CharSet) : CharSet := fun c => s c || (Text.caseVariants c).any s

/-- The same among the ASCII letters alone. -/
def foldAsciiSet (s : CharSet) : CharSet := fun c =>
  s c || (c.toNat < 128 && (s c.toLower || s c.toUpper))

def negateIf (negated : Bool) (s : CharSet) : CharSet := if negated then fun c => !s c else s

def scriptSet? (name : String) : Option CharSet :=
  (Text.ScriptTable.ranges.find? fun s => Text.Category.named name s.1 s.1).map fun s =>
    (Text.Ranges.read s.2).contains

/-- Properties that are either true or false of a character. -/
def binarySet? (name : String) : Option CharSet :=
  let table : List (String × String × CharSet) :=
    [("Any", "Any", fun _ => true), ("ASCII", "ASCII", fun c => c.toNat < 128),
      ("Assigned", "Assigned", Text.Category.isAssigned),
      ("Alpha", "Alphabetic", Text.isAlphabetic),
      ("Lower", "Lowercase", Text.Category.inOneOf ["Ll"]),
      ("Upper", "Uppercase", Text.Category.inOneOf ["Lu"]),
      ("WSpace", "White_Space", Text.isBlank), ("space", "White_Space", Text.isBlank)]
  (table.find? fun t => Text.Category.named name t.1 t.2.1).map (·.2.2)

/-- A name with the letters in front that some write before it taken off. -/
def withoutIs (name : String) : String :=
  match name.toList with
  | a :: b :: rest =>
    if a.toLower = 'i' ∧ b.toLower = 's' ∧ rest ≠ [] then String.ofList rest else name
  | _ => name

def namedSet? (name : String) : Option CharSet :=
  let find (n : String) : Option CharSet :=
    ((binarySet? n).or (Text.Category.ofName? n)).or (scriptSet? n)
  (find name).or (find (withoutIs name))

def Property.set : Property → Except FaultKind CharSet
  | .named name =>
    match namedSet? name with
    | some s => .ok s
    | none => .error .propertyUnknown
  | .valued name value negated =>
    let settle (s : Option CharSet) : Except FaultKind CharSet :=
      match s with
      | some s => .ok (negateIf negated s)
      | none => .error .propertyValueUnknown
    if Text.Category.named name "gc" "General_Category" then settle (Text.Category.ofName? value)
    else if Text.Category.named name "sc" "Script" ∨
        Text.Category.named name "scx" "Script_Extensions" then settle (scriptSet? value)
    else .error .propertyUnknown

/-- The characters that are written as one byte above ASCII. -/
def highBytes : List Char := (List.range 128).map fun n => Char.ofNat (128 + n)

abbrev Meaning (α : Type) := Except Fault α

def refuse (kind : FaultKind) (span : Span) : Meaning α := .error { kind, span }

/-- A set of bytes must not reach beyond ASCII. -/
def onlyAscii (span : Span) (s : CharSet) : Meaning CharSet :=
  if highBytes.any s then refuse .notUtf8 span else .ok fun c => c.toNat < 128 && s c

def propertySet (f : Flags) (p : Property) (negated : Bool) (span : Span) : Meaning CharSet :=
  if !f.unicode then refuse .unicodeNotAllowed span
  else
    match p.set with
    | .error kind => refuse kind span
    | .ok s => .ok (negateIf negated (if f.ignoreCase then foldSet s else s))

/-- The character of a literal inside brackets. -/
def setLiteral (f : Flags) (l : Literal) : Meaning Char :=
  if f.unicode ∨ l.char.toNat < 128 then .ok l.char
  else if l.byte then .ok l.char
  else refuse .unicodeNotAllowed l.span

def fold (f : Flags) (s : CharSet) : CharSet :=
  if !f.ignoreCase then s else if f.unicode then foldSet s else foldAsciiSet s

mutual

def SetNode.set (f : Flags) : SetNode → Meaning CharSet
  | .literal l => (setLiteral f l).map fun c => (· == c)
  | .range a b => do
    let a ← setLiteral f a
    let b ← setLiteral f b
    return fun c => a ≤ c && c ≤ b
  | .ascii name negated => .ok (negateIf negated (asciiSet name))
  | .perl kind negated _ => .ok (negateIf negated (kind.set f.unicode))
  | .property p negated span => propertySet f p negated span
  | .bracket inner negated span => do
    let s ← inner.set f
    let s := negateIf negated (fold f s)
    if f.unicode then return s else onlyAscii span s
  | .union items => do
    let sets ← setsOf f items
    return fun c => sets.any (· c)
  | .op kind left right => do
    let a := fold f (← left.set f)
    let b := fold f (← right.set f)
    match kind with
    | .intersection => return fun c => a c && b c
    | .difference => return fun c => a c && !b c
    | .symmetricDifference => return fun c => a c != b c

def setsOf (f : Flags) : List SetNode → Meaning (List CharSet)
  | [] => .ok []
  | x :: rest => do return (← x.set f) :: (← setsOf f rest)

end

/-! ## Conditions -/

def atStart : Condition := fun before _ => before.isNone

def atEnd : Condition := fun _ behind => behind.isNone

def isWordAt (unicode : Bool) (c : Option Char) : Bool :=
  match c with
  | none => false
  | some c => if unicode then Text.isWordChar c else isAsciiWord c

def Look.condition (f : Flags) : Look → Condition
  | .textStart => atStart
  | .textEnd => atEnd
  | .lineStart =>
    if !f.multiLine then atStart
    else if f.crlf then fun before behind =>
      before.isNone || before == some '\n' || (before == some '\r' && behind != some '\n')
    else fun before _ => before.isNone || before == some '\n'
  | .lineEnd =>
    if !f.multiLine then atEnd
    else if f.crlf then fun before behind =>
      behind.isNone || behind == some '\r' || (behind == some '\n' && before != some '\r')
    else fun _ behind => behind.isNone || behind == some '\n'
  | .boundary => fun a b => isWordAt f.unicode a != isWordAt f.unicode b
  | .noBoundary => fun a b => isWordAt f.unicode a == isWordAt f.unicode b
  | .wordStart => fun a b => !isWordAt f.unicode a && isWordAt f.unicode b
  | .wordEnd => fun a b => isWordAt f.unicode a && !isWordAt f.unicode b
  | .wordStartHalf => fun a _ => !isWordAt f.unicode a
  | .wordEndHalf => fun _ b => !isWordAt f.unicode b

/-! ## Expressions -/

mutual

/-- The meaning of a node under flags, and the flags behind it. -/
def Node.expr (f : Flags) : Node → Meaning (Expr × Flags)
  | .empty => .ok (.empty, f)
  | .flags items => .ok (.empty, f.setAll items)
  | .literal l =>
    if !f.unicode ∧ l.byte ∧ 127 < l.char.toNat then refuse .notUtf8 l.span
    else .ok (.chars (fold f (· == l.char)), f)
  | .dot span =>
    if !f.unicode then refuse .notUtf8 span
    else if f.dotAll then .ok (.chars fun _ => true, f)
    else if f.crlf then .ok (.chars fun c => c != '\n' && c != '\r', f)
    else .ok (.chars fun c => c != '\n', f)
  | .look kind => .ok (.look (kind.condition f), f)
  | .perl kind negated span =>
    if f.unicode then .ok (.chars (negateIf negated (kind.set true)), f)
    else if negated then refuse .notUtf8 span
    else .ok (.chars (kind.set false), f)
  | .property p negated span => (propertySet f p negated span).map fun s => (.chars s, f)
  | .bracket inner negated span =>
    ((SetNode.bracket inner negated span).set f).map fun s => (.chars s, f)
  | .repeat low high greedy inner => do
    let (e, _) ← inner.expr f
    return (.repeat low high (greedy != f.swapGreed) e, f)
  | .group items inner => do
    let (e, _) ← inner.expr (f.setAll items)
    return (e, f)
  | .concat items => do
    let (es, f) ← exprs f items
    return (.concat es, f)
  | .alternate items => do
    let (es, f) ← exprs f items
    return (.alternate es, f)

def exprs (f : Flags) : List Node → Meaning (List Expr × Flags)
  | [] => .ok ([], f)
  | x :: rest => do
    let (e, f) ← x.expr f
    let (es, f) ← exprs f rest
    return (e :: es, f)

end

end ScriptSandbox.Regex
