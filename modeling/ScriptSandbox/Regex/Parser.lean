import ScriptSandbox.Regex.Syntax
import ScriptSandbox.Text.Blank
import ScriptSandbox.Text.Category
import ScriptSandbox.Text.Ranges

/-!
# Reading regular expressions

`Regex.parse` reads a whole pattern. The reader stands at a character of the pattern; in loose
mode it passes over blanks and comments. Groups and brackets that are open lie on stacks.
-/

namespace ScriptSandbox.Regex

/-- Where the reader stands. -/
structure Cursor where
  pattern : Array Char
  pos : Nat := 0
  loose : Bool := false
  /-- The names of groups so far, with their spans. -/
  names : List (String × Span) := []

abbrev Parse := StateT Cursor (Except Fault)

namespace Parse

def fault (kind : FaultKind) (span : Span) (second : Option Span := none) : Parse α :=
  throw { kind, span, second }

def pos : Parse Nat := do return (← get).pos

def char? : Parse (Option Char) := do
  let s ← get
  return s.pattern[s.pos]?

/-- The character to be read, a NUL at the end. -/
def char : Parse Char := do return (← char?).getD (Char.ofNat 0)

def atEnd : Parse Bool := do return (← char?).isNone

/-- Steps over a character; whether there is one after it. -/
def bump : Parse Bool := do
  let s ← get
  if s.pos < s.pattern.size then
    set { s with pos := s.pos + 1 }
    return s.pos + 1 < s.pattern.size
  else return false

/-- Where blanks and comments from a place end. -/
def looseEnd (pattern : Array Char) (comment : Bool) : Nat → Nat → Nat
  | 0, p => p
  | n + 1, p =>
    match pattern[p]? with
    | none => p
    | some c =>
      if comment then looseEnd pattern (c ≠ '\n') n (p + 1)
      else if Text.isBlank c then looseEnd pattern false n (p + 1)
      else if c = '#' then looseEnd pattern true n (p + 1)
      else p

def bumpSpace : Parse Unit := modify fun s =>
  if s.loose then { s with pos := looseEnd s.pattern false (s.pattern.size + 1) s.pos } else s

def bumpAndSpace : Parse Bool := do
  if !(← bump) then return false
  bumpSpace
  return !(← atEnd)

/-- Steps over a text if it stands here. -/
def bumpIf (text : String) : Parse Bool := do
  let s ← get
  let cs := text.toList
  if (s.pattern.extract s.pos (s.pos + cs.length)).toList = cs then
    set { s with pos := s.pos + cs.length }
    return true
  else return false

def peek : Parse (Option Char) := do
  let s ← get
  return s.pattern[s.pos + 1]?

/-- The character after this one and the blanks behind it. -/
def peekSpace : Parse (Option Char) := do
  let s ← get
  if s.loose then return s.pattern[looseEnd s.pattern false (s.pattern.size + 1) (s.pos + 1)]?
  else return s.pattern[s.pos + 1]?

def here : Parse Span := do return ⟨← pos, ← pos⟩

def charSpan : Parse Span := do return ⟨← pos, (← pos) + 1⟩

def size : Parse Nat := do return (← get).pattern.size

/-- Repeats a step until it has a result; the pattern's length bounds the number of steps. -/
def untilSome (step : α → Parse (Except α β)) (default : β) : Nat → α → Parse β
  | 0, _ => return default
  | n + 1, a => do
    match ← step a with
    | .ok b => return b
    | .error a => untilSome step default n a

/-- Steps while a condition holds, and the characters stepped over. -/
def collect (p : Char → Bool) (step : Parse Bool) : Parse (List Char) := do
  let found ← untilSome (fun (acc : List Char) => do
    match ← char? with
    | some c =>
      if p c then
        let _ ← step
        return .error (c :: acc)
      else return .ok acc
    | none => return .ok acc) [] ((← size) + 2) []
  return found.reverse

end Parse

open Parse

def isMeta (c : Char) : Bool :=
  ['\\', '.', '+', '*', '?', '(', ')', '|', '[', ']', '\x7b', '\x7d', '^', '$', '#', '&', '-',
    '~'].contains c

def isEscapable (c : Char) : Bool :=
  isMeta c || (c.toNat < 128 && !c.isAlphanum && c ≠ '<' && c ≠ '>')

/-- One step of the pattern that may stand inside or outside brackets. -/
inductive Primitive
  | literal (l : Literal)
  | look (kind : Look) (span : Span)
  | dot (span : Span)
  | perl (kind : Perl) (negated : Bool) (span : Span)
  | property (p : Property) (negated : Bool) (span : Span)

def Primitive.span : Primitive → Span
  | .literal l => l.span
  | .look _ s | .dot s | .perl _ _ s | .property _ _ s => s

def Primitive.node : Primitive → Node
  | .literal l => .literal l
  | .look k _ => .look k
  | .dot s => .dot s
  | .perl k n s => .perl k n s
  | .property p n s => .property p n s

/-! ## Escapes -/

def hexNumber (cs : List Char) : Nat := (Text.takeHex cs 0).1

def isScalar (n : Nat) : Bool := n < 0xD800 || (0xE000 ≤ n && n < 0x110000)

def parseHexDigits (count start : Nat) (kind : Char) : Parse Literal := do
  let from_ ← pos
  let digit (acc : List Char) (i : Nat) : Parse (List Char) := do
    if i > 0 then
      if !(← bumpAndSpace) then fault .escapeEnd (← here)
    let c ← char
    if (Text.hexDigit? c).isNone then fault .hexDigit (← charSpan)
    return c :: acc
  let digits ← (List.range count).foldlM digit []
  let _ ← bumpAndSpace
  let span : Span := ⟨from_, ← pos⟩
  let n := hexNumber digits.reverse
  if isScalar n then
    return { char := Char.ofNat n, byte := kind = 'x', span := ⟨start, span.last⟩ }
  else fault .hexInvalid span

def parseHexBrace (start : Nat) : Parse Literal := do
  let brace ← pos
  let digits ← untilSome (fun (acc : List Char) => do
    let more ← bumpAndSpace
    if more ∧ (← char) ≠ '\x7d' then
      let c ← char
      if (Text.hexDigit? c).isNone then fault .hexDigit (← charSpan)
      return .error (c :: acc)
    else return .ok acc.reverse) [] ((← size) + 2) []
  if ← atEnd then fault .escapeEnd ⟨brace, ← pos⟩
  let last ← pos
  let _ ← bumpAndSpace
  if digits.isEmpty then fault .hexEmpty ⟨brace, ← pos⟩
  let n := hexNumber digits
  if isScalar n then return { char := Char.ofNat n, byte := false, span := ⟨start, ← pos⟩ }
  else fault .hexInvalid ⟨brace + 1, last⟩

def parseHex (start : Nat) : Parse Literal := do
  let kind ← char
  if !(← bumpAndSpace) then fault .escapeEnd (← here)
  if (← char) = '\x7b' then parseHexBrace start
  else parseHexDigits (if kind = 'x' then 2 else if kind = 'u' then 4 else 8) start kind

/-- Splits a text at the first place where another stands. -/
def splitAtText (cs sep : List Char) : Option (List Char × List Char) :=
  match cs with
  | [] => none
  | c :: r =>
    if sep.isPrefixOf (c :: r) then some ([], (c :: r).drop sep.length)
    else (splitAtText r sep).map fun (a, b) => (c :: a, b)

def Property.ofText (cs : List Char) : Property :=
  let valued (sep : List Char) (negated : Bool) : Option Property :=
    (splitAtText cs sep).map fun (a, b) => .valued (String.ofList a) (String.ofList b) negated
  ((valued ['!', '='] true).or ((valued [':'] false).or (valued ['='] false))).getD
    (.named (String.ofList cs))

def parseProperty (start : Nat) : Parse Primitive := do
  let negated := (← char) == 'P'
  if !(← bumpAndSpace) then fault .escapeEnd (← here)
  if (← char) = '\x7b' then
    let name ← untilSome (fun (acc : List Char) => do
      let more ← bumpAndSpace
      if more ∧ (← char) ≠ '\x7d' then return .error ((← char) :: acc)
      else return .ok acc.reverse) [] ((← size) + 2) []
    if ← atEnd then fault .escapeEnd (← here)
    let _ ← bump
    return .property (.ofText name) negated ⟨start, ← pos⟩
  else
    let c ← char
    if c = '\\' then fault .propertyInvalid (← charSpan)
    let _ ← bumpAndSpace
    return .property (.named (String.singleton c)) negated ⟨start, ← pos⟩

/-- The boundary named between braces behind an escaped `b`, if one is. -/
def parseBoundary (start : Nat) : Parse (Option Look) := do
  let isName (c : Char) : Bool := c.isAlpha || c == '-'
  let brace ← pos
  if !(← bumpAndSpace) then fault .boundaryEnd ⟨start, ← pos⟩
  let from_ ← pos
  if !isName (← char) then
    modify fun s => { s with pos := brace }
    return none
  let name ← collect isName bumpAndSpace
  if (← atEnd) ∨ (← char) ≠ '\x7d' then fault .boundaryOpen ⟨brace, ← pos⟩
  let last ← pos
  let _ ← bump
  match String.ofList name with
  | "start" => return some .wordStart
  | "end" => return some .wordEnd
  | "start-half" => return some .wordStartHalf
  | "end-half" => return some .wordEndHalf
  | _ => fault .boundaryUnknown ⟨from_, last⟩

def parseEscape : Parse Primitive := do
  let start ← pos
  if !(← bump) then fault .escapeEnd ⟨start, ← pos⟩
  let c ← char
  if c.isDigit then fault .backreference ⟨start, (← pos) + 1⟩
  if c = 'x' ∨ c = 'u' ∨ c = 'U' then return .literal (← parseHex start)
  if c = 'p' ∨ c = 'P' then return ← parseProperty start
  let _ ← bump
  let span : Span := ⟨start, ← pos⟩
  let special (n : Nat) : Parse Primitive :=
    return .literal { char := Char.ofNat n, byte := false, span }
  if isEscapable c then return ← special c.toNat
  match c with
  | 'd' => return .perl .digit false span
  | 's' => return .perl .space false span
  | 'w' => return .perl .word false span
  | 'D' => return .perl .digit true span
  | 'S' => return .perl .space true span
  | 'W' => return .perl .word true span
  | 'a' => special 7
  | 'f' => special 12
  | 't' => special 9
  | 'n' => special 10
  | 'r' => special 13
  | 'v' => special 11
  | 'A' => return .look .textStart span
  | 'z' => return .look .textEnd span
  | 'b' =>
    if (← char?) = some '\x7b' then
      match ← parseBoundary start with
      | some kind => return .look kind ⟨start, ← pos⟩
      | none => return .look .boundary span
    else return .look .boundary span
  | 'B' => return .look .noBoundary span
  | '<' => return .look .wordStart span
  | '>' => return .look .wordEnd span
  | _ => fault .escapeUnknown span

def parsePrimitive : Parse Primitive := do
  let span ← charSpan
  match ← char with
  | '\\' => parseEscape
  | '.' =>
    let _ ← bump
    return .dot span
  | '^' =>
    let _ ← bump
    return .look .lineStart span
  | '$' =>
    let _ ← bump
    return .look .lineEnd span
  | c =>
    let _ ← bump
    return .literal { char := c, byte := false, span }

/-! ## Brackets -/

/-- A bracket being read: what was read outside it, and its beginning. -/
inductive OpenSet
  | bracket (outer : List SetNode) (negated : Bool) (span : Span)
  | op (kind : SetOp) (left : SetNode)

def SetNode.ofItems (reversed : List SetNode) : SetNode :=
  match reversed with
  | [x] => x
  | xs => .union xs.reverse

def setOpen (stack : List OpenSet) : Parse α := do
  let found := stack.findSome? fun s =>
    match s with
    | .bracket _ _ span => some span
    | .op _ _ => none
  fault .classOpen (found.getD ⟨0, 0⟩)

/-- Ends the operand behind an operator. -/
def closeOp (right : SetNode) : List OpenSet → SetNode × List OpenSet
  | .op kind left :: rest => (.op kind left right, rest)
  | stack => (right, stack)

def asciiNames : List String :=
  ["alnum", "alpha", "ascii", "blank", "cntrl", "digit", "graph", "lower", "print", "punct", "space",
    "upper", "word", "xdigit"]

/-- A named class such as `[:alpha:]`, if one stands here. -/
def parseAscii : Parse (Option SetNode) := do
  let saved ← get
  let back : Parse (Option SetNode) := do
    set saved
    return none
  if !(← bump) ∨ (← char) ≠ ':' then return ← back
  if !(← bump) then return ← back
  let negated := (← char) == '^'
  if negated then
    if !(← bump) then return ← back
  let name ← collect (· ≠ ':') bump
  if ← atEnd then return ← back
  if !(← bumpIf ":]") then return ← back
  let name := String.ofList name
  if asciiNames.contains name then return some (.ascii name negated) else back

/-- The opening of a bracket, with the literals that may stand first. -/
def parseSetOpen : Parse (Bool × Span × List SetNode) := do
  let start ← pos
  let unclosed : Parse Unit := do fault .classOpen ⟨start, ← pos⟩
  if !(← bumpAndSpace) then unclosed
  let negated := (← char) == '^'
  if negated then
    if !(← bumpAndSpace) then unclosed
  let dashes ← untilSome (fun (acc : List SetNode) => do
    if (← char) = '-' then
      let l : Literal := { char := '-', byte := false, span := ← charSpan }
      if !(← bumpAndSpace) then fault .classOpen ⟨start, start⟩
      return .error (.literal l :: acc)
    else return .ok acc) [] ((← size) + 2) []
  let items ← if dashes.isEmpty ∧ (← char) = ']' then do
      let l : Literal := { char := ']', byte := false, span := ← charSpan }
      if !(← bumpAndSpace) then unclosed
      pure [SetNode.literal l]
    else pure dashes
  return (negated, ⟨start, ← pos⟩, items)

def parseSetItem : Parse Primitive := do
  if (← char) = '\\' then parseEscape
  else
    let l : Literal := { char := ← char, byte := false, span := ← charSpan }
    let _ ← bump
    return .literal l

def Primitive.setItem : Primitive → Parse SetNode
  | .literal l => return .literal l
  | .perl k n s => return .perl k n s
  | .property p n s => return .property p n s
  | other => fault .classEscape other.span

def Primitive.setLiteral : Primitive → Parse Literal
  | .literal l => return l
  | other => fault .classRangeLiteral other.span

/-- An item or a range. -/
def parseSetRange (stack : List OpenSet) : Parse SetNode := do
  let first ← parseSetItem
  bumpSpace
  if ← atEnd then setOpen stack
  if (← char) ≠ '-' ∨ (← peekSpace) = some ']' ∨ (← peekSpace) = some '-' then first.setItem
  else
    if !(← bumpAndSpace) then setOpen stack
    let last ← parseSetItem
    let a ← first.setLiteral
    let b ← last.setLiteral
    if b.char < a.char then fault .classRange ⟨first.span.first, last.span.last⟩
    return .range a b

/-- A whole bracket. -/
def parseSet : Parse Node := do
  let begin_ : List OpenSet × List SetNode := ([], [])
  untilSome (fun (stack, items) => do
    bumpSpace
    if ← atEnd then setOpen stack
    let operator (text : String) (kind : SetOp) :
        Parse (Except (List OpenSet × List SetNode) Node) := do
      let _ ← bumpIf text
      let (left, stack) := closeOp (.ofItems items) stack
      return .error (.op kind left :: stack, [])
    match ← char with
    | '[' =>
      let ascii ← if stack.isEmpty then pure none else parseAscii
      match ascii with
      | some item => return .error (stack, item :: items)
      | none =>
        let (negated, span, first) ← parseSetOpen
        return .error (.bracket items negated span :: stack, first)
    | ']' =>
      let (body, stack) := closeOp (.ofItems items) stack
      let _ ← bump
      match stack with
      | .bracket outer negated span :: rest =>
        let span : Span := ⟨span.first, ← pos⟩
        if rest.isEmpty then return .ok (.bracket body negated span)
        else return .error (rest, .bracket body negated span :: outer)
      | _ => return .ok .empty
    | c =>
      if c = '&' ∧ (← peek) = some '&' then operator "&&" .intersection
      else if c = '-' ∧ (← peek) = some '-' then operator "--" .difference
      else if c = '~' ∧ (← peek) = some '~' then operator "~~" .symmetricDifference
      else return .error (stack, (← parseSetRange stack) :: items)) .empty ((← size) + 2) begin_

/-! ## Groups and repetitions -/

/-- A group being read: what was read outside it, and whether the pattern was loose there. -/
inductive OpenGroup
  | group (outer : List Node) (flags : List (Flag × Bool)) (span : Span) (loose : Bool)
  | alternatives (done : List Node)

def Node.ofItems (reversed : List Node) : Node :=
  match reversed with
  | [] => .empty
  | [x] => x
  | xs => .concat xs.reverse

/-- The flags before a colon or a closing parenthesis. -/
def parseFlags : Parse (List (Flag × Bool)) := do
  let begin_ : List (Option Flag × Span) := []
  let items ← untilSome (fun (items : List (Option Flag × Span)) => do
    let c ← char
    if c = ':' ∨ c = ')' then return .ok items
    let span ← charSpan
    let item ← if c = '-' then pure none
      else match Flag.ofChar? c with
        | some f => pure (some f)
        | none => fault .flagUnknown span
    match items.find? fun i => i.1 = item with
    | some old => fault (if item.isNone then .negationTwice else .flagTwice) span old.2
    | none => pure ()
    if !(← bump) then fault .flagEnd (← here)
    return .error ((item, span) :: items)) [] ((← size) + 2) begin_
  match items with
  | (none, span) :: _ => fault .flagDangling span
  | _ => pure ()
  let ordered := items.reverse.map (·.1)
  let on := ordered.takeWhile Option.isSome
  let off := ordered.drop on.length
  return on.filterMap (·.map (·, true)) ++ off.filterMap (·.map (·, false))

def isNameChar (first : Bool) (c : Char) : Bool :=
  if first then c == '_' || Text.isAlphabetic c
  else
    c == '_' || c == '.' || c == '[' || c == ']' || Text.isAlphabetic c ||
      Text.Category.inOneOf ["Nd", "Nl", "No"] c

def parseName : Parse Unit := do
  if ← atEnd then fault .nameEnd (← here)
  let start ← pos
  let name ← untilSome (fun (acc : List Char) => do
    let c ← char
    if c = '>' then return .ok acc.reverse
    if !isNameChar ((← pos) = start) c then fault .nameInvalid (← charSpan)
    if !(← bump) then return .ok (c :: acc).reverse
    return .error (c :: acc)) [] ((← size) + 2) []
  let last ← pos
  if ← atEnd then fault .nameEnd (← here)
  let _ ← bump
  if name.isEmpty then fault .nameEmpty ⟨start, start⟩
  let name := String.ofList name
  let span : Span := ⟨start, last⟩
  match (← get).names.lookup name with
  | some old => fault .nameTwice span old
  | none => modify fun s => { s with names := (name, span) :: s.names }

/-- What an opening parenthesis begins: a group with flags, or flags alone. -/
inductive GroupStart
  | group (flags : List (Flag × Bool))
  | flags (set : List (Flag × Bool))

def parseGroupStart (open_ : Span) : Parse GroupStart := do
  let _ ← bump
  bumpSpace
  if (← bumpIf "?=") ∨ (← bumpIf "?!") ∨ (← bumpIf "?<=") ∨ (← bumpIf "?<!") then
    fault .lookAround ⟨open_.first, ← pos⟩
  let inner ← here
  if ← bumpIf "?P<" then
    parseName
    return .group []
  if ← bumpIf "?<" then
    parseName
    return .group []
  if ← bumpIf "?" then
    if ← atEnd then fault .groupOpen open_
    let flags ← parseFlags
    let c ← char
    let _ ← bump
    if c = ')' then
      if flags.isEmpty then fault .nothingToRepeat inner
      return .flags flags
    else return .group flags
  return .group []

def looseIn (flags : List (Flag × Bool)) : Option Bool := flags.lookup .loose

/-- A number between blanks. -/
def parseDecimal : Parse Nat := do
  let _ ← collect Text.isBlank bump
  let start ← pos
  let digits ← collect Char.isDigit bumpAndSpace
  let span : Span := ⟨start, ← pos⟩
  let _ ← collect Text.isBlank bumpAndSpace
  if digits.isEmpty then fault .countEmpty span
  let n : Nat := digits.foldl (fun n c => 10 * n + (c.toNat - 48)) 0
  if 0x100000000 ≤ n then fault .decimalInvalid span
  return n

/-- Takes the item that a repetition is about off those read. -/
def repeated (items : List Node) : Parse (Node × List Node) := do
  match items with
  | .empty :: _ | .flags _ :: _ | [] => fault .nothingToRepeat (← here)
  | item :: rest => return (item, rest)

def parseRepetition (low : Nat) (high : Option Nat) (items : List Node) : Parse (List Node) := do
  let (item, rest) ← repeated items
  let lazy ← if ← bump then pure ((← char) == '?') else pure false
  if lazy then
    let _ ← bump
  return .repeat low high (!lazy) item :: rest

/-- Runs a reader without letting its fault out. -/
def attempt (p : Parse α) : Parse (Except Fault α) := fun s =>
  match p s with
  | .ok (a, s) => .ok (.ok a, s)
  | .error f => .ok (.error f, s)

/-- A number that may be missing; the reader stands behind the blanks either way. -/
def parseCount : Parse (Except Fault Nat) := do
  let saved ← get
  match ← attempt parseDecimal with
  | .ok n => return .ok n
  | .error f =>
    set saved
    let _ ← collect Text.isBlank bump
    let _ ← collect Char.isDigit bumpAndSpace
    let _ ← collect Text.isBlank bumpAndSpace
    return .error f

def ofCount : Except Fault Nat → Parse Nat
  | .ok n => return n
  | .error f => throw f

def parseCounted (items : List Node) : Parse (List Node) := do
  let start ← pos
  let (item, rest) ← repeated items
  let unclosed : Parse Unit := do fault .countOpen ⟨start, ← pos⟩
  if !(← bumpAndSpace) then unclosed
  let first ← parseCount
  if ← atEnd then unclosed
  let (low, high) ← if (← char) = ',' then do
      if !(← bumpAndSpace) then unclosed
      if (← char) ≠ '\x7d' then
        let low ← ofCount first
        let high ← parseDecimal
        pure (low, some high)
      else pure (← ofCount first, none)
    else do
      let n ← ofCount first
      pure (n, some n)
  if (← atEnd) ∨ (← char) ≠ '\x7d' then unclosed
  let lazy ← if ← bumpAndSpace then pure ((← char) == '?') else pure false
  if lazy then
    let _ ← bump
  match high with
  | some h => if h < low then fault .countRange ⟨start, ← pos⟩
  | none => pure ()
  return .repeat low high (!lazy) item :: rest

/-- What has been read of a pattern: the open groups, and the items of the innermost. -/
structure Progress where
  groups : List OpenGroup := []
  items : List Node := []

/-- Ends a group at its parenthesis. -/
def closeGroup (p : Progress) : Parse Progress := do
  let (body, groups) := match p.groups with
    | .alternatives done :: rest => (Node.alternate (Node.ofItems p.items :: done).reverse, rest)
    | groups => (Node.ofItems p.items, groups)
  match groups with
  | .group outer flags _ loose :: rest =>
    modify fun s => { s with loose }
    let _ ← bump
    return { groups := rest, items := .group flags body :: outer }
  | _ => fault .groupUnopened (← charSpan)

/-- The whole pattern, when no group is open. -/
def finish (p : Progress) : Parse Node := do
  match p.groups with
  | [] => return Node.ofItems p.items
  | [.alternatives done] => return .alternate (Node.ofItems p.items :: done).reverse
  | .group _ _ span _ :: _ => fault .groupOpen span
  | .alternatives _ :: .group _ _ span _ :: _ => fault .groupOpen span
  | .alternatives _ :: _ => return .empty

def parseStep (p : Progress) : Parse Progress := do
  match ← char with
  | '(' =>
    let open_ ← charSpan
    let loose := (← get).loose
    match ← parseGroupStart open_ with
    | .flags set =>
      match looseIn set with
      | some v => modify fun s => { s with loose := v }
      | none => pure ()
      return { p with items := .flags set :: p.items }
    | .group flags =>
      modify fun s => { s with loose := (looseIn flags).getD loose }
      return { groups := .group p.items flags open_ loose :: p.groups, items := [] }
  | ')' => closeGroup p
  | '|' =>
    let _ ← bump
    match p.groups with
    | .alternatives done :: rest =>
      return { groups := .alternatives (Node.ofItems p.items :: done) :: rest, items := [] }
    | groups => return { groups := .alternatives [Node.ofItems p.items] :: groups, items := [] }
  | '[' => return { p with items := (← parseSet) :: p.items }
  | '?' => return { p with items := ← parseRepetition 0 (some 1) p.items }
  | '*' => return { p with items := ← parseRepetition 0 none p.items }
  | '+' => return { p with items := ← parseRepetition 1 none p.items }
  | '\x7b' => return { p with items := ← parseCounted p.items }
  | _ => return { p with items := (← parsePrimitive).node :: p.items }

def parsePattern : Parse Node := do
  let progress ← untilSome (fun (p : Progress) => do
    if ← atEnd then return .ok p
    bumpSpace
    if ← atEnd then return .ok p
    return .error (← parseStep p)) {} ((← size) + 2) {}
  finish progress

mutual

/-- How deep groups, brackets, repetitions and lists of items nest. -/
def Node.depth : Node → Nat
  | .bracket inner _ _ => inner.depth + 1
  | .repeat _ _ _ inner => inner.depth + 1
  | .group _ inner => inner.depth + 1
  | .concat items => depthOf items + 1
  | .alternate items => depthOf items + 1
  | _ => 0

def depthOf : List Node → Nat
  | [] => 0
  | x :: rest => max x.depth (depthOf rest)

def SetNode.depth : SetNode → Nat
  | .bracket inner _ _ => inner.depth + 1
  | .union items => setDepthOf items + 1
  | .op _ a b => max a.depth b.depth + 1
  | _ => 0

def setDepthOf : List SetNode → Nat
  | [] => 0
  | x :: rest => max x.depth (setDepthOf rest)

end

def maxDepth : Nat := 250

def parse (pattern : String) : Except Fault Node := do
  let chars := pattern.toList.toArray
  let (node, _) ← parsePattern { pattern := chars }
  if maxDepth < node.depth then throw { kind := .nesting, span := ⟨0, chars.size⟩ }
  return node

end ScriptSandbox.Regex
