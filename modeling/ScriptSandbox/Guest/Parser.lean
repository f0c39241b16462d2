import ScriptSandbox.Guest.Syntax
import ScriptSandbox.Guest.Token

/-!
# Reading guest scripts

`Program.parse` takes a script to its syntax, or to nothing where it is not well formed. A statement
that is not closed by a semicolon ends where a line or a block ends. A parser takes the tokens that
are left and returns those it leaves; its first argument bounds how deep it goes.
-/

namespace ScriptSandbox.Guest

abbrev Parser (α : Type) := StateT (List Lexeme) Option α

/-- What surrounds a piece of a script. -/
structure Place where
  inFunction : Bool := false
  inLoop : Bool := false
  isAsync : Bool := false
  inDerived : Bool := false
  strict : Bool := false

namespace Parser

/-! ## Tokens -/

def peek : Parser (Option Token) := return (← get).head?.map Lexeme.token

def next : Parser Token := do
  match ← get with
  | [] => failure
  | l :: rest =>
    set rest
    return l.token

/-- Whether a line ends before the next token. -/
def atNewline : Parser Bool := return ((← get).head?.map Lexeme.newline).getD true

def seesMark (s : String) : Parser Bool := return (← peek) == some (.mark s)

def seesWord (s : String) : Parser Bool := return (← peek) == some (.word s)

/-- Takes the next token if it is this one. -/
def skipIf (t : Token) : Parser Bool := do
  if (← peek) == some t then
    let _ ← next
    return true
  else return false

def skipMark (s : String) : Parser Bool := skipIf (.mark s)

def skipWord (s : String) : Parser Bool := skipIf (.word s)

def expectMark (s : String) : Parser Unit := do
  if !(← skipMark s) then failure

def expectWord (s : String) : Parser Unit := do
  if !(← skipWord s) then failure

/-- The end of a statement. -/
def endStatement : Parser Unit := do
  if ← skipMark ";" then return
  if (← peek).isNone || (← seesMark "\x7d") || (← atNewline) then return
  failure

/-! ## Names -/

def reserved : List String :=
  ["break", "case", "catch", "class", "const", "continue", "debugger", "default", "delete", "do",
    "else", "enum", "export", "extends", "false", "finally", "for", "function", "if", "import", "in",
    "instanceof", "new", "null", "return", "super", "switch", "this", "throw", "true", "try",
    "typeof", "var", "void", "while", "with"]

def strictlyReserved : List String :=
  ["implements", "interface", "let", "package", "private", "protected", "public", "static", "yield"]

/-- Whether a word can be a name. -/
def isName (p : Place) (s : String) : Bool :=
  !reserved.contains s && !(p.strict && strictlyReserved.contains s) && !(p.isAsync && s == "await")

/-- Whether a name can be declared or assigned to. -/
def isBindable (p : Place) (s : String) : Bool :=
  isName p s && !(p.strict && (s == "eval" || s == "arguments"))

def bindable (p : Place) : Parser String := do
  match ← next with
  | .word s => if isBindable p s then return s else failure
  | _ => failure

/-- Whether what stands at an assignment can be assigned to. -/
def isTarget (p : Place) : Expr → Bool
  | .name n => isBindable p n
  | .member _ _ | .index _ _ => true
  | _ => false

/-! ## Looking ahead -/

/-- The tokens behind the bracket that closes the open ones. -/
def behindBrackets : Nat → List Lexeme → Option (List Lexeme)
  | _, [] => none
  | depth, l :: rest =>
    match l.token with
    | .mark "(" | .mark "[" | .mark "\x7b" => behindBrackets (depth + 1) rest
    | .mark ")" | .mark "]" | .mark "\x7d" =>
      if depth ≤ 1 then some rest else behindBrackets (depth - 1) rest
    | _ => behindBrackets depth rest

/-- Whether an arrow follows the brackets that open here. -/
def arrowFollows (ls : List Lexeme) : Bool :=
  match ls with
  | { token := .mark "(", .. } :: _ =>
    match behindBrackets 0 ls with
    | some ({ token := .mark "=>", newline := false } :: _) => true
    | _ => false
  | _ => false

/-- Whether a function with an arrow begins here, and whether it is asynchronous. -/
def arrowBegins (ls : List Lexeme) : Option Bool :=
  match ls with
  | { token := .word "async", .. } :: { token := .word _, newline := false } ::
      { token := .mark "=>", newline := false } :: _ => some true
  | { token := .word "async", .. } :: { token := .mark "(", newline := false } :: rest =>
    if arrowFollows ({ token := .mark "(" } :: rest) then some true else none
  | { token := .word _, .. } :: { token := .mark "=>", newline := false } :: _ => some false
  | ls => if arrowFollows ls then some false else none

def asyncFunctionBegins (ls : List Lexeme) : Bool :=
  match ls with
  | { token := .word "async", .. } :: { token := .word "function", newline := false } :: _ => true
  | _ => false

def declarationBegins (ls : List Lexeme) : Option DeclKind :=
  match ls with
  | { token := .word "var", .. } :: _ => some .var
  | { token := .word "const", .. } :: _ => some .const
  | { token := .word "let", .. } :: { token := .word s, .. } :: _ =>
    if reserved.contains s then none else some .let
  | _ => none

/-! ## Operators -/

def assignOps : List (String × BinaryOp) :=
  [("+=", .add), ("-=", .sub), ("*=", .mul), ("/=", .div), ("%=", .rem), ("**=", .pow),
    ("<<=", .shiftLeft), (">>=", .shiftRight), (">>>=", .shiftRightZero), ("&=", .bitAnd),
    ("|=", .bitOr), ("^=", .bitXor)]

inductive Infix
  | binary (op : BinaryOp)
  | logical (op : LogicalOp)

/-- The operators between two operands, with how tightly they bind. -/
def infixes : List (Token × Nat × Infix) :=
  [(.mark "??", 1, .logical .coalesce), (.mark "||", 2, .logical .or), (.mark "&&", 3, .logical .and),
    (.mark "|", 4, .binary .bitOr), (.mark "^", 5, .binary .bitXor), (.mark "&", 6, .binary .bitAnd),
    (.mark "==", 7, .binary .looseEq), (.mark "!=", 7, .binary .looseNe),
    (.mark "===", 7, .binary .strictEq), (.mark "!==", 7, .binary .strictNe),
    (.mark "<", 8, .binary .less), (.mark "<=", 8, .binary .lessEq),
    (.mark ">", 8, .binary .greater), (.mark ">=", 8, .binary .greaterEq),
    (.word "instanceof", 8, .binary .instanceOf), (.word "in", 8, .binary .inside),
    (.mark "<<", 9, .binary .shiftLeft), (.mark ">>", 9, .binary .shiftRight),
    (.mark ">>>", 9, .binary .shiftRightZero), (.mark "+", 10, .binary .add),
    (.mark "-", 10, .binary .sub), (.mark "*", 11, .binary .mul), (.mark "/", 11, .binary .div),
    (.mark "%", 11, .binary .rem), (.mark "**", 12, .binary .pow)]

def unaries : List (Token × UnaryOp) :=
  [(.mark "-", .minus), (.mark "+", .plus), (.mark "!", .not), (.mark "~", .complement),
    (.word "typeof", .typeOf), (.word "void", .void)]

def Infix.join (op : Infix) (a b : Expr) : Expr :=
  match op with
  | .binary op => .binary op a b
  | .logical op => .logical op a b

/-! ## Scopes -/

def distinct : List String → Bool
  | [] => true
  | n :: rest => !rest.contains n && distinct rest

/-- Whether no name that the statements of a block declare for it is declared twice. -/
def blockIsSound (outer : List String) (body : List Stmt) : Bool :=
  let names := (lexicalNamesOf body).map Prod.fst
  let functions := (functionsOf body).map Prod.fst
  let others := outer ++ varNamesOf body ++ functions
  distinct names && names.all (!others.contains ·)

def checkBlock (outer : List String) (body : List Stmt) : Parser Unit :=
  if blockIsSound outer body then pure () else failure

/-! ## Expressions and statements -/

/-- Whether the tokens begin with the directive for strict scripts. -/
def beginsStrict (ls : List Lexeme) : Bool :=
  match ls with
  | { token := .text u, .. } :: rest =>
    u == Units.ofString "use strict" &&
      (match rest with
        | [] => true
        | { token := .mark s, newline } :: _ => s == ";" || s == "\x7d" || newline
        | l :: _ => l.newline)
  | _ => false

/-- The parameters of a function, from behind their opening bracket. -/
def parameters (p : Place) : Nat → Parser (List String × Option String)
  | 0 => failure
  | n + 1 => do
    if ← skipMark ")" then return ([], none)
    if ← skipMark "..." then
      let rest ← bindable p
      expectMark ")"
      return ([], some rest)
    let name ← bindable p
    if ← skipMark "," then
      let (names, rest) ← parameters p n
      return (name :: names, rest)
    expectMark ")"
    return ([name], none)

mutual

def expression (p : Place) : Nat → Parser Expr
  | 0 => failure
  | n + 1 => do
    let a ← assignment p n
    if ← skipMark "," then return .sequence a (← expression p n)
    return a

def assignment (p : Place) : Nat → Parser Expr
  | 0 => failure
  | n + 1 => do
    match arrowBegins (← get) with
    | some isAsync =>
      if isAsync then expectWord "async"
      arrow p isAsync n
    | none =>
      let left ← conditional p n
      if ← skipMark "=" then
        if !isTarget p left then failure
        let right ← assignment p n
        match left with
        | .name name => return .assign left (right.withName name)
        | left => return .assign left right
      match ← peek with
      | some (.mark m) =>
        match assignOps.lookup m with
        | some op =>
          if !isTarget p left then failure
          let _ ← next
          return .assignWith op left (← assignment p n)
        | none => return left
      | _ => return left

def conditional (p : Place) : Nat → Parser Expr
  | 0 => failure
  | n + 1 => do
    let test ← operand p 0 n
    if ← skipMark "?" then
      let yes ← assignment p n
      expectMark ":"
      return .conditional test yes (← assignment p n)
    return test

/-- An operand with all that binds tighter than `level` behind it. -/
def operand (p : Place) (level : Nat) : Nat → Parser Expr
  | 0 => failure
  | n + 1 => do operators p level (← unary p n) n

def operators (p : Place) (level : Nat) (left : Expr) : Nat → Parser Expr
  | 0 => failure
  | n + 1 => do
    match (← peek).bind fun t => infixes.lookup t with
    | some (tightness, op) =>
      if tightness ≤ level then return left
      let _ ← next
      let right ← operand p (if tightness = 12 then 11 else tightness) n
      operators p level (op.join left right) n
    | none => return left

def unary (p : Place) : Nat → Parser Expr
  | 0 => failure
  | n + 1 => do
    let t ← peek
    match t.bind fun t => unaries.lookup t with
    | some op =>
      let _ ← next
      return .unary op (← unary p n)
    | none =>
      match t with
      | some (.word "delete") =>
        let _ ← next
        let e ← unary p n
        match e with
        | .name _ => if p.strict then failure else return .delete e
        | e => return .delete e
      | some (.word "await") =>
        if !p.isAsync then return ← postfixed p n
        let _ ← next
        return .await (← unary p n)
      | some (.mark "++") | some (.mark "--") =>
        let _ ← next
        let e ← unary p n
        if !isTarget p e then failure
        return .update (t == some (.mark "++")) true e
      | _ => postfixed p n

def postfixed (p : Place) : Nat → Parser Expr
  | 0 => failure
  | n + 1 => do
    let e ← suffixes p true (← primary p n) n
    if ← atNewline then return e
    let up ← seesMark "++"
    if up || (← seesMark "--") then
      if !isTarget p e then failure
      let _ ← next
      return .update up false e
    return e

/-- The members, and where `calls` says so the calls, behind an expression. -/
def suffixes (p : Place) (calls : Bool) (e : Expr) : Nat → Parser Expr
  | 0 => failure
  | n + 1 => do
    if ← skipMark "." then
      match ← next with
      | .word s => suffixes p calls (.member e (Units.ofString s)) n
      | _ => failure
    else if ← skipMark "[" then
      let key ← expression p n
      expectMark "]"
      suffixes p calls (.index e key) n
    else if calls && (← seesMark "(") then
      let _ ← next
      suffixes p calls (.call e (← arguments p n)) n
    else return e

/-- Arguments, from behind their opening bracket. -/
def arguments (p : Place) : Nat → Parser (List Item)
  | 0 => failure
  | n + 1 => do
    if ← skipMark ")" then return []
    let spread ← skipMark "..."
    let e ← assignment p n
    let item := if spread then Item.spread e else .one e
    if ← skipMark "," then return item :: (← arguments p n)
    expectMark ")"
    return [item]

/-- The elements of an array, from behind their opening bracket. -/
def elements (p : Place) : Nat → Parser (List Item)
  | 0 => failure
  | n + 1 => do
    if ← skipMark "]" then return []
    if ← skipMark "," then return .hole :: (← elements p n)
    let spread ← skipMark "..."
    let e ← assignment p n
    let item := if spread then Item.spread e else .one e
    if ← skipMark "," then return item :: (← elements p n)
    expectMark "]"
    return [item]

/-- The members of an object, from behind their opening brace. -/
def members (p : Place) : Nat → Parser (List Member)
  | 0 => failure
  | n + 1 => do
    if ← skipMark "\x7d" then return []
    let m ← member p n
    if ← skipMark "," then return m :: (← members p n)
    expectMark "\x7d"
    return [m]

def member (p : Place) : Nat → Parser Member
  | 0 => failure
  | n + 1 => do
    let valueOf (name : Units) : Parser Member := do
      if ← skipMark "(" then
        return .named name (.func (← function p (some name.text) .method false n))
      expectMark ":"
      return .named name ((← assignment p n).withName name.text)
    match ← next with
    | .mark "[" =>
      let key ← assignment p n
      expectMark "]"
      if ← skipMark "(" then return .keyed key (.func (← function p none .method false n))
      expectMark ":"
      return .keyed key (← assignment p n)
    | .text u => valueOf u
    | .number x => valueOf (numberText x)
    | .word s =>
      let bare := (← seesMark ",") || (← seesMark "\x7d")
      if bare then
        if isName p s then return .named (Units.ofString s) (.name s) else failure
      match s, ← peek with
      | "async", some (.word m) =>
        let _ ← next
        expectMark "("
        return .named (Units.ofString m) (.func (← function p (some m) .method true n))
      | s, _ => valueOf (Units.ofString s)
    | _ => failure

def primary (p : Place) : Nat → Parser Expr
  | 0 => failure
  | n + 1 => do
    if asyncFunctionBegins (← get) then
      expectWord "async"
      expectWord "function"
      return .func (← namedFunction p .recursive true n)
    match ← next with
    | .number x => return .literal (.number x)
    | .bigint k => return .literal (.bigint k)
    | .text u => return .literal (.text u)
    | .regex pattern flags => return .literal (.regex pattern flags)
    | .template u true true => return .template u []
    | .template u true false => return .template u (← templateParts p n)
    | .template _ false _ => failure
    | .mark "(" =>
      let e ← expression p n
      expectMark ")"
      return e
    | .mark "[" => return .array (← elements p n)
    | .mark "\x7b" => return .object (← members p n)
    | .mark _ => failure
    | .word "this" => return .self
    | .word "null" => return .literal .null
    | .word "true" => return .literal (.bool true)
    | .word "false" => return .literal (.bool false)
    | .word "function" => return .func (← namedFunction p .recursive false n)
    | .word "class" => return (← classOf p n).2
    | .word "new" => construction p n
    | .word "super" =>
      if !p.inDerived then failure
      expectMark "("
      return .superCall (← arguments p n)
    | .word s => if isName p s then return .name s else failure

/-- The expressions of a text between backticks, each with the text behind it. -/
def templateParts (p : Place) : Nat → Parser (List (Expr × Units))
  | 0 => failure
  | n + 1 => do
    let e ← expression p n
    match ← next with
    | .template u false true => return [(e, u)]
    | .template u false false => return (e, u) :: (← templateParts p n)
    | _ => failure

/-- What follows the word `new`. -/
def construction (p : Place) : Nat → Parser Expr
  | 0 => failure
  | n + 1 => do
    let callee ←
      if ← skipWord "new" then construction p n
      else do suffixes p false (← primary p n) n
    let args ← if ← skipMark "(" then arguments p n else pure []
    return .construct callee args

/-- What follows the word `function`, where a name may be missing. -/
def namedFunction (p : Place) (kind : FuncKind) (isAsync : Bool) : Nat → Parser Func
  | 0 => failure
  | n + 1 => do
    if ← skipMark "(" then return ← function p none .normal isAsync n
    let name ← bindable p
    expectMark "("
    function p (some name) kind isAsync n

/-- The parameters of a function, from behind their opening bracket, and its body. -/
def function (p : Place) (name : Option String) (kind : FuncKind) (isAsync : Bool) :
    Nat → Parser Func
  | 0 => failure
  | n + 1 => do
    let (names, rest) ← parameters { p with isAsync } n
    expectMark "\x7b"
    let strict := p.strict || kind == .baseClass || kind == .derivedClass || beginsStrict (← get)
    let place : Place :=
      { inFunction := true, isAsync, strict, inDerived := kind == .derivedClass }
    let body ← statements place n
    checkBlock (names ++ rest.toList) body
    return .mk name kind isAsync strict names rest body

/-- A function with an arrow. -/
def arrow (p : Place) (isAsync : Bool) : Nat → Parser Expr
  | 0 => failure
  | n + 1 => do
    let (names, rest) ←
      if ← skipMark "(" then parameters { p with isAsync } n
      else do pure ([← bindable { p with isAsync }], none)
    expectMark "=>"
    if ← skipMark "\x7b" then
      let strict := p.strict || beginsStrict (← get)
      let place : Place := { inFunction := true, isAsync, strict, inDerived := p.inDerived }
      let body ← statements place n
      checkBlock (names ++ rest.toList) body
      return .func (.mk none .arrow isAsync strict names rest body)
    let e ← assignment { p with isAsync, inLoop := false } n
    return .func (.mk none .arrow isAsync p.strict names rest [.return (some e)])

/-- What follows the word `class`: the name, if there is one, and the class. -/
def classOf (p : Place) : Nat → Parser (Option String × Expr)
  | 0 => failure
  | n + 1 => do
    let p := { p with strict := true }
    let unnamed := (← seesMark "\x7b") || (← seesWord "extends")
    let name ← if unnamed then pure none else (some <$> bindable p)
    let parent ←
      if ← skipWord "extends" then do
        pure (some (← suffixes p true (← primary p n) n))
      else pure none
    expectMark "\x7b"
    let kind : FuncKind := if parent.isSome then .derivedClass else .baseClass
    let methods ← classMembers p kind n
    let isConstructor (m : Units × Func) : Bool := m.1 == Units.ofString "constructor"
    let (constructors, others) := methods.partition isConstructor
    match constructors with
    | [] => return (name, .klass name parent none others)
    | [(_, f)] => return (name, .klass name parent (some f) others)
    | _ => failure

def classMembers (p : Place) (kind : FuncKind) : Nat → Parser (List (Units × Func))
  | 0 => failure
  | n + 1 => do
    if ← skipMark "\x7d" then return []
    if ← skipMark ";" then return ← classMembers p kind n
    let first ← next
    let isAsync := first == .word "async" && !(← seesMark "(")
    let key ← if isAsync then next else pure first
    let name ← match key with
      | .word s => pure (Units.ofString s)
      | .text u => pure u
      | _ => failure
    expectMark "("
    let kind' := if name == Units.ofString "constructor" then kind else .method
    let f ← function p (some name.text) kind' isAsync n
    return (name, f) :: (← classMembers p kind n)

/-- Statements up to the brace that closes them. -/
def statements (p : Place) : Nat → Parser (List Stmt)
  | 0 => failure
  | n + 1 => do
    if ← skipMark "\x7d" then return []
    let s ← statement p n
    return s :: (← statements p n)

def block (p : Place) (outer : List String) : Nat → Parser (List Stmt)
  | 0 => failure
  | n + 1 => do
    expectMark "\x7b"
    let body ← statements p n
    checkBlock outer body
    return body

def declarators (p : Place) (kind : DeclKind) : Nat → Parser (List (String × Option Expr))
  | 0 => failure
  | n + 1 => do
    let name ← bindable p
    if kind != .var && name == "let" then failure
    let value ← if ← skipMark "=" then some <$> assignment p n else pure none
    if kind == .const && value.isNone then failure
    let item := (name, value.map (·.withName name))
    if ← skipMark "," then return item :: (← declarators p kind n)
    return [item]

/-- A statement that is not a declaration. -/
def innerStatement (p : Place) : Nat → Parser Stmt
  | 0 => failure
  | n + 1 => do
    let s ← statement p n
    match s with
    | .declare .let _ | .declare .const _ | .klass _ _ => failure
    | s => return s

def statement (p : Place) : Nat → Parser Stmt
  | 0 => failure
  | n + 1 => do
    match declarationBegins (← get) with
    | some kind =>
      let _ ← next
      let items ← declarators p kind n
      endStatement
      return .declare kind items
    | none =>
      if asyncFunctionBegins (← get) then
        expectWord "async"
        expectWord "function"
        let f ← namedFunction p .normal true n
        if f.name.isNone then failure
        return .func f
      match ← peek with
      | some (.mark "\x7b") => return .block (← block p [] n)
      | some (.mark ";") =>
        let _ ← next
        return .empty
      | some (.word "function") =>
        let _ ← next
        let f ← namedFunction p .normal false n
        if f.name.isNone then failure
        return .func f
      | some (.word "class") =>
        let _ ← next
        match ← classOf p n with
        | (some name, e) => return .klass name e
        | (none, _) => failure
      | some (.word "if") =>
        let _ ← next
        expectMark "("
        let test ← expression p n
        expectMark ")"
        let yes ← innerStatement p n
        let no ← if ← skipWord "else" then some <$> innerStatement p n else pure none
        return .branch test yes no
      | some (.word "while") =>
        let _ ← next
        expectMark "("
        let test ← expression p n
        expectMark ")"
        return .loop none (some test) none (← innerStatement { p with inLoop := true } n)
      | some (.word "for") =>
        let _ ← next
        expectMark "("
        let init ←
          match declarationBegins (← get) with
          | some kind => do
            let _ ← next
            pure (some (Stmt.declare kind (← declarators p kind n)))
          | none => do
            if ← seesMark ";" then pure none else pure (some (Stmt.expr (← expression p n)))
        expectMark ";"
        let test ← if ← seesMark ";" then pure none else some <$> expression p n
        expectMark ";"
        let update ← if ← seesMark ")" then pure none else some <$> expression p n
        expectMark ")"
        return .loop init test update (← innerStatement { p with inLoop := true } n)
      | some (.word "break") =>
        let _ ← next
        if !p.inLoop then failure
        endStatement
        return .break
      | some (.word "continue") =>
        let _ ← next
        if !p.inLoop then failure
        endStatement
        return .continue
      | some (.word "return") =>
        let _ ← next
        if !p.inFunction then failure
        let bare := (← atNewline) || (← seesMark ";") || (← seesMark "\x7d")
        let e ← if bare then pure none else some <$> expression p n
        endStatement
        return .return e
      | some (.word "throw") =>
        let _ ← next
        if ← atNewline then failure
        let e ← expression p n
        endStatement
        return .throw e
      | some (.word "try") =>
        let _ ← next
        let body ← block p [] n
        let handler ←
          if ← skipWord "catch" then do
            let name ←
              if ← skipMark "(" then do
                let name ← bindable p
                expectMark ")"
                pure (some name)
              else pure none
            let handler ← block p [] n
            if (lexicalNamesOf handler).any fun d => some d.1 == name then failure
            pure (some (name, handler))
          else pure none
        let finalizer ← if ← skipWord "finally" then some <$> block p [] n else pure none
        if handler.isNone && finalizer.isNone then failure
        return .attempt body handler finalizer
      | some _ =>
        let e ← expression p n
        endStatement
        return .expr e
      | none => failure

end

/-- The statements of a whole script. -/
def script (p : Place) (depth : Nat) : Nat → Parser (List Stmt)
  | 0 => failure
  | n + 1 => do
    if (← peek).isNone then return []
    let s ← statement p depth
    return s :: (← script p depth n)

end Parser

/-- The syntax of a script. A script that a strict one evaluates is strict too. -/
def Program.parse (source : String) (strict : Bool) : Option Program := do
  let lexemes ← Lexeme.scan source
  let strict := strict || Parser.beginsStrict lexemes
  let (body, _) ← (Parser.script { strict } (20 * lexemes.length + 20) (lexemes.length + 1)).run
    lexemes
  if Parser.blockIsSound [] body then some { body, strict } else none

end ScriptSandbox.Guest
