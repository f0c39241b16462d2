import ScriptSandbox.Guest.NumberText

/-!
# Tokens of guest scripts

`Lexeme.scan` cuts a script into tokens, each with whether a line ends before it. What stands
between backticks is cut into texts and, between them, the tokens of the expressions.
-/

namespace ScriptSandbox.Guest

inductive Token
  | word (s : String)
  | number (x : Double)
  | bigint (n : Int)
  | text (u : Units)
  /-- A text between backticks up to an expression, or up to the end. -/
  | template (u : Units) (isFirst isLast : Bool)
  | regex (pattern flags : Units)
  | mark (s : String)
deriving DecidableEq, Repr

structure Lexeme where
  token : Token
  newline : Bool := false
deriving Repr

namespace Token

def isLineEnd (c : Char) : Bool :=
  c == '\n' || c == '\r' || c == '\u2028' || c == '\u2029'

def startsWord (c : Char) : Bool :=
  c.isAlpha || c == '_' || c == '$' || (128 ≤ c.toNat && !Text.isBlank c && !isLineEnd c)

def inWord (c : Char) : Bool := startsWord c || c.isDigit

/-- The marks, those before others that begin them. -/
def marks : List String :=
  [">>>=", "...", "===", "!==", "**=", "<<=", ">>=", ">>>", "&&=", "||=", "??=", "=>", "==", "!=",
    "<=", ">=", "&&", "||", "??", "?.", "++", "--", "+=", "-=", "*=", "/=", "%=", "&=", "|=", "^=",
    "<<", ">>", "**", "\x7b", "\x7d", "(", ")", "[", "]", ";", ",", "<", ">", "+", "-", "*", "/",
    "%", "&", "|", "^", "!", "~", "?", ":", "=", "."]

/-- Words after which an expression begins. -/
def openingWords : List String :=
  ["return", "typeof", "case", "delete", "void", "in", "instanceof", "new", "throw", "else", "do",
    "await"]

/-- Whether a slash behind a token divides. -/
def endsValue : Option Token → Bool
  | some (.word s) => !openingWords.contains s
  | some (.mark s) => s == ")" || s == "]" || s == "\x7d" || s == "++" || s == "--"
  | some (.template _ _ isLast) => isLast
  | some _ => true
  | none => false

/-! ## Blanks -/

/-- Leaves out a comment up to its end; says whether a line ended in it. -/
def skipComment : List Char → Bool → Option (Bool × List Char)
  | '*' :: '/' :: rest, line => some (line, rest)
  | c :: rest, line => skipComment rest (line || isLineEnd c)
  | [], _ => none

/-- Leaves out blanks and comments; says whether a line ended in them. -/
def skipBlank : Nat → List Char → Bool → Option (Bool × List Char)
  | 0, _, _ => none
  | n + 1, cs, line =>
    match cs with
    | '/' :: '/' :: rest => skipBlank n (rest.dropWhile (!isLineEnd ·)) line
    | '/' :: '*' :: rest =>
      match skipComment rest line with
      | some (line, rest) => skipBlank n rest line
      | none => none
    | c :: rest =>
      if isLineEnd c then skipBlank n rest true
      else if Text.isBlank c || c.toNat == 0xFEFF then skipBlank n rest line
      else some (line, cs)
    | [] => some (line, [])

/-! ## Texts -/

def hexOf (cs : List Char) (count : Nat) : Option (Nat × List Char) :=
  let digits := cs.take count
  if digits.length = count then (digitsIn 16 digits).map (·, cs.drop count) else none

/-- What an escape stands for; the backslash has been read. -/
def escape : List Char → Option (Units × List Char)
  | 'n' :: r => some (Units.ofChar '\n', r)
  | 't' :: r => some (Units.ofChar '\t', r)
  | 'r' :: r => some (Units.ofChar '\r', r)
  | 'b' :: r => some ([8], r)
  | 'f' :: r => some ([12], r)
  | 'v' :: r => some ([11], r)
  | '0' :: r => if (r.head?.map Char.isDigit).getD false then none else some ([0], r)
  | 'x' :: r => (hexOf r 2).map fun (n, r) => ([UInt16.ofNat n], r)
  | 'u' :: '\x7b' :: r =>
    let digits := r.takeWhile (· != '\x7d')
    match digitsIn 16 digits with
    | some n =>
      if n < 0x110000 then
        let units := if n < 0x10000 then [UInt16.ofNat n] else Units.ofChar (Char.ofNat n)
        some (units, r.drop (digits.length + 1))
      else none
    | none => none
  | 'u' :: r => (hexOf r 4).map fun (n, r) => ([UInt16.ofNat n], r)
  | '\r' :: '\n' :: r => some ([], r)
  | c :: r => if isLineEnd c then some ([], r) else some (Units.ofChar c, r)
  | [] => none

/-- The rest of a text that ends at `quote`, behind the units read so far, in reverse. -/
def takeQuoted (quote : Char) : Nat → List Char → Units → Option (Units × List Char)
  | 0, _, _ => none
  | n + 1, cs, acc =>
    match cs with
    | [] => none
    | '\\' :: r =>
      match escape r with
      | some (u, r) => takeQuoted quote n r (u.reverse ++ acc)
      | none => none
    | c :: r =>
      if c == quote then some (acc.reverse, r)
      else if c == '\n' || c == '\r' then none
      else takeQuoted quote n r ((Units.ofChar c).reverse ++ acc)

/-- The rest of a text between backticks, and whether it ends there and not at an expression. -/
def takeTemplate : Nat → List Char → Units → Option (Units × Bool × List Char)
  | 0, _, _ => none
  | n + 1, cs, acc =>
    match cs with
    | [] => none
    | '`' :: r => some (acc.reverse, true, r)
    | '$' :: '\x7b' :: r => some (acc.reverse, false, r)
    | '\r' :: '\n' :: r => takeTemplate n r (10 :: acc)
    | '\r' :: r => takeTemplate n r (10 :: acc)
    | '\\' :: r =>
      match escape r with
      | some (u, r) => takeTemplate n r (u.reverse ++ acc)
      | none => none
    | c :: r => takeTemplate n r ((Units.ofChar c).reverse ++ acc)

/-- The pattern of a regular expression up to its closing slash. -/
def takePattern : List Char → Bool → List Char → Option (List Char × List Char)
  | [], _, _ => none
  | '\\' :: c :: r, inClass, acc => if isLineEnd c then none else takePattern r inClass (c :: '\\' :: acc)
  | c :: r, inClass, acc =>
    if isLineEnd c then none
    else if c == '/' && !inClass then some (acc.reverse, r)
    else takePattern r (if c == '[' then true else if c == ']' then false else inClass) (c :: acc)

/-! ## Numbers -/

def takeBased (base : Nat) (cs : List Char) : Option (Token × List Char) :=
  let digits := cs.takeWhile fun c => digitValue c < base
  let rest := cs.dropWhile fun c => digitValue c < base
  match digitsIn base digits, rest with
  | some n, 'n' :: r => some (.bigint n, r)
  | some n, r => some (.number (.ofNat n), r)
  | none, _ => none

def takeNumeral (cs : List Char) : Option (Token × List Char) :=
  let digits := cs.takeWhile Char.isDigit
  match cs.dropWhile Char.isDigit with
  | 'n' :: r => (digitsIn 10 digits).map fun n => (.bigint n, r)
  | _ => (takeDecimal cs).map fun (x, r) => (.number x, r)

def takeNumber (cs : List Char) : Option (Token × List Char) := do
  let (t, r) ← match cs with
    | '0' :: 'x' :: r | '0' :: 'X' :: r => takeBased 16 r
    | '0' :: 'o' :: r | '0' :: 'O' :: r => takeBased 8 r
    | '0' :: 'b' :: r | '0' :: 'B' :: r => takeBased 2 r
    | '0' :: c :: _ => if c.isDigit then none else takeNumeral cs
    | cs => takeNumeral cs
  if (r.head?.map inWord).getD false then none else some (t, r)

end Token

namespace Lexeme

/-- The tokens of what is left. `last` is the token before it; `nested` says for each open brace
whether it belongs to a text between backticks. -/
def scanFrom : Nat → List Char → Option Token → List Bool → Option (List Lexeme)
  | 0, _, _, _ => none
  | n + 1, cs, last, nested =>
    match Token.skipBlank (cs.length + 1) cs false with
    | none => none
    | some (_, []) => if nested.isEmpty then some [] else none
    | some (newline, c :: r) =>
      let go (t : Token) (rest : List Char) (nested : List Bool) : Option (List Lexeme) :=
        (scanFrom n rest (some t) nested).map ({ token := t, newline } :: ·)
      let goOn (found : Option (Token × List Char)) : Option (List Lexeme) :=
        match found with
        | some (t, rest) => go t rest nested
        | none => none
      if Token.startsWord c then
        go (.word (String.ofList ((c :: r).takeWhile Token.inWord))) (r.dropWhile Token.inWord) nested
      else if c.isDigit || (c == '.' && (r.head?.map Char.isDigit).getD false) then
        goOn (Token.takeNumber (c :: r))
      else if c == '\x22' || c == '\x27' then
        goOn ((Token.takeQuoted c (r.length + 1) r []).map fun (u, r) => (.text u, r))
      else if c == '`' then
        match Token.takeTemplate (r.length + 1) r [] with
        | some (u, true, rest) => go (.template u true true) rest nested
        | some (u, false, rest) => go (.template u true false) rest (true :: nested)
        | none => none
      else if c == '\x7d' && nested.head? == some true then
        match Token.takeTemplate (r.length + 1) r [] with
        | some (u, true, rest) => go (.template u false true) rest (nested.drop 1)
        | some (u, false, rest) => go (.template u false false) rest nested
        | none => none
      else if c == '/' && !Token.endsValue last then
        match Token.takePattern r false [] with
        | some (p, rest) =>
          let flags := rest.takeWhile Token.inWord
          go (.regex (Units.ofChars p) (Units.ofChars flags)) (rest.dropWhile Token.inWord) nested
        | none => none
      else
        match Token.marks.find? (·.toList.isPrefixOf (c :: r)) with
        | none => none
        | some m =>
          let rest := (c :: r).drop m.length
          if m == "\x7b" then go (.mark m) rest (false :: nested)
          else if m == "\x7d" then if nested.isEmpty then none else go (.mark m) rest (nested.drop 1)
          else go (.mark m) rest nested

/-- The tokens of a script, unless some part of it is none. -/
def scan (source : String) : Option (List Lexeme) :=
  scanFrom (source.length + 1) source.toList none []

end Lexeme

end ScriptSandbox.Guest
