import ScriptSandbox.Url.Basic

/-!
# Reading addresses

Control characters and spaces around a text and line breaks and tabs in it do not count. Dots in a
path are resolved, ports that are the default are dropped, and characters that may not stand where
they are written are replaced by the numbers of their bytes.
-/

namespace ScriptSandbox.Url

/-- The scheme before a colon, in lower case, and what follows the colon. -/
def readScheme (cs : List Char) : Option (String × List Char) :=
  match cs with
  | [] => none
  | first :: _ =>
    let allowed (c : Char) : Bool := c.isAlphanum || c == '+' || c == '-' || c == '.'
    match cs.dropWhile allowed with
    | ':' :: rest =>
      if first.isAlpha then
        some (String.ofList ((cs.takeWhile allowed).map Char.toLower), rest)
      else none
    | _ => none

/-- Whether a character ends the part of an address in front of the path. -/
def endsAuthority (known : Bool) (c : Char) : Bool :=
  c == '/' || c == '?' || c == '#' || (known && c == '\\')

/-! ## Paths -/

def isDot (segment : List Char) : Bool :=
  let s := segment.map Char.toLower
  s == ['.'] || s == "%2e".toList

def isDoubleDot (segment : List Char) : Bool :=
  let s := segment.map Char.toLower
  s == ['.', '.'] || s == ".%2e".toList || s == "%2e.".toList || s == "%2e%2e".toList

/-- Whether a segment names a drive: a letter and a colon or a bar. -/
def isDrive (segment : List Char) : Bool :=
  match segment with
  | [letter, mark] => letter.isAlpha && (mark == ':' || mark == '|')
  | _ => false

/-- Drops the last segment; the drive of a file address stays. -/
def shorten (file : Bool) (done : List (List Char)) : List (List Char) :=
  match done with
  | [drive] => if file && isDrive drive then done else []
  | _ :: rest => rest
  | [] => []

/-- The segments of a path; `done` are those before, last first. -/
def placeSegments (file : Bool) (done : List (List Char)) : List (List Char) → List (List Char)
  | [] => done.reverse
  | [last] =>
    if isDoubleDot last then ([] :: shorten file done).reverse
    else if isDot last then ([] :: done).reverse
    else (place last).reverse
  | segment :: rest =>
    if isDoubleDot segment then placeSegments file (shorten file done) rest
    else if isDot segment then placeSegments file done rest
    else placeSegments file (place segment) rest
where
  place (segment : List Char) : List (List Char) :=
    match done, segment with
    | [], [letter, _] =>
      if file && isDrive segment then [[letter, ':']] else [segment]
    | _, _ => segment :: done

/-- The parts of a path between its slashes. -/
def slashParts (known : Bool) (cs : List Char) : List (List Char) :=
  let step (c : Char) (acc : List Char × List (List Char)) : List Char × List (List Char) :=
    if c = '/' ∨ (known ∧ c = '\\') then ([], acc.1 :: acc.2) else (c :: acc.1, acc.2)
  let (first, rest) := cs.foldr step ([], [])
  first :: rest

/-- The segments of a path behind its leading slash. -/
def segmentsOf (scheme : String) (cs : List Char) : List (List Char) :=
  let file := isFileScheme scheme
  let encoded := (slashParts (isKnown scheme) cs).map (Percent.encode Percent.path)
  let placed := placeSegments file [] encoded
  if file then
    match placed.dropWhile (·.isEmpty) with
    | [] => [[]]
    | kept => kept
  else placed

def isPathEnd (c : Char) : Bool := c == '?' || c == '#'

/-- Puts query and fragment, which `cs` starts with if there are any, to an address. -/
def withTail (u : Url) (cs : List Char) : Url :=
  let querySet := if isKnown u.scheme then Percent.knownQuery else Percent.query
  let fragmentOf (cs : List Char) : Option (List Char) :=
    match cs with
    | '#' :: rest => some (Percent.encode Percent.fragment rest)
    | _ => none
  match cs with
  | '?' :: rest =>
    { u with
      query := some (Percent.encode querySet (rest.takeWhile (· ≠ '#')))
      fragment := fragmentOf (rest.dropWhile (· ≠ '#')) }
  | _ => { u with fragment := fragmentOf cs }

/-- The path behind an authority. -/
def pathAfterAuthority (scheme : String) (cs : List Char) : UrlPath :=
  let text := cs.takeWhile (!isPathEnd ·)
  match text with
  | [] => if isKnown scheme then .segments [[]] else .segments []
  | c :: rest =>
    let slash := c = '/' ∨ (isKnown scheme ∧ c = '\\')
    .segments (segmentsOf scheme (if slash then rest else text))

/-! ## Authorities -/

/-- The user and password before the last `@`, and what follows it. -/
def readUser (known : Bool) (cs : List Char) :
    Except UrlFault (List Char × Option (List Char) × Bool × List Char) :=
  let front := cs.takeWhile (!endsAuthority known ·)
  let host := (front.reverse.takeWhile (· ≠ '@')).reverse
  if host.length = front.length then .ok ([], none, false, cs)
  else
    let info := front.take (front.length - host.length - 1)
    let rest := cs.drop (info.length + 1)
    if info.isEmpty then
      match rest with
      | c :: _ => if endsAuthority known c then .error .emptyHost else .ok ([], none, false, rest)
      | [] => .ok ([], none, false, rest)
    else
      let user := Percent.encode Percent.userInfo (info.takeWhile (· ≠ ':'))
      let password := (info.dropWhile (· ≠ ':')).drop 1
      let encoded := Percent.encode Percent.userInfo password
      .ok (user, if password.isEmpty then none else some encoded,
        !user.isEmpty || !password.isEmpty, rest)

/-- The text of a host: up to a colon outside brackets or the end of the authority. -/
def hostPart (known inside : Bool) : List Char → List Char
  | [] => []
  | c :: rest =>
    if (c = ':' ∧ !inside) ∨ endsAuthority known c then []
    else c :: hostPart known (if c = '[' then true else if c = ']' then false else inside) rest

/-- The port behind a colon, none if it is the default, and what follows it. -/
def readPort (scheme : String) (cs : List Char) : Except UrlFault (Option Nat × List Char) :=
  let digits := cs.takeWhile Char.isDigit
  let rest := cs.dropWhile Char.isDigit
  let n := digits.foldl (fun n c => 10 * n + (c.toNat - 48)) 0
  if 0x10000 ≤ n then .error .badPort
  else if rest.head?.any (!endsAuthority true ·) then .error .badPort
  else .ok (if digits.isEmpty ∨ defaultPort scheme = some n then none else some n, rest)

/-- An address whose authority `cs` starts with. -/
def readAuthority (scheme : String) (cs : List Char) : Except UrlFault Url := do
  let known := isKnown scheme
  let (user, password, named, rest) ← readUser known cs
  let hostText := hostPart known false rest
  let after := rest.drop hostText.length
  if known ∧ hostText.isEmpty then throw .emptyHost
  let host ← if known then Host.read hostText else Host.readAny hostText
  if host = .absent ∧ after.head? = some ':' then throw .emptyHost
  let (port, after) ←
    match after with
    | ':' :: after => readPort scheme after
    | _ => pure (none, after)
  if host = .absent ∧ named then throw .emptyHost
  let u : Url :=
    { scheme
      authority := some { user, password, host, port }
      path := pathAfterAuthority scheme after }
  return withTail u (after.dropWhile (!isPathEnd ·))

/-! ## Schemes -/

def isSlash (c : Char) : Bool := c == '/' || c == '\\'

def fileUrl (host : Host) (path tail : List Char) : Url :=
  withTail { scheme := "file", authority := some { host }, path := .segments (segmentsOf "file" path) }
    tail

/-- A file address behind its scheme. -/
def readFileUrl (cs : List Char) : Except UrlFault Url :=
  match cs with
  | a :: b :: rest =>
    if isSlash a && isSlash b then do
      let hostText := rest.takeWhile (!endsAuthority true ·)
      let drive := isDrive hostText
      let host ←
        if drive ∨ hostText.isEmpty then pure Host.absent
        else
          match ← Host.read hostText with
          | .domain name => pure (if name = "localhost".toList then Host.absent else .domain name)
          | host => pure host
      let after := if drive then rest else rest.drop hostText.length
      let path := after.takeWhile (!isPathEnd ·)
      let path := if path.head?.any isSlash then path.drop 1 else path
      return fileUrl host path (after.dropWhile (!isPathEnd ·))
    else .ok (single cs)
  | _ => .ok (single cs)
where
  single (cs : List Char) : Url :=
    let path := cs.takeWhile (!isPathEnd ·)
    let path := if path.head?.any isSlash then path.drop 1 else path
    fileUrl .absent path (cs.dropWhile (!isPathEnd ·))

/-- An address of an unknown scheme, behind the scheme. -/
def readOther (scheme : String) (cs : List Char) : Except UrlFault Url :=
  match cs with
  | '/' :: '/' :: rest => readAuthority scheme rest
  | _ =>
    let text := cs.takeWhile (!isPathEnd ·)
    let path : UrlPath := match text with
      | '/' :: rest => .segments (segmentsOf scheme rest)
      | _ => .opaque_ (Percent.encode "" text)
    .ok (withTail { scheme, authority := none, path } (cs.dropWhile (!isPathEnd ·)))

def isTrimmed (c : Char) : Bool := c.toNat ≤ 32

def isDropped (c : Char) : Bool := c == '\t' || c == '\n' || c == '\r'

/-- The characters of a text that count. -/
def significant (text : String) : List Char :=
  let trimmed := ((text.toList.dropWhile isTrimmed).reverse.dropWhile isTrimmed).reverse
  trimmed.filter (!isDropped ·)

def parse (text : String) : Except UrlFault Url :=
  match readScheme (significant text) with
  | none => .error .relative
  | some (scheme, rest) =>
    if isFileScheme scheme then readFileUrl rest
    else if isKnown scheme then readAuthority scheme (rest.dropWhile isSlash)
    else readOther scheme rest

/-! ## References -/

/-- Whether a text may be a reference from one address to another: ASCII characters of addresses
alone. -/
def isReference (cs : List Char) : Bool :=
  cs.all fun c => c.isAlphanum || "-._~:/?#[]@!$&'()*+,;=%".toList.contains c

/-- The address that a reference leads to. -/
def join (base : Url) (reference : String) : Except UrlFault Url :=
  let cs := reference.toList
  let origin := base.scheme ++ "://" ++ base.hostText
  match readScheme cs with
  | some _ => parse reference
  | none =>
    let path := String.ofList (UrlPath.toText base.path)
    let folder := String.ofList ((UrlPath.toText base.path).reverse.dropWhile (· ≠ '/')).reverse
    match cs with
    | '/' :: '/' :: _ => parse (base.scheme ++ ":" ++ reference)
    | '/' :: _ => parse (origin ++ reference)
    | '?' :: _ => parse (origin ++ path ++ reference)
    | '#' :: _ | [] => parse (origin ++ String.ofList base.target ++ reference)
    | _ => parse (origin ++ folder ++ reference)

end ScriptSandbox.Url
