import ScriptSandbox.Url.Host

/-!
# Addresses

An address of a resource in its parts. The parts are kept as they are written, so `toText` only
puts them together.
-/

namespace ScriptSandbox

structure Authority where
  user : List Char := []
  password : Option (List Char) := none
  host : Host
  port : Option Nat := none
deriving DecidableEq, Repr

inductive UrlPath
  /-- A path in one piece, which no other can be relative to. -/
  | opaque_ (text : List Char)
  | segments (names : List (List Char))
deriving DecidableEq, Repr

structure Url where
  scheme : String
  authority : Option Authority
  path : UrlPath
  query : Option (List Char) := none
  fragment : Option (List Char) := none
deriving DecidableEq, Repr

namespace Url

/-- The schemes with rules of their own, and their ports. -/
def defaultPort (scheme : String) : Option Nat :=
  match scheme with
  | "http" | "ws" => some 80
  | "https" | "wss" => some 443
  | "ftp" => some 21
  | _ => none

def isFileScheme (scheme : String) : Bool := scheme == "file"

def isKnown (scheme : String) : Bool := (defaultPort scheme).isSome || isFileScheme scheme

def Authority.toText (a : Authority) : List Char :=
  let user := match a.user, a.password with
    | [], none => []
    | user, none => user ++ ['@']
    | user, some password => user ++ ':' :: password ++ ['@']
  let port := match a.port with
    | some n => ':' :: (toString n).toList
    | none => []
  user ++ a.host.toText ++ port

def UrlPath.toText : UrlPath → List Char
  | .opaque_ text => text
  | .segments names => names.flatMap ('/' :: ·)

/-- What a server is asked for. -/
def target (u : Url) : List Char :=
  UrlPath.toText u.path ++ (match u.query with | some q => '?' :: q | none => [])

def toText (u : Url) : String :=
  let authority := match u.authority, u.path with
    | some a, _ => '/' :: '/' :: Authority.toText a
    | none, .segments ([] :: _ :: _) => ['/', '.']
    | none, _ => []
  let fragment := match u.fragment with
    | some f => '#' :: f
    | none => []
  u.scheme ++ String.ofList (':' :: authority ++ u.target ++ fragment)

/-- The host with its port, unless the scheme has the same one. -/
def hostText (u : Url) : String :=
  match u.authority with
  | some a => String.ofList (Authority.toText { a with user := [], password := none })
  | none => ""

def withoutFragment (u : Url) : Url := { u with fragment := none }

def withoutUser (u : Url) : Url :=
  { u with authority := u.authority.map fun a => { a with user := [], password := none } }

end Url

end ScriptSandbox
