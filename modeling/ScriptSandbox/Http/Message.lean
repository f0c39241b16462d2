import ScriptSandbox.Argument
import ScriptSandbox.Json.Printer
import ScriptSandbox.Text.Utf8
import ScriptSandbox.Url.Parser

/-!
# Requests

A request is made from an options object. Each option that is given must have its shape; an
option that is missing or null has its default. Header names are compared without case, and each
has one value.
-/

namespace ScriptSandbox

/-- Headers in order, with names in lower case. -/
abbrev Headers := List (String × String)

namespace Headers

/-- Characters of methods and header names. -/
def isTokenChar (c : Char) : Bool := c.isAlphanum || "!#$%&'*+-.^_`|~".toList.contains c

def isToken (s : String) : Bool := !s.isEmpty && s.toList.all isTokenChar

/-- Whether a text may be the value of a header: no controls but tabs. -/
def isValue (s : String) : Bool := s.toList.all fun c => (32 ≤ c.toNat && c.toNat != 127) || c == '\t'

/-- Gives a header its value, in place of the one it had. -/
def set (hs : Headers) (name value : String) : Headers :=
  hs.filter (·.1 != name) ++ [(name, value)]

def get? (hs : Headers) (name : String) : Option String := hs.lookup name

def remove (hs : Headers) (names : List String) : Headers := hs.filter fun h => !names.contains h.1

/-- Gives a header a value unless it has one. -/
def setDefault (hs : Headers) (name value : String) : Headers :=
  if (hs.get? name).isSome then hs else hs ++ [(name, value)]

def addField (hs : Headers) (field : String × Json) : Except Failure Headers := do
  let (given, value) := field
  let text := match value with
    | .str s => s
    | other => other.compact
  if !isToken given then throw (.invalidInput s!"invalid header name '{given}'")
  let name := Text.lowerAscii given
  if !isValue text then throw (.invalidInput s!"invalid value for header '{name}'")
  return hs.set name text

/-- The headers of an option. -/
def ofJson : Json → Except Failure Headers
  | .null => .ok []
  | .obj fields => fields.foldlM addField []
  | other => .error (.invalidInput s!"'headers' must be an object, got {other.shape}")

end Headers

structure Request where
  url : Url
  method : String
  headers : Headers
  body : Bytes
  /-- The most milliseconds until the response is read; none leaves it to the settings. -/
  timeout : Option Nat
deriving DecidableEq, Repr

namespace Request

def jsonType : String := "application/json"

/-- The method of an option: text in upper case. -/
def methodOf (value : Json) : Except Failure String :=
  let method := Text.upper ((value.str?).getD "GET")
  if Headers.isToken method then .ok method
  else .error (.invalidInput s!"invalid method '{method}'")

def urlOf (value : Json) : Except Failure Url :=
  match Arguments.textOf? value with
  | none => .error (.invalidInput "request needs a 'url'")
  | some text =>
    match Url.parse text with
    | .ok url => .ok url
    | .error e =>
      let reason := e.message
      .error (.invalidInput s!"invalid URL '{text}': {reason}")

/-- The body of a request, and whether it is written as JSON. A `json` option comes before `body`,
and a text as `body` is sent as it is. -/
def bodyOf (json body : Json) : Bytes × Bool :=
  if !json.isNull then (Utf8.encode json.compact, true)
  else
    match body with
    | .null => ([], false)
    | .str text => (Utf8.encode text, false)
    | other => (Utf8.encode other.compact, true)

def ofOptions (options : List (String × Json)) : Except Failure Request := do
  let option (name : String) : Json := (options.lookup name).getD .null
  let url ← urlOf (option "url")
  let method ← methodOf (option "method")
  let headers ← Headers.ofJson (option "headers")
  let timeout ← Arguments.countOf (option "timeout") "timeout"
  let (body, isJson) := bodyOf (option "json") (option "body")
  let headers := if isJson then headers.setDefault "content-type" jsonType else headers
  return { url, method, headers, body, timeout }

end Request

end ScriptSandbox
