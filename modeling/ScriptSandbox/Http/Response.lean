import ScriptSandbox.Http.Message
import ScriptSandbox.Json.Reader
import ScriptSandbox.World.Network

/-!
# Responses

A response has a status, headers and a body that comes in pieces. `gather` puts the pieces
together as long as they fit, so the result does not depend on how the body was cut.
-/

/-! ## Statuses -/

namespace ScriptSandbox.Status

def phrases : List (Nat × String) :=
  [(100, "Continue"), (101, "Switching Protocols"), (102, "Processing"), (103, "Early Hints"),
    (200, "OK"), (201, "Created"), (202, "Accepted"), (203, "Non Authoritative Information"),
    (204, "No Content"), (205, "Reset Content"), (206, "Partial Content"), (207, "Multi-Status"),
    (208, "Already Reported"), (226, "IM Used"), (300, "Multiple Choices"),
    (301, "Moved Permanently"), (302, "Found"), (303, "See Other"), (304, "Not Modified"),
    (305, "Use Proxy"), (307, "Temporary Redirect"), (308, "Permanent Redirect"),
    (400, "Bad Request"), (401, "Unauthorized"), (402, "Payment Required"), (403, "Forbidden"),
    (404, "Not Found"), (405, "Method Not Allowed"), (406, "Not Acceptable"),
    (407, "Proxy Authentication Required"), (408, "Request Timeout"), (409, "Conflict"),
    (410, "Gone"), (411, "Length Required"), (412, "Precondition Failed"),
    (413, "Payload Too Large"), (414, "URI Too Long"), (415, "Unsupported Media Type"),
    (416, "Range Not Satisfiable"), (417, "Expectation Failed"), (418, "I'm a teapot"),
    (421, "Misdirected Request"), (422, "Unprocessable Entity"), (423, "Locked"),
    (424, "Failed Dependency"), (425, "Too Early"), (426, "Upgrade Required"),
    (428, "Precondition Required"), (429, "Too Many Requests"),
    (431, "Request Header Fields Too Large"), (451, "Unavailable For Legal Reasons"),
    (500, "Internal Server Error"), (501, "Not Implemented"), (502, "Bad Gateway"),
    (503, "Service Unavailable"), (504, "Gateway Timeout"), (505, "HTTP Version Not Supported"),
    (506, "Variant Also Negotiates"), (507, "Insufficient Storage"), (508, "Loop Detected"),
    (510, "Not Extended"), (511, "Network Authentication Required")]

/-- The phrase of a status, nothing if it has none. -/
def phrase (status : Nat) : String := (phrases.lookup status).getD ""

def isSuccess (status : Nat) : Bool := 200 ≤ status && status < 300

/-- Whether a response of this status never has a body. -/
def isBodiless (status : Nat) : Bool := status == 204 || status == 304

/-- The statuses that send a client to another address. -/
def isRedirect (status : Nat) : Bool := [301, 302, 303, 307, 308].contains status

/-- The status at the front of a status line behind the version: three digits and a blank or the
end. -/
def read (line : String) : Option Nat :=
  match line.toList with
  | a :: b :: c :: rest =>
    let n := (a.toNat - 48) * 100 + (b.toNat - 48) * 10 + (c.toNat - 48)
    if a.isDigit ∧ b.isDigit ∧ c.isDigit ∧ (rest = [] ∨ rest.head? = some ' ') ∧ 100 ≤ n then some n
    else none
  | _ => none

end ScriptSandbox.Status

/-! ## Responses -/

namespace ScriptSandbox

/-- A piece of a body, or the end of the connection before its time. -/
inductive BodyPiece
  | data (bytes : Bytes)
  | broken
deriving DecidableEq, Repr

inductive BodyFault
  | tooLong
  | broken
deriving DecidableEq, Repr

structure Response where
  status : Nat
  headers : Headers
  body : List BodyPiece
deriving DecidableEq, Repr

namespace Response

/-- The bytes of a body behind `acc`, which together are at most `limit`. -/
def gather (limit : Nat) (acc : Bytes) : List BodyPiece → Except BodyFault Bytes
  | [] => .ok acc
  | .broken :: _ => .error .broken
  | .data bytes :: rest =>
    if limit < acc.length + bytes.length then .error .tooLong else gather limit (acc ++ bytes) rest

def isBlankChar (c : Char) : Bool := c == ' ' || c == '\t'

/-- A header line as it is read: the name in lower case, the value without blanks around it. -/
def readHeader (h : String × String) : Option (String × String) :=
  let value := ((h.2.toList.dropWhile isBlankChar).reverse.dropWhile isBlankChar).reverse
  if Headers.isToken h.1 ∧ Headers.isValue h.2 then
    some (Text.lowerAscii h.1, String.ofList value)
  else none

/-- A body in pieces of these sizes, and a last one with the rest. -/
def cut : List Nat → Bytes → List Bytes
  | [], body => [body]
  | n :: cuts, body => body.take n :: cut cuts (body.drop n)

/-- What a client makes of a reply; none if it is of no use. -/
def ofReply (method : String) (r : Reply) : Option Response := do
  let status ← Status.read r.status
  guard (200 ≤ status)
  let headers ← (r.headers ++
    [("Content-Length", toString r.length), ("Connection", "close")]).mapM readHeader
  let body : List BodyPiece :=
    if method == "HEAD" || Status.isBodiless status || r.length == 0 then []
    else
      let pieces := (cut r.cuts (r.body.take r.length)).map .data
      if r.body.length < r.length then pieces ++ [.broken] else pieces
  return { status, headers, body }

def header? (r : Response) (name : String) : Option String := (r.headers.reverse).lookup name

/-- The value of a header for a guest, who gets ASCII values alone. -/
def shownValue (value : String) : String :=
  if value.toList.all fun c => c.toNat < 127 then value else ""

def shownHeaders (r : Response) : Json :=
  .object (r.headers.map fun h => (h.1, .str (shownValue h.2)))

def hasSubtext (part : List Char) : List Char → Bool
  | [] => part.isEmpty
  | c :: rest => part.isPrefixOf (c :: rest) || hasSubtext part rest

def isJson (r : Response) : Bool :=
  (r.header? "content-type").any fun type => hasSubtext "json".toList (shownValue type).toList

/-- The result of a call, when the body is read. -/
def toJson (r : Response) (url : String) (body : Bytes) : Json :=
  let text := Utf8.decodeLossy body
  let parsed : Json :=
    if r.isJson then ((Json.read (Utf8.encode text)).toOption).getD .null else .null
  let phrase := Status.phrase r.status
  let fields : List (String × Json) :=
    [("status", .nat r.status), ("status_text", .str phrase), ("url", .str url),
      ("headers", r.shownHeaders), ("body", .str text), ("json", parsed)]
  if Status.isSuccess r.status then successWith fields
  else
    let status := r.status
    .object (fields ++ [("success", .bool false), ("error", .str s!"HTTP {status} {phrase}"),
      ("code", .str Code.http.name)])

end Response

end ScriptSandbox
