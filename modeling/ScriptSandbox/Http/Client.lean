import ScriptSandbox.Http.Response
import ScriptSandbox.Settings.Basic
import ScriptSandbox.Text.Base64
import ScriptSandbox.World.Surroundings

/-!
# The client

Sends a request, follows at most ten redirects, and reads the body of the response, all within one
time limit.
-/

namespace ScriptSandbox

/-- Why there is no response, with the address that the message names. -/
inductive SendFault
  /-- No connection, no answer in time, or an answer of no use. -/
  | unsent (url : Url)
  /-- An address that the client cannot ask for. -/
  | unusable (url : Url)
  | redirects (url : Url)
deriving DecidableEq, Repr

def SendFault.message : SendFault → String
  | .unsent url => s!"error sending request for url ({url.toText})"
  | .unusable url => s!"builder error for url ({url.toText})"
  | .redirects url => s!"error following redirect for url ({url.toText})"

namespace HttpClient

def userAgent : String := "scriptbox/0.1.0"

def isWeb (url : Url) : Bool := url.scheme == "http" || url.scheme == "https"

/-- The header that carries the user and password of an address. -/
def credentials (url : Url) : Headers :=
  let plain (cs : List Char) : Bytes := Percent.decode (Utf8.encodeChars cs)
  match url.authority with
  | some a =>
    if a.user.isEmpty ∧ a.password.isNone then []
    else
      let text := Base64.encodeText (plain a.user ++ 58 :: plain (a.password.getD []))
      [("authorization", "Basic " ++ text)]
  | none => []

/-- A request as it goes to a server. -/
structure Outgoing where
  url : Url
  method : String
  headers : Headers
  body : Bytes
deriving DecidableEq, Repr

namespace Outgoing

def ofRequest (r : Request) : Outgoing :=
  { url := r.url.withoutUser
    method := r.method
    headers := (credentials r.url).foldl (fun hs h => Headers.setDefault hs h.1 h.2) r.headers
    body := r.body }

def received (o : Outgoing) : Received :=
  let headers := (o.headers.setDefault "accept" "*/*").setDefault "user-agent" userAgent
  let headers := headers.setDefault "host" o.url.hostText
  let headers :=
    if o.body.isEmpty then headers
    else headers.setDefault "content-length" (toString o.body.length)
  { method := o.method, target := String.ofList o.url.target, headers, body := o.body }

/-- Drops the body with the headers that describe it, and asks by another method. -/
def emptied (o : Outgoing) (method : String) : Outgoing :=
  { o with
    method
    body := []
    headers := o.headers.remove
      ["content-type", "content-length", "content-encoding", "transfer-encoding"] }

/-- The request to send to another address after a status. -/
def redirected (o : Outgoing) (status : Nat) (url : Url) : Outgoing :=
  let o' := match status with
    | 301 | 302 => if o.method == "POST" then o.emptied "GET" else o
    | 303 => o.emptied (if o.method == "HEAD" then "HEAD" else "GET")
    | _ => o
  let referer := o.url.withoutUser.withoutFragment.toText
  let headers := if o.url.scheme == "https" && url.scheme == "http" then o'.headers
    else o'.headers.set "referer" referer
  { o' with url := url.withoutUser.withoutFragment, headers }

end Outgoing

/-- The address a response sends the client to. -/
def location? (o : Outgoing) (r : Response) : Option (Except Unit Url) :=
  match r.header? "location" with
  | some reference =>
    if Status.isRedirect r.status ∧ Url.isReference reference.toList then
      some ((o.url.join reference).mapError fun _ => ())
    else none
  | none => none

/-- The connections of one call: the network, and the milliseconds spent and allowed. -/
structure Connections where
  network : Network
  spent : Nat := 0
  allowed : Nat
deriving Repr

/-- Sends a request and follows at most `hops` redirects. `origin` is the address asked for. -/
def send (origin : Url) (hops : Nat) (o : Outgoing) (c : Connections) :
    Except SendFault (Response × Url) × Connections :=
  match c.network.send (if o.url.scheme == "http" then o.url.hostText else "") o.received with
  | (none, network) => (.error (.unsent origin), { c with network })
  | (some reply, network) =>
    let spent := c.spent + reply.delay
    if c.allowed ≤ spent then
      (.error (.unsent origin), { c with network, spent := max c.spent c.allowed })
    else
      let c := { c with network, spent }
      match Response.ofReply o.method reply with
      | none => (.error (.unsent origin), c)
      | some response =>
        match location? o response with
        | none => (.ok (response, o.url.withoutFragment), c)
        | some (.error ()) => (.error (.unusable origin), c)
        | some (.ok next) =>
          match hops with
          | 0 => (.error (.redirects o.url.withoutFragment), c)
          | hops + 1 =>
            if isWeb next then send origin hops (o.redirected response.status next) c
            else (.error (.unusable next.withoutFragment), c)

def maxRedirects : Nat := 10

def httpFailure (message : String) : Failure := { code := .http, message }

/-- Sends a request and reads the response. -/
def exchange (s : Settings) (r : Request) : HostAction Json := do
  let outgoing := Outgoing.ofRequest r
  let describe (e : SendFault) : Failure :=
    httpFailure s!"{r.method} {r.url.toText} failed: {e.message}"
  if !isWeb r.url then HostAction.fail (describe (.unusable outgoing.url))
  let w ← get
  let start : Connections := { network := w.network, allowed := r.timeout.getD s.httpTimeout }
  let (result, after) := send outgoing.url maxRedirects outgoing start
  modify fun w => { w with network := after.network }
  HostAction.pause after.spent
  match result with
  | .error e => HostAction.fail (describe e)
  | .ok (response, url) =>
    match response.body |> Response.gather s.maxFileSize [] with
    | .ok body => return response.toJson url.toText body
    | .error .tooLong =>
      let limit := s.maxFileSize
      HostAction.fail (httpFailure s!"response body exceeds the {limit} byte limit")
    | .error .broken =>
      HostAction.fail (httpFailure "reading body failed: error decoding response body")

def run (s : Settings) (options : List (String × Json)) : HostAction Json := do
  exchange s (← HostAction.ofExcept (Request.ofOptions options))

/-! ## Calls -/

/-- The ways in which a call describes its request. -/
inductive Form
  | request
  | get
  | post
deriving DecidableEq, Repr

/-- The options that the arguments of a call stand for. -/
def Form.options (args : Arguments) : Form → Except Failure (List (String × Json))
  | .request => do
    match ← args.optionalObject 0 "options" with
    | some options => return options
    | none => throw (.invalidInput "httpRequest() needs an options object")
  | .get => do
    let url ← args.requireText 0 "url"
    return [("url", .str url), ("method", .str "GET"), ("headers", args.get 1)]
  | .post => do
    let url ← args.requireText 0 "url"
    return [("url", .str url), ("method", .str "POST"), ("body", args.get 1),
      ("headers", args.get 2)]

def call (form : Form) (s : Settings) (args : Arguments) : HostAction Json := do
  run s (← HostAction.ofExcept (form.options args))

/-- Whether there is a request that goes out. -/
def sends (form : Form) (args : Arguments) : Bool :=
  (form.options args >>= Request.ofOptions).toOption.any fun r => isWeb r.url

end HttpClient

end ScriptSandbox
