import ScriptSandbox.Text.Utf8

/-!
# The network

One server answers at one address, each connection with the next of its replies; when they are
used up, and everywhere else, connections are refused. The server keeps what it was sent.
-/

namespace ScriptSandbox

/-- What a server sends on one connection. -/
structure Reply where
  /-- The milliseconds before it answers. -/
  delay : Nat := 0
  /-- The status line behind the version. -/
  status : String
  headers : List (String × String)
  body : Bytes
  /-- The length it announces. -/
  length : Nat
  /-- The sizes of the pieces that the body comes in, but for the last, which has the rest. -/
  cuts : List Nat := []
deriving DecidableEq, Repr

/-- A request as a server receives it. -/
structure Received where
  method : String
  target : String
  headers : List (String × String)
  body : Bytes
deriving DecidableEq, Repr

structure Network where
  /-- Host and port of the server. -/
  host : String := ""
  replies : List Reply := []
  /-- What the server received, last first. -/
  received : List Received := []
deriving DecidableEq, Repr, Inhabited

/-- The reply to a request sent to a host; none if the connection is refused. -/
def Network.send (n : Network) (host : String) (r : Received) : Option Reply × Network :=
  match n.replies with
  | reply :: rest =>
    if host = n.host then (some reply, { n with replies := rest, received := r :: n.received })
    else (none, n)
  | [] => (none, n)

end ScriptSandbox
