import ScriptSandbox.Http.Client
import ScriptSandbox.Proofs.Host.Actions
import ScriptSandbox.Proofs.Http.Body

/-!
# How requests are sent

A call sends one request in each round (`HttpClient.round`), and goes on to another round as long as
the response leads to another address (`send_eq`). So what a whole call does follows from what one
round does: which requests the server gets (`send_received`), and that the pieces in which bodies
come have no say (`send_whole`).
-/

namespace ScriptSandbox

/-- The same network, with every body in one piece. -/
def Network.whole (n : Network) : Network := { n with replies := n.replies.map Reply.whole }

/-- The same surroundings, with every body of the network in one piece. -/
def Surroundings.whole (w : Surroundings) : Surroundings := { w with network := w.network.whole }

theorem Network.send_whole (n : Network) (host : String) (r : Received) :
    n.whole.send host r = ((n.send host r).1.map Reply.whole, (n.send host r).2.whole) := by
  obtain ⟨address, _ | ⟨reply, replies⟩, received⟩ := n
  · rfl
  · simp only [whole, send, List.map_cons]
    split <;> rfl

/-- A request finds no server and changes nothing, or it gets the next reply. -/
theorem Network.send_cases (n : Network) (host : String) (r : Received) :
    n.send host r = (none, n) ∨
      ∃ reply rest, n.replies = reply :: rest ∧
        n.send host r = (some reply, { n with replies := rest, received := r :: n.received }) := by
  unfold send
  split
  · rename_i reply rest hreplies
    split
    · exact .inr ⟨reply, rest, hreplies, rfl⟩
    · exact .inl rfl
  · exact .inl rfl

theorem Network.send_received (n : Network) (host : String) (r : Received) :
    (n.send host r).2.received =
      if (n.send host r).1.isSome then r :: n.received else n.received := by
  rcases n.send_cases host r with h | ⟨reply, rest, -, h⟩ <;> rw [h] <;> rfl

theorem Network.mem_of_send {n : Network} {host : String} {sent : Received} {reply : Reply}
    (h : (n.send host sent).1 = some reply) : reply ∈ n.replies := by
  rcases n.send_cases host sent with hnone | ⟨first, rest, hreplies, hsome⟩
  · rw [hnone] at h
    exact nomatch h
  · rw [hsome] at h
    obtain rfl : first = reply := Option.some.inj h
    rw [hreplies]
    exact List.mem_cons_self

theorem Network.mem_of_mem_send {n : Network} {host : String} {sent : Received} {reply : Reply}
    (h : reply ∈ (n.send host sent).2.replies) : reply ∈ n.replies := by
  rcases n.send_cases host sent with hnone | ⟨first, rest, hreplies, hsome⟩
  · rwa [hnone] at h
  · rw [hsome] at h
    rw [hreplies]
    exact List.mem_cons_of_mem _ h

namespace HttpClient

variable {s : Settings} {options : List (String × Json)} {r : Request} {w : Surroundings}
  {origin : Url} {hops : Nat} {o : Outgoing} {c : Connections}

def Connections.whole (c : Connections) : Connections := { c with network := c.network.whole }

/-! ## Rounds -/

/-- What one request comes to: the end of the call, or another address to ask. -/
inductive Answer
  | final (result : Except SendFault (Response × Url))
  | onward (status : Nat) (next : Url)

/-- What a response means to a call. -/
def answerOf (origin : Url) (o : Outgoing) : Option Response → Answer
  | none => .final (.error (.unsent origin))
  | some response =>
    match location? o response with
    | none => .final (.ok (response, o.url.withoutFragment))
    | some (.error ()) => .final (.error (.unusable origin))
    | some (.ok next) => .onward response.status next

/-- What a reply comes to, and the milliseconds that are spent by then. -/
def hear (origin : Url) (o : Outgoing) (spent allowed : Nat) : Option Reply → Answer × Nat
  | none => (.final (.error (.unsent origin)), spent)
  | some reply =>
    if allowed ≤ spent + reply.delay then (.final (.error (.unsent origin)), max spent allowed)
    else (answerOf origin o (Response.ofReply o.method reply), spent + reply.delay)

/-- The host that a request goes to, nothing if there is no way to it. -/
def hostOf (o : Outgoing) : String := if o.url.scheme == "http" then o.url.hostText else ""

/-- Sends one request. -/
def round (origin : Url) (o : Outgoing) (c : Connections) : Answer × Connections :=
  let sent := c.network.send (hostOf o) o.received
  let heard := hear origin o c.spent c.allowed sent.1
  (heard.1, { c with network := sent.2, spent := heard.2 })

/-- A call goes from round to round, as far as it may. -/
theorem send_eq (origin : Url) (hops : Nat) (o : Outgoing) (c : Connections) :
    send origin hops o c =
      match round origin o c with
      | (.final result, c) => (result, c)
      | (.onward status next, c) =>
        match hops with
        | 0 => (.error (.redirects o.url.withoutFragment), c)
        | hops + 1 =>
          if isWeb next then send origin hops (o.redirected status next) c
          else (.error (.unusable next.withoutFragment), c) := by
  rw [send.eq_def, round, hostOf]
  rcases c.network.send (if o.url.scheme == "http" then o.url.hostText else "") o.received with
    ⟨_ | reply, network⟩
  · rfl
  · dsimp only [hear]
    by_cases hlate : c.allowed ≤ c.spent + reply.delay
    · rw [if_pos hlate, if_pos hlate]
    · rw [if_neg hlate, if_neg hlate]
      cases Response.ofReply o.method reply with
      | none => rfl
      | some response =>
        dsimp only [answerOf]
        rcases location? o response with _ | _ | next <;> rfl

/-- A call comes to what a round comes to, or it may not follow where that leads, or it goes on to
another round. -/
theorem send_cases (origin : Url) (hops : Nat) (o : Outgoing) (c : Connections) :
    (∃ result, (round origin o c).1 = .final result ∧
        send origin hops o c = (result, (round origin o c).2)) ∨
      (∃ e, send origin hops o c = (.error e, (round origin o c).2)) ∨
      ∃ n status next, hops = n + 1 ∧ (round origin o c).1 = .onward status next ∧
        isWeb next = true ∧
        send origin hops o c = send origin n (o.redirected status next) (round origin o c).2 := by
  rw [send_eq]
  rcases round origin o c with ⟨result | ⟨status, next⟩, c'⟩
  · exact .inl ⟨result, rfl, rfl⟩
  · cases hops with
    | zero => exact .inr (.inl ⟨_, rfl⟩)
    | succ n =>
      by_cases hweb : isWeb next = true
      · exact .inr (.inr ⟨n, status, next, rfl, rfl, hweb, by simp only [hweb, if_true]⟩)
      · exact .inr (.inl ⟨.unusable next.withoutFragment, by simp only [hweb]; rfl⟩)

/-! ## What the server gets -/

/-- The requests that a server gets of one call in at most so many rounds: each but the first is
what the one before it becomes by a redirect. The last may find no server. -/
inductive Chain : Nat → Outgoing → List Received → Prop
  | refused (rounds : Nat) (o : Outgoing) : Chain rounds o []
  | last (rounds : Nat) (o : Outgoing) : Chain (rounds + 1) o [o.received]
  | onward {rounds : Nat} {o : Outgoing} {status : Nat} {next : Url} {rest : List Received}
      (redirect : Status.isRedirect status = true) (web : isWeb next = true)
      (behind : Chain rounds (o.redirected status next) rest) :
      Chain (rounds + 1) o (o.received :: rest)

/-- In one round the server gets the request or nothing, and nothing only if there is no answer. -/
theorem round_received (origin : Url) (o : Outgoing) (c : Connections) :
    (round origin o c).2.network.received = o.received :: c.network.received ∨
      (round origin o c).2.network.received = c.network.received ∧
        (round origin o c).1 = .final (.error (.unsent origin)) := by
  have hsent := c.network.send_received (hostOf o) o.received
  unfold round
  cases hreply : (c.network.send (hostOf o) o.received).1 with
  | none =>
    rw [hreply] at hsent
    exact .inr ⟨hsent, by dsimp only; rw [hreply]; rfl⟩
  | some reply =>
    rw [hreply] at hsent
    exact .inl hsent

theorem isRedirect_of_location {response : Response} {target : Except Unit Url}
    (h : location? o response = some target) : Status.isRedirect response.status = true := by
  unfold location? at h
  split at h
  · split at h
    · rename_i hredirect
      exact hredirect.1
    · exact nomatch h
  · exact nomatch h

theorem isRedirect_of_answer {response : Option Response} {status : Nat} {next : Url}
    (h : answerOf origin o response = .onward status next) : Status.isRedirect status = true := by
  cases response with
  | none => exact nomatch h
  | some response =>
    unfold answerOf at h
    dsimp only at h
    split at h
    · exact nomatch h
    · exact nomatch h
    · rename_i hlocation
      obtain ⟨rfl, -⟩ := Answer.onward.inj h
      exact isRedirect_of_location hlocation

theorem isRedirect_of_onward {status : Nat} {next : Url}
    (h : (round origin o c).1 = .onward status next) : Status.isRedirect status = true := by
  unfold round hear at h
  dsimp only at h
  split at h
  · exact nomatch h
  · split at h
    · exact nomatch h
    · exact isRedirect_of_answer h

theorem chain_of_round (origin : Url) (hops : Nat) (o : Outgoing) (c : Connections) :
    ∃ sent, Chain (hops + 1) o sent ∧
      (round origin o c).2.network.received = sent.reverse ++ c.network.received := by
  rcases round_received origin o c with hgot | ⟨hnothing, -⟩
  · exact ⟨[o.received], .last hops o, hgot⟩
  · exact ⟨[], .refused (hops + 1) o, hnothing⟩

/-- What the server gets of a call is a chain of requests that begins with the first one sent. -/
theorem send_received (origin : Url) (hops : Nat) (o : Outgoing) (c : Connections) :
    ∃ sent, Chain (hops + 1) o sent ∧
      (send origin hops o c).2.network.received = sent.reverse ++ c.network.received := by
  induction hops using Nat.strongRecOn generalizing o c with
  | ind hops ih =>
    rcases send_cases origin hops o c with
      ⟨result, -, hend⟩ | ⟨e, hend⟩ | ⟨n, status, next, rfl, hround, hweb, hgo⟩
    · rw [hend]
      exact chain_of_round origin hops o c
    · rw [hend]
      exact chain_of_round origin hops o c
    · obtain ⟨rest, hrest, hreceived⟩ :=
        ih n (Nat.lt_succ_self n) (o.redirected status next) (round origin o c).2
      rcases round_received origin o c with hgot | ⟨-, hfinal⟩
      · refine ⟨o.received :: rest, .onward (isRedirect_of_onward hround) hweb hrest, ?_⟩
        rw [hgo, hreceived, hgot, List.reverse_cons, List.append_assoc, List.singleton_append]
      · rw [hfinal] at hround
        exact nomatch hround

/-! ## Where responses come from -/

theorem ofReply_of_answer {response? : Option Response} {response : Response} {url : Url}
    (h : answerOf origin o response? = .final (.ok (response, url))) :
    response? = some response := by
  cases response? with
  | none => exact nomatch h
  | some found =>
    unfold answerOf at h
    dsimp only at h
    split at h
    · obtain ⟨rfl, -⟩ := Prod.mk.inj (Except.ok.inj (Answer.final.inj h))
      rfl
    · exact nomatch h
    · exact nomatch h

theorem ofReply_of_round {response : Response} {url : Url}
    (h : (round origin o c).1 = .final (.ok (response, url))) :
    ∃ reply ∈ c.network.replies, Response.ofReply o.method reply = some response := by
  unfold round hear at h
  dsimp only at h
  split at h
  · exact nomatch h
  · rename_i reply hsent
    split at h
    · exact nomatch h
    · exact ⟨reply, Network.mem_of_send hsent, ofReply_of_answer h⟩

/-- The response that a call comes to is made of a reply of the server. -/
theorem ofReply_of_send {response : Response} {url : Url}
    (h : (send origin hops o c).1 = .ok (response, url)) :
    ∃ reply ∈ c.network.replies, ∃ method, Response.ofReply method reply = some response := by
  induction hops using Nat.strongRecOn generalizing o c with
  | ind hops ih =>
    rcases send_cases origin hops o c with
      ⟨result, hround, hend⟩ | ⟨e, hend⟩ | ⟨n, status, next, rfl, -, -, hgo⟩
    · rw [hend] at h
      obtain rfl : result = .ok (response, url) := h
      obtain ⟨reply, hmem, hreply⟩ := ofReply_of_round hround
      exact ⟨reply, hmem, o.method, hreply⟩
    · rw [hend] at h
      exact nomatch h
    · rw [hgo] at h
      obtain ⟨reply, hmem, hreply⟩ := ih n (Nat.lt_succ_self n) h
      exact ⟨reply, Network.mem_of_mem_send hmem, hreply⟩

/-! ## Bodies in pieces -/

/-- What a call comes to, with the body in one piece. -/
def wholeResult (result : Except SendFault (Response × Url)) : Except SendFault (Response × Url) :=
  result.map fun found => (found.1.whole, found.2)

def Answer.whole : Answer → Answer
  | .final result => .final (wholeResult result)
  | .onward status next => .onward status next

theorem answerOf_whole (origin : Url) (o : Outgoing) (response : Option Response) :
    answerOf origin o (response.map Response.whole) = (answerOf origin o response).whole := by
  cases response with
  | none => rfl
  | some response =>
    have hlocation : location? o response.whole = location? o response := rfl
    simp only [Option.map_some, answerOf, hlocation]
    split <;> rfl

theorem hear_whole (origin : Url) (o : Outgoing) (spent allowed : Nat) (reply : Option Reply) :
    (hear origin o spent allowed (reply.map Reply.whole)).1.whole =
        (hear origin o spent allowed reply).1.whole ∧
      (hear origin o spent allowed (reply.map Reply.whole)).2 =
        (hear origin o spent allowed reply).2 := by
  cases reply with
  | none => exact ⟨rfl, rfl⟩
  | some reply =>
    have hdelay : reply.whole.delay = reply.delay := rfl
    simp only [Option.map_some, hear, hdelay]
    split
    · exact ⟨rfl, rfl⟩
    · refine ⟨?_, rfl⟩
      rw [← answerOf_whole, Response.ofReply_whole, answerOf_whole]

theorem round_whole (origin : Url) (o : Outgoing) (c : Connections) :
    (round origin o c.whole).1.whole = (round origin o c).1.whole ∧
      (round origin o c.whole).2 = (round origin o c).2.whole := by
  have hsend := c.network.send_whole (hostOf o) o.received
  have hheard := hear_whole origin o c.spent c.allowed (c.network.send (hostOf o) o.received).1
  simp only [round, Connections.whole, hsend]
  exact ⟨hheard.1, by rw [hheard.2]⟩

/-- A call comes to the same, and leaves the same behind, in whatever pieces bodies come. -/
theorem send_whole (origin : Url) (hops : Nat) (o : Outgoing) (c : Connections) :
    wholeResult (send origin hops o c.whole).1 = wholeResult (send origin hops o c).1 ∧
      (send origin hops o c.whole).2 = (send origin hops o c).2.whole := by
  induction hops using Nat.strongRecOn generalizing o c with
  | ind hops ih =>
    have hround := round_whole origin o c
    rw [send_eq, send_eq origin hops o c]
    generalize round origin o c.whole = found at hround ⊢
    generalize round origin o c = found' at hround ⊢
    obtain ⟨answer, after⟩ := found
    obtain ⟨answer', after'⟩ := found'
    obtain ⟨hanswer, rfl : after = after'.whole⟩ := hround
    match answer, answer', hanswer with
    | .final _, .final _, hanswer => exact ⟨Answer.final.inj hanswer, rfl⟩
    | .onward status next, .onward _ _, rfl =>
      cases hops with
      | zero => exact ⟨rfl, rfl⟩
      | succ hops =>
        dsimp only
        split
        · exact ih hops (Nat.lt_succ_self hops) _ _
        · exact ⟨rfl, rfl⟩

/-! ## Whole calls -/

/-- What becomes of a request: the response, and the connections as it leaves them. -/
def sent (s : Settings) (r : Request) (n : Network) :
    Except SendFault (Response × Url) × Connections :=
  send (Outgoing.ofRequest r).url maxRedirects (Outgoing.ofRequest r)
    { network := n, allowed := r.timeout.getD s.httpTimeout }

theorem sent_whole (s : Settings) (r : Request) (n : Network) :
    wholeResult (sent s r n.whole).1 = wholeResult (sent s r n).1 ∧
      (sent s r n.whole).2 = (sent s r n).2.whole :=
  send_whole _ _ _ { network := n, allowed := r.timeout.getD s.httpTimeout }

/-- Why a call fails that gets no response. -/
def sendFailure (r : Request) (e : SendFault) : Failure :=
  httpFailure s!"{r.method} {r.url.toText} failed: {e.message}"

/-- Why a call fails that gets no body. -/
def bodyFailure (s : Settings) : BodyFault → Failure
  | .tooLong =>
    let limit := s.maxFileSize
    httpFailure s!"response body exceeds the {limit} byte limit"
  | .broken => httpFailure "reading body failed: error decoding response body"

/-- What a call gives that gets a response. -/
def readResponse (s : Settings) (response : Response) (url : Url) : HostResult :=
  match Response.gather s.maxFileSize [] response.body with
  | .ok body => .ok (response.toJson url.toText body)
  | .error e => .error (.failure (bodyFailure s e))

/-- What a call gives in the end. -/
def conclude (s : Settings) (r : Request) : Except SendFault (Response × Url) → HostResult
  | .error e => .error (.failure (sendFailure r e))
  | .ok (response, url) => readResponse s response url

theorem run_exchange (hweb : isWeb r.url = true) :
    (exchange s r).run w =
      (conclude s r (sent s r w.network).1,
        { w with network := (sent s r w.network).2.network
                 spent := w.spent + (sent s r w.network).2.spent }) := by
  unfold exchange
  dsimp only
  rw [if_neg (by simp [hweb])]
  rw [HostAction.run_bind_get, HostAction.run_bind_modify, HostAction.pause,
    HostAction.run_bind_modify, ← sent]
  rcases (sent s r w.network).1 with e | ⟨response, url⟩
  · rfl
  · dsimp only [conclude, readResponse]
    rcases Response.gather s.maxFileSize [] response.body with (_ | _) | body <;> rfl

theorem run_exchange_of_not_web (hweb : isWeb r.url = false) :
    (exchange s r).run w =
      (.error (.failure (sendFailure r (.unusable (Outgoing.ofRequest r).url))), w) := by
  unfold exchange
  dsimp only
  rw [if_pos (by simp [hweb]), HostAction.run_bind_fail]
  rfl

theorem run_ofOptions (h : Request.ofOptions options = .ok r) :
    (run s options).run w = (exchange s r).run w := by
  rw [run, HostAction.run_bind_ofExcept, h]

theorem run_refused {f : Failure} (h : Request.ofOptions options = .error f) :
    (run s options).run w = (.error (.failure f), w) := by
  rw [run, HostAction.run_bind_ofExcept, h]

end HttpClient

end ScriptSandbox
