import ScriptSandbox.Proofs.Host.Results
import ScriptSandbox.Proofs.Http.Sending

/-!
# What a call makes of a response

A guest gets the text of a whole body, what is read of it where the type that it is shown tells of
JSON, and whether the status is a success (`Json.Reports`). The pieces in which the body comes have
no say in that, nor in whether the body is too long (`HttpClient.body_in_pieces`). The type of a
response that has other characters than ASCII is not shown, and its body is not read
(`not_every_body_read`).
-/

namespace ScriptSandbox

/-! ## What a report says -/

/-- The report shows a type of content that tells of JSON. -/
def Json.ShowsJson (v : Json) : Prop :=
  ∃ type, (v.field? "headers").bind (·.field? "content-type") = some (.str type) ∧
    "json".toList <:+: type.toList

/-- What is read of a body as JSON, null if it is none. -/
def Json.ofBody (body : Bytes) : Json :=
  ((Json.read (Utf8.encode (Utf8.decodeLossy body))).toOption).getD .null

/-- The value tells of a response from an address, with this body. -/
structure Json.Reports (v : Json) (response : Response) (url : Url) (body : Bytes) : Prop where
  status : v.field? "status" = some (.nat response.status)
  url : v.field? "url" = some (.str url.toText)
  text : v.field? "body" = some (.str (Utf8.decodeLossy body))
  read : v.ShowsJson → v.field? "json" = some (.ofBody body)
  unread : ¬ v.ShowsJson → v.field? "json" = some .null
  success : v.field? "success" =
    some (.bool (decide (200 ≤ response.status ∧ response.status < 300)))

namespace Response

variable {r : Response} {url : String} {body : Bytes} {key : String}

theorem hasSubtext_iff (part cs : List Char) : hasSubtext part cs = true ↔ part <:+: cs := by
  induction cs with
  | nil => simp [hasSubtext]
  | cons c cs ih => rw [hasSubtext, Bool.or_eq_true, ih, List.isPrefixOf_iff_prefix,
      List.infix_cons_iff]

/-- The fields that every report has. -/
def reported (r : Response) (url : String) (body : Bytes) : List (String × Json) :=
  [("status", .nat r.status), ("status_text", .str (Status.phrase r.status)), ("url", .str url),
    ("headers", r.shownHeaders), ("body", .str (Utf8.decodeLossy body)),
    ("json", if r.isJson then .ofBody body else .null)]

theorem field?_reported (r : Response) (url : String) (body : Bytes) (hsuccess : key ≠ "success")
    (herror : key ≠ "error") (hcode : key ≠ "code") :
    (r.toJson url body).field? key = (r.reported url body).reverse.lookup key := by
  have hfields (fields : List (String × Json)) : (successWith fields).field? key =
      (Json.object fields).field? key := Json.lookup_insertField_of_ne hsuccess
  have hreport : r.toJson url body =
      if Status.isSuccess r.status then successWith (r.reported url body)
      else .object (r.reported url body ++ [("success", .bool false),
        ("error", .str (statusFailure r.status).message), ("code", .str Code.http.name)]) := rfl
  rw [hreport]
  split
  · rw [hfields, Json.field?_object]
  · rw [Json.field?_object, List.reverse_append]
    exact (Json.lookup_cons_of_ne hcode).trans
      ((Json.lookup_cons_of_ne herror).trans (Json.lookup_cons_of_ne hsuccess))

theorem lookup_map (f : String → Json) (key : String) (hs : Headers) :
    (hs.map fun h => (h.1, f h.2)).lookup key = (hs.lookup key).map f := by
  induction hs with
  | nil => rfl
  | cons h hs ih =>
    rw [List.map_cons, List.lookup_cons, List.lookup_cons, ih]
    split <;> rfl

theorem field?_contentType (r : Response) :
    r.shownHeaders.field? "content-type" =
      (r.header? "content-type").map fun type => .str (shownValue type) := by
  rw [shownHeaders, Json.field?_object, ← List.map_reverse,
    lookup_map fun value => .str (shownValue value)]
  rfl

theorem showsJson_iff : (r.toJson url body).ShowsJson ↔ r.isJson = true := by
  have hheaders : (r.toJson url body).field? "headers" = some r.shownHeaders :=
    (field?_reported r url body (by decide) (by decide) (by decide)).trans rfl
  unfold Json.ShowsJson isJson
  rw [hheaders, Option.bind_some, field?_contentType]
  cases r.header? "content-type" with
  | none => simp
  | some type => simp [hasSubtext_iff]

theorem field?_success (r : Response) (url : String) (body : Bytes) :
    (r.toJson url body).field? "success" = some (.bool (Status.isSuccess r.status)) := by
  have htells := r.tells url body
  split at htells
  · rename_i hsuccess
    rw [hsuccess]
    exact htells
  · rename_i hsuccess
    rw [eq_false_of_ne_true hsuccess]
    exact htells.1

theorem reports (r : Response) (url : Url) (body : Bytes) :
    (r.toJson url.toText body).Reports r url body := by
  have hfield (key : String) (h : key ∈ ["status", "url", "body", "json"]) :
      (r.toJson url.toText body).field? key = (r.reported url.toText body).reverse.lookup key :=
    field?_reported r url.toText body (by rintro rfl; simp at h) (by rintro rfl; simp at h)
      (by rintro rfl; simp at h)
  refine ⟨hfield "status" (by simp), hfield "url" (by simp), hfield "body" (by simp),
    fun h => ?_, fun h => ?_, ?_⟩
  · rw [hfield "json" (by simp)]
    simp [reported, showsJson_iff.1 h]
  · rw [hfield "json" (by simp)]
    simp [reported, mt showsJson_iff.2 h]
  · rw [field?_success, Status.isSuccess, Bool.decide_and]

end Response

namespace HttpClient

open Response

variable {s : Settings} {options : List (String × Json)} {w : Surroundings} {response : Response}
  {url : Url}

/-! ## What a call gives -/

/-- The response that a call comes to, and its address; none if it gets none. -/
def response? (s : Settings) (options : List (String × Json)) (n : Network) :
    Option (Response × Url) :=
  match Request.ofOptions options with
  | .ok r => if isWeb r.url then (sent s r n).1.toOption else none
  | .error _ => none

/-- A call that comes to a response has sent a request and reads what it got. -/
theorem run_of_response (h : response? s options w.network = some (response, url)) :
    ((run s options).run w).1 = readResponse s response url ∧
      ∃ reply ∈ w.network.replies, ∃ method, ofReply method reply = some response := by
  unfold response? at h
  split at h
  · rename_i r hr
    split at h
    · rename_i hweb
      have hsent : (sent s r w.network).1 = .ok (response, url) := by
        cases hcase : (sent s r w.network).1 with
        | error e => simp [hcase, Except.toOption] at h
        | ok found => simpa [hcase, Except.toOption] using h
      refine ⟨?_, ofReply_of_send hsent⟩
      rw [run_ofOptions hr, run_exchange hweb, hsent]
      rfl
    · exact nomatch h
  · exact nomatch h

theorem conclude_whole (s : Settings) (r : Request) (result : Except SendFault (Response × Url)) :
    conclude s r (wholeResult result) = conclude s r result := by
  cases result with
  | error e => rfl
  | ok found =>
    show readResponse s found.1.whole found.2 = readResponse s found.1 found.2
    rw [readResponse, readResponse, gather_whole]
    rfl

/-- A call gives the same, and leaves the same behind, in whatever pieces bodies come. -/
theorem run_whole (s : Settings) (options : List (String × Json)) (w : Surroundings) :
    ((run s options).run w.whole).1 = ((run s options).run w).1 ∧
      ((run s options).run w.whole).2 = ((run s options).run w).2.whole := by
  cases hr : Request.ofOptions options with
  | error f =>
    rw [run_refused hr, run_refused hr]
    exact ⟨rfl, rfl⟩
  | ok r =>
    rw [run_ofOptions hr, run_ofOptions hr]
    by_cases hweb : isWeb r.url = true
    · obtain ⟨hresult, hleft⟩ := sent_whole s r w.network
      rw [run_exchange hweb, run_exchange hweb]
      exact ⟨by rw [← conclude_whole, Surroundings.whole, hresult, conclude_whole],
        by simp only [Surroundings.whole, hleft]; rfl⟩
    · rw [run_exchange_of_not_web (eq_false_of_ne_true hweb),
        run_exchange_of_not_web (eq_false_of_ne_true hweb)]
      exact ⟨rfl, rfl⟩

theorem readResponse_tooLong (h : s.maxFileSize < (joined response.body).length) :
    readResponse s response url = .error (.failure (bodyFailure s .tooLong)) := by
  rw [readResponse, gather_eq, if_pos h]

theorem readResponse_broken (hfits : (joined response.body).length ≤ s.maxFileSize)
    (hbroken : .broken ∈ response.body) :
    readResponse s response url = .error (.failure (bodyFailure s .broken)) := by
  rw [readResponse, gather_eq, if_neg (Nat.not_lt.2 hfits), if_pos hbroken]

theorem readResponse_ok (hfits : (joined response.body).length ≤ s.maxFileSize)
    (hunbroken : .broken ∉ response.body) :
    readResponse s response url = .ok (response.toJson url.toText (joined response.body)) := by
  rw [readResponse, gather_eq, if_neg (Nat.not_lt.2 hfits), if_neg hunbroken]

/-- The pieces in which bodies come have no say:

* a call gives the same, and leaves the same behind, as if every body came in one piece; and a body
  may come in any pieces;
* the response that a call comes to has the body that the server sent, as far as it came;
* of a body that is too long, and of one that ends before its time, the call gives an error and
  nothing else; of every other it gives a report on the whole of it;
* never more is kept of a body than the limit, and what is kept so far and what is still to come
  decide the rest. -/
theorem body_in_pieces (s : Settings) (options : List (String × Json)) (w : Surroundings) :
    (((run s options).run w.whole).1 = ((run s options).run w).1 ∧
      ((run s options).run w.whole).2 = ((run s options).run w).2.whole) ∧
    (∀ chunks : List Bytes, chunks ≠ [] → ∃ cuts, cut cuts chunks.flatten = chunks) ∧
    ∀ (response : Response) (url : Url), response? s options w.network = some (response, url) →
      (∃ reply ∈ w.network.replies, ∃ method,
        joined response.body =
          (if mayHaveBody method response.status then reply.body.take reply.length else []) ∧
        (.broken ∈ response.body ↔
          mayHaveBody method response.status = true ∧ reply.body.length < reply.length)) ∧
      (s.maxFileSize < (joined response.body).length →
        ((run s options).run w).1 = .error (.failure (bodyFailure s .tooLong))) ∧
      ((joined response.body).length ≤ s.maxFileSize → .broken ∈ response.body →
        ((run s options).run w).1 = .error (.failure (bodyFailure s .broken))) ∧
      ((joined response.body).length ≤ s.maxFileSize → .broken ∉ response.body →
        ∃ v, ((run s options).run w).1 = .ok v ∧ v.Reports response url (joined response.body)) ∧
      ∀ (front rest : List BodyPiece) (kept : Bytes), response.body = front ++ rest →
        gather s.maxFileSize [] front = .ok kept →
        kept.length ≤ s.maxFileSize ∧
          gather s.maxFileSize [] response.body = gather s.maxFileSize kept rest := by
  refine ⟨run_whole s options w, fun chunks h => exists_cut h, fun response url h => ?_⟩
  obtain ⟨hrun, reply, hmem, method, hreply⟩ := run_of_response h
  rw [hrun]
  refine ⟨⟨reply, hmem, method, body_of_ofReply hreply⟩, readResponse_tooLong,
    readResponse_broken, fun hfits hunbroken =>
      ⟨_, readResponse_ok hfits hunbroken, response.reports url _⟩,
    fun front rest kept hbody hkept => ⟨length_le_of_gather (Nat.zero_le _) hkept, ?_⟩⟩
  rw [hbody, gather_append, hkept]

/-! ## Two replies -/

/-- One server, that gives one reply. -/
def serving (reply : Reply) : Surroundings :=
  { files := ⟨[]⟩, network := { host := "a", replies := [reply] } }

/-- A text of one character in quotes, cut within the character, after a piece without bytes. -/
def torn : Reply :=
  { status := "201 Created", headers := [("Content-Type", "application/json")]
    body := [0x22, 0xc3, 0xa9, 0x22], length := 4, cuts := [0, 2] }

/-- A body whose type has a parameter with a character that is not ASCII. -/
def titled : Reply :=
  { status := "200 OK", headers := [("Content-Type", "application/json; title=\"é\"")], body := [0x31]
    length := 1 }

theorem body_in_pieces_torn :
    ∃ response url, response? {} [("url", .str "http://a/")] (serving torn).network =
        some (response, url) ∧
      response.body = [.data [], .data [0x22, 0xc3], .data [0xa9, 0x22]] ∧
      ((joined response.body).length ≤ ({} : Settings).maxFileSize ∧ .broken ∉ response.body) ∧
      ∃ v, ((run {} [("url", .str "http://a/")]).run (serving torn)).1 = .ok v ∧
        v.field? "body" = some (.str "\"é\"") ∧ v.field? "json" = some (.str "é") := by
  have hsome : (response? {} [("url", .str "http://a/")] (serving torn).network).isSome = true := by
    decide +kernel
  obtain ⟨⟨response, url⟩, hfound⟩ := Option.isSome_iff_exists.1 hsome
  have hmap : (response? {} [("url", .str "http://a/")] (serving torn).network).map (·.1.body) =
      some [.data [], .data [0x22, 0xc3], .data [0xa9, 0x22]] := by decide +kernel
  have hbody : response.body = [.data [], .data [0x22, 0xc3], .data [0xa9, 0x22]] := by
    rw [hfound] at hmap
    exact Option.some.inj hmap
  have hfits : (joined response.body).length ≤ ({} : Settings).maxFileSize ∧
      .broken ∉ response.body := by
    rw [hbody]
    decide
  obtain ⟨v, hrun, hreport⟩ :=
    ((body_in_pieces {} _ (serving torn)).2.2 response url hfound).2.2.2.1 hfits.1 hfits.2
  have hjson : ((run {} [("url", .str "http://a/")]).run (serving torn)).1.toOption.bind
      (·.field? "json") = some (.str "é") := by decide +kernel
  rw [hrun] at hjson
  refine ⟨response, url, hfound, hbody, hfits, v, hrun, ?_, hjson⟩
  rw [hreport.text, hbody]
  decide +kernel

/-- Not every body is read whose type tells of JSON. -/
theorem not_every_body_read : ¬ ∀ (s : Settings) (options : List (String × Json))
    (w : Surroundings) (response : Response) (url : Url) (type : String) (v : Json),
    response? s options w.network = some (response, url) →
    response.header? "content-type" = some type → "json".toList <:+: type.toList →
    ((run s options).run w).1 = .ok v →
    v.field? "json" = some (.ofBody (joined response.body)) := by
  intro h
  have hsome : (response? {} [("url", .str "http://a/")] (serving titled).network).isSome =
      true := by decide +kernel
  obtain ⟨⟨response, url⟩, hfound⟩ := Option.isSome_iff_exists.1 hsome
  have hparts : (response? {} [("url", .str "http://a/")] (serving titled).network).map
      (fun found => (found.1.header? "content-type", found.1.body)) =
      some (some "application/json; title=\"é\"", [.data [0x31]]) := by decide +kernel
  rw [hfound] at hparts
  obtain ⟨htype, hbody⟩ := Prod.mk.inj (Option.some.inj hparts)
  have hinfix : "json".toList <:+: "application/json; title=\"é\"".toList :=
    (hasSubtext_iff _ _).1 (by decide +kernel)
  have hjson : ((run {} [("url", .str "http://a/")]).run (serving titled)).1.toOption.bind
      (·.field? "json") = some .null := by decide +kernel
  cases hrun : ((run {} [("url", .str "http://a/")]).run (serving titled)).1 with
  | error e => simp [hrun, Except.toOption] at hjson
  | ok v =>
    rw [hrun] at hjson
    have hread := h {} _ (serving titled) response url _ v hfound htype hinfix hrun
    rw [show v.field? "json" = some .null from hjson, hbody] at hread
    have hone : Json.ofBody (joined [.data [0x31]]) = .nat 1 := by decide +kernel
    rw [hone] at hread
    exact nomatch hread

end HttpClient

end ScriptSandbox
