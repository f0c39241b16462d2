import ScriptSandbox.Proofs.Host.Documents
import ScriptSandbox.Proofs.Host.Results
import ScriptSandbox.Proofs.Text.Base64

/-!
# Texts and files in Base64

What a text is encoded as is decoded as the text, also with blanks around it. A text is decoded only
if it is what some bytes are encoded as, but for the blanks around it, and these bytes are the ones it
is decoded to. They are given as a text, so nothing of them is lost exactly if they are those of a
text. It is the same with files that are read: in Base64 any bytes come through, and as a text those
of a text.
-/

namespace ScriptSandbox.Encodings

open FileAccess HostAction

variable {s : Settings} {args : Arguments} {w : Surroundings} {path text : String} {bytes : Bytes}

/-- The answer with the code of a text. -/
def encoded (code : String) : Json := successWith [("result", .str code)]

theorem encoded_injective : Function.Injective encoded := fun code code' h => by
  have hcode (code : String) : (encoded code).field? "result" = some (.str code) :=
    (Json.lookup_insertField_of_ne (by decide)).trans Json.lookup_insertField_self
  have hsame := congrArg (·.field? "result") h
  rw [hcode, hcode] at hsame
  exact Json.str.inj (Option.some.inj hsame)

/-- The answer with a text and the number of bytes it is decoded from. -/
def decoded (text : String) (count : Nat) : Json :=
  successWith [("result", .str text), ("bytes", .nat count)]

/-- The answer with what is in a file. -/
def content (path text : String) (size : Nat) : Json :=
  successWith [("path", .str path), ("content", .str text), ("size", .nat size)]

/-- The way in which the arguments ask for the content of a file. -/
def asked (args : Arguments) : Except Failure Encoding :=
  Encoding.ofName ((args.optionalText 1).getD "utf8")

theorem run_base64Encode (s : Settings) (text : String) (w : Surroundings) :
    (HostFunction.base64Encode.action s [.str text]).run w =
      (.ok (encoded (Base64.encodeText (Utf8.encode text))), w) := rfl

theorem run_base64Decode (s : Settings) (text : String) (w : Surroundings) :
    (HostFunction.base64Decode.action s [.str text]).run w =
      match Base64.decodeText (Text.trim text) with
      | .ok bytes => (.ok (decoded (Utf8.decodeLossy bytes) bytes.length), w)
      | .error e => (.error (.failure (.invalidInput s!"invalid base64: {e.message}")), w) := by
  have htext : Arguments.requireAnyText [.str text] 0 "text" = .ok text := rfl
  change (Utilities.base64Decode [.str text]).run w = _
  unfold Utilities.base64Decode
  rw [run_bind_ofExcept, htext]
  dsimp only
  cases Base64.decodeText (Text.trim text) <;> rfl

theorem run_readFile {encoding : Encoding} (h : Documents.Readable s args w path bytes)
    (hasked : asked args = .ok encoding) : ∃ n, w.files.size path = .ok n ∧
      (HostFunction.readFile.action s args).run w =
        (.ok (content path (encoding.decode bytes) n), w) := by
  obtain ⟨n, -, hsize, hrun⟩ := h.run_gated .filesystem _
  refine ⟨n, hsize, (Gate.run_readFile s args w).trans (hrun.trans ?_)⟩
  rw [run_bind_ofExcept, show Encoding.ofName _ = _ from hasked]
  rfl

/-- Base64 is exact both ways, whatever the settings and the surroundings:

* what a text is encoded as is decoded as the text, also with blanks around it, and as many bytes are
  counted as the text has in UTF-8;
* if a text is, but for blanks around it, what some bytes are encoded as, it is decoded, and these
  bytes are counted. If they are those of a text, encoding what has been decoded gives the text
  without the blanks. If not, what has been decoded has a replacement character, and is encoded as
  something else;
* any other text is a usage error;
* a file that may be read comes in Base64 as a text that is decoded to its bytes, and as a text that
  has its bytes exactly if they are those of a text. -/
theorem base64_exact (s : Settings) (w : Surroundings) :
    (∀ (text : String) (before after : List Char), (∀ c ∈ before, Text.isBlank c = true) →
      (∀ c ∈ after, Text.isBlank c = true) →
      ∃ code, (HostFunction.base64Encode.action s [.str text]).run w = (.ok (encoded code), w) ∧
        (HostFunction.base64Decode.action s
            [.str (String.ofList before ++ code ++ String.ofList after)]).run w =
          (.ok (decoded text text.utf8ByteSize), w)) ∧
    (∀ (text : String) (bytes : Bytes), Text.trim text = Base64.encodeText bytes →
      ∃ result,
        (HostFunction.base64Decode.action s [.str text]).run w =
          (.ok (decoded result bytes.length), w) ∧
        (Utf8.IsText bytes → Utf8.encode result = bytes ∧
          (HostFunction.base64Encode.action s [.str result]).run w =
            (.ok (encoded (Text.trim text)), w)) ∧
        (¬ Utf8.IsText bytes → Char.ofNat 0xFFFD ∈ result.toList ∧
          (HostFunction.base64Encode.action s [.str result]).run w ≠
            (.ok (encoded (Text.trim text)), w))) ∧
    (∀ text : String, (∀ bytes, Text.trim text ≠ Base64.encodeText bytes) →
      ∃ message, (HostFunction.base64Decode.action s [.str text]).run w =
        (.error (.failure (.invalidInput message)), w)) ∧
    ∀ (args : Arguments) (path : String) (bytes : Bytes), Documents.Readable s args w path bytes →
      (asked args = .ok .base64 → ∃ text n,
        (HostFunction.readFile.action s args).run w = (.ok (content path text n), w) ∧
          Base64.decodeText text = .ok bytes) ∧
      (asked args = .ok .text → ∃ text n,
        (HostFunction.readFile.action s args).run w = (.ok (content path text n), w) ∧
          (Utf8.encode text = bytes ↔ Utf8.IsText bytes)) := by
  refine ⟨fun text before after hbefore hafter => ?_, fun text bytes htext => ?_,
    fun text hother => ?_, fun args path bytes hfile => ⟨fun hasked => ?_, fun hasked => ?_⟩⟩
  · refine ⟨_, run_base64Encode s text w, ?_⟩
    rw [run_base64Decode, Base64.trim_encodeText hbefore hafter, Base64.decodeText_eq_ok_iff.2 rfl]
    dsimp only
    rw [Utf8.decodeLossy_encode, Utf8.length_encode]
  · refine ⟨Utf8.decodeLossy bytes, ?_, fun hvalid => ?_, fun hvalid => ?_⟩
    · rw [run_base64Decode, Base64.decodeText_eq_ok_iff.2 htext]
    · have hsame := Utf8.encode_decodeLossy_iff.2 hvalid
      exact ⟨hsame, by rw [run_base64Encode, hsame, htext]⟩
    · refine ⟨Utf8.replaced_of_not_isText hvalid, ?_⟩
      rw [run_base64Encode, htext]
      intro h
      have hcode := encoded_injective (Except.ok.inj (Prod.mk.inj h).1)
      exact hvalid (Utf8.encode_decodeLossy_iff.1 (Base64.encodeText_injective hcode))
  · rw [run_base64Decode]
    cases hcode : Base64.decodeText (Text.trim text) with
    | ok bytes => exact absurd (Base64.decodeText_eq_ok_iff.1 hcode) (hother bytes)
    | error e => exact ⟨_, rfl⟩
  · obtain ⟨n, -, hrun⟩ := run_readFile hfile hasked
    exact ⟨_, n, hrun, Base64.decodeText_eq_ok_iff.2 rfl⟩
  · obtain ⟨n, -, hrun⟩ := run_readFile hfile hasked
    exact ⟨_, n, hrun, Utf8.encode_decodeLossy_iff⟩

/-- A file with a letter in another encoding than UTF-8. -/
def note : Surroundings := Documents.Kept.start "a.txt" [0xFC]

theorem readable_note {args : Arguments} (h : args.requireText 0 "path" = .ok "a.txt") :
    Documents.Readable {} args note "a.txt" [0xFC] :=
  Documents.Kept.readable ⟨by decide, by decide, by decide⟩ ⟨by decide, by decide, by decide⟩ h
    (by decide) (by decide)

/-- A text goes there and back, a code without its padding is refused, and a file that is no text
comes whole in Base64 only. -/
theorem base64_exact_note :
    (∃ code, (HostFunction.base64Encode.action {} [.str "Bücher"]).run note =
        (.ok (encoded code), note) ∧
      (HostFunction.base64Decode.action {}
          [.str (String.ofList [' '] ++ code ++ String.ofList ['\n'])]).run note =
        (.ok (decoded "Bücher" 7), note)) ∧
    (∃ message, (HostFunction.base64Decode.action {} [.str "QQ"]).run note =
      (.error (.failure (.invalidInput message)), note)) ∧
    (∃ text n, (HostFunction.readFile.action {} [.str "a.txt", .str "base64"]).run note =
        (.ok (content "a.txt" text n), note) ∧
      Base64.decodeText text = .ok [0xFC]) ∧
    ∃ text n, (HostFunction.readFile.action {} [.str "a.txt"]).run note =
        (.ok (content "a.txt" text n), note) ∧
      Utf8.encode text ≠ [0xFC] := by
  obtain ⟨htexts, -, hothers, hfiles⟩ := base64_exact {} note
  refine ⟨htexts "Bücher" [' '] ['\n'] (List.forall_mem_singleton.2 (by decide))
      (List.forall_mem_singleton.2 (by decide)), hothers "QQ" fun bytes h => ?_,
    (hfiles _ _ _ (readable_note (by decide))).1 (by decide), ?_⟩
  · have hcode : Base64.decodeText (Text.trim "QQ") = .error .padding := by decide
    rw [Base64.decodeText_eq_ok_iff.2 h] at hcode
    cases hcode
  · obtain ⟨text, n, hrun, hsame⟩ :=
      (hfiles [.str "a.txt"] _ _ (readable_note (by decide))).2 (by decide)
    refine ⟨text, n, hrun, fun h => ?_⟩
    obtain ⟨c, rest, hnext, -⟩ := Utf8.isText_cons_iff.1 (hsame.1 h)
    cases hnext

end ScriptSandbox.Encodings
