import Mathlib.Data.List.Find
import ScriptSandbox.Files.Kind
import ScriptSandbox.Proofs.Text.Cut

/-!
# The kinds of texts

The known first bytes of files come before everything else (`sniff_eq`). They are in the first 26
bytes, so they do not depend on where a longer text is cut off (`ofMagic?_take`). Without them, and
without a NUL, a file is binary exactly when no text begins with its bytes, and otherwise of a kind
of text. A text is of the same kind when its last character is cut (`sniff_window`).
-/

namespace ScriptSandbox.FileKind

variable {bytes a p : Bytes} {cs : List Char}

/-! ## First bytes -/

/-- The kind that the first bytes tell, where they are known. -/
def ofMagic? (bytes : Bytes) : Option FileKind :=
  if isWebp bytes then some webp
  else if isBmp bytes then some bmp
  else (signatures.find? fun s => s.1.isPrefixOf bytes).map Prod.snd

/-- The kind of bytes that do not begin with known ones. -/
def ofContent (bytes : Bytes) : FileKind :=
  if bytes.contains 0 || (Utf8.decodePartial bytes).2 = some .invalid then binary
  else ofText (Utf8.decodePartial bytes).1

theorem sniff_eq (bytes : Bytes) : sniff bytes = (ofMagic? bytes).getD (ofContent bytes) := by
  unfold sniff ofMagic? ofContent
  split
  · rfl
  · split
    · rfl
    · cases signatures.find? fun s => s.1.isPrefixOf bytes with
      | some s => rfl
      | none =>
        rcases Utf8.decodePartial bytes with ⟨cs, stop⟩
        cases bytes.contains 0 with
        | true => rfl
        | false => rcases stop with _ | (_ | _ | _) <;> rfl

/-- The first bytes are none of the known ones. -/
structure NoMagic (bytes : Bytes) : Prop where
  webp : isWebp bytes = false
  bmp : isBmp bytes = false
  signature : ∀ s ∈ signatures, ¬ s.1 <+: bytes

theorem ofMagic?_eq_none_iff : ofMagic? bytes = none ↔ NoMagic bytes := by
  have hfind : (signatures.find? fun s => s.1.isPrefixOf bytes) = none ↔
      ∀ s ∈ signatures, ¬ s.1 <+: bytes := by
    simp only [List.find?_eq_none, List.isPrefixOf_iff_prefix]
  unfold ofMagic?
  constructor
  · intro h
    split at h
    · cases h
    · split at h
      · cases h
      · exact ⟨Bool.eq_false_iff.2 ‹_›, Bool.eq_false_iff.2 ‹_›, hfind.1 (Option.map_eq_none_iff.1 h)⟩
  · intro h
    rw [h.webp, h.bmp, hfind.2 h.signature]
    rfl

/-- Known first bytes tell no binary file. -/
theorem ne_binary_of_magic {kind : FileKind} (h : ofMagic? bytes = some kind) : kind ≠ binary := by
  have hall : ∀ s ∈ signatures, s.2 ≠ binary := by decide
  unfold ofMagic? at h
  split at h
  · obtain rfl := Option.some.inj h
    decide
  · split at h
    · obtain rfl := Option.some.inj h
      decide
    · obtain ⟨s, hs, rfl⟩ := Option.map_eq_some_iff.1 h
      exact hall s (List.mem_of_find?_eq_some hs)

/-- `RIFF`, four bytes and `WEBP`. -/
def IsRiffWebp (bytes : Bytes) : Prop :=
  ∃ size rest, size.length = 4 ∧
    bytes = Utf8.encode "RIFF" ++ (size ++ (Utf8.encode "WEBP" ++ rest))

theorem isWebp_iff : isWebp bytes = true ↔ IsRiffWebp bytes := by
  unfold isWebp
  rw [Bool.and_eq_true, beq_iff_eq, beq_iff_eq]
  constructor
  · rintro ⟨hriff, hwebp⟩
    have hlength : ((bytes.drop 8).take 4).length = 4 := congrArg List.length hwebp
    rw [List.length_take, List.length_drop] at hlength
    refine ⟨(bytes.drop 4).take 4, bytes.drop 12, ?_, ?_⟩
    · rw [List.length_take, List.length_drop]
      omega
    · have hdrop : ∀ n, bytes.drop n = (bytes.drop n).take 4 ++ bytes.drop (n + 4) := fun n => by
        rw [← List.drop_drop, List.take_append_drop]
      rw [← hriff, ← hwebp, ← hdrop 8, ← hdrop 4, List.take_append_drop]
  · rintro ⟨size, rest, hsize, rfl⟩
    obtain ⟨a, b, c, d, rfl⟩ : ∃ a b c d, size = [a, b, c, d] := by
      match size, hsize with
      | [a, b, c, d], _ => exact ⟨a, b, c, d, rfl⟩
    exact ⟨rfl, rfl⟩

/-- Where there is no NUL, any information header will do. -/
theorem isBmp_iff (h0 : 0 ∉ bytes) :
    isBmp bytes = true ↔ Utf8.encode "BM" <+: bytes ∧ 26 ≤ bytes.length := by
  have hprefix : bytes.take 2 = Utf8.encode "BM" ↔ Utf8.encode "BM" <+: bytes := by
    rw [List.prefix_iff_eq_take, eq_comm]
    rfl
  unfold isBmp
  rw [Bool.and_eq_true, Bool.and_eq_true, beq_iff_eq, decide_eq_true_eq, hprefix]
  constructor
  · rintro ⟨⟨hlength, hbm⟩, -⟩
    exact ⟨hbm, hlength⟩
  · rintro ⟨hbm, hlength⟩
    refine ⟨⟨hlength, hbm⟩, ?_⟩
    have hin : 14 < bytes.length := by omega
    rw [List.drop_eq_getElem_cons hin, List.take_succ_cons, List.any_cons, Bool.or_eq_true]
    exact .inl (bne_iff_ne.2 fun h => h0 (h ▸ List.getElem_mem hin))

/-! ## What the first bytes look at -/

theorem isWebp_append (h : 12 ≤ a.length) : isWebp (a ++ p) = isWebp a := by
  have hdrop : 4 ≤ (a.drop 8).length := by
    rw [List.length_drop]
    omega
  unfold isWebp
  rw [List.take_append_of_le_length (by omega), List.drop_append_of_le_length (by omega),
    List.take_append_of_le_length hdrop]

theorem isBmp_append (h : 26 ≤ a.length) : isBmp (a ++ p) = isBmp a := by
  have hdrop : 4 ≤ (a.drop 14).length := by
    rw [List.length_drop]
    omega
  have hlength : 26 ≤ (a ++ p).length := by
    rw [List.length_append]
    omega
  unfold isBmp
  rw [List.take_append_of_le_length (by omega), List.drop_append_of_le_length (by omega),
    List.take_append_of_le_length hdrop, decide_eq_true h, decide_eq_true hlength]

theorem signature_append (h : 8 ≤ a.length) {s : Bytes × FileKind} (hs : s ∈ signatures) :
    s.1.isPrefixOf (a ++ p) = s.1.isPrefixOf a := by
  have hlength : ∀ s ∈ signatures, s.1.length ≤ 8 := by decide
  rw [Bool.eq_iff_iff, List.isPrefixOf_iff_prefix, List.isPrefixOf_iff_prefix]
  exact ⟨fun hp => List.prefix_of_prefix_length_le hp (List.prefix_append a p)
    (Nat.le_trans (hlength s hs) h), fun ha => ha.trans (List.prefix_append a p)⟩

theorem ofMagic?_append (h : 26 ≤ a.length) : ofMagic? (a ++ p) = ofMagic? a := by
  have hfind : (signatures.find? fun s => s.1.isPrefixOf (a ++ p)) =
      signatures.find? fun s => s.1.isPrefixOf a :=
    List.find?_congr fun s hs => signature_append (by omega) hs
  unfold ofMagic?
  rw [isWebp_append (by omega), isBmp_append h, hfind]

theorem ofMagic?_take {n : Nat} (h : 26 ≤ n) (bytes : Bytes) :
    ofMagic? (bytes.take n) = ofMagic? bytes := by
  by_cases hn : bytes.length ≤ n
  · rw [List.take_of_length_le hn]
  · conv => rhs; rw [← List.take_append_drop n bytes]
    refine (ofMagic?_append ?_).symm
    rw [List.length_take]
    omega

/-! ## Texts -/

/-- A kind of text, or HTML. -/
def IsText (kind : FileKind) : Prop := kind.category = .text ∨ kind = html

theorem ofText_cases (cs : List Char) : ofText cs = html ∨ ofText cs = json ∨ ofText cs = text := by
  unfold ofText
  dsimp only
  split
  · exact .inl rfl
  · split
    · exact .inr (.inl rfl)
    · exact .inr (.inr rfl)

theorem isText_ofText (cs : List Char) : IsText (ofText cs) := by
  rcases ofText_cases cs with h | h | h <;> rw [h]
  · exact .inr rfl
  · exact .inl rfl
  · exact .inl rfl

theorem IsText.ne_binary {kind : FileKind} (h : IsText kind) : kind ≠ binary := by
  rintro rfl
  rcases h with h | h <;> exact absurd h (by decide)

theorem contains_eq_false (h0 : 0 ∉ bytes) : bytes.contains 0 = false := by
  rw [← Bool.not_eq_true, List.contains_iff_mem]
  exact h0

/-- What is left of a text that is cut off is of the kind of its whole characters. -/
theorem ofContent_take (h0 : 0 ∉ Utf8.encodeChars cs) (n : Nat) :
    ofContent ((Utf8.encodeChars cs).take n) = ofText (Utf8.fitting n cs) := by
  obtain ⟨hchars, hvalid⟩ := Utf8.decodePartial_take n cs
  unfold ofContent
  rw [contains_eq_false fun h => h0 (List.mem_of_mem_take h), hchars, decide_eq_false hvalid]
  rfl

theorem ofContent_encodeChars (h0 : 0 ∉ Utf8.encodeChars cs) :
    ofContent (Utf8.encodeChars cs) = ofText cs := by
  have h := ofContent_take h0 (Utf8.encodeChars cs).length
  rwa [List.take_length, Utf8.fitting_of_le (Nat.le_refl _)] at h

/-- A text that is cut off behind its first bytes begins with known bytes as its whole characters
do. -/
theorem ofMagic?_fitting {n : Nat} (h : 29 ≤ n) (cs : List Char) :
    ofMagic? ((Utf8.encodeChars cs).take n) = ofMagic? (Utf8.encodeChars (Utf8.fitting n cs)) := by
  by_cases hn : (Utf8.encodeChars cs).length ≤ n
  · rw [List.take_of_length_le hn, Utf8.fitting_of_le hn]
  · have hlength := Utf8.lt_length_fitting (Nat.not_le.1 hn)
    obtain ⟨p, hp, -⟩ := Utf8.take_encodeChars n cs
    rw [hp, ofMagic?_append (by omega)]

/-- The first bytes of a text without a NUL are never binary, wherever they end, and of the same kind
as the characters of which they have all bytes. Other bytes without a NUL, if they do not begin with
known ones, are binary exactly when no text begins with them. -/
theorem sniff_window :
    (∀ text : String, 0 ∉ Utf8.encode text →
      sniff ((Utf8.encode text).take window) ≠ binary ∧
      ∃ whole, Utf8.WholeWithin window text.toList whole ∧
        sniff ((Utf8.encode text).take window) = sniff (Utf8.encodeChars whole)) ∧
    ∀ bytes : Bytes, 0 ∉ bytes → NoMagic bytes →
      (sniff bytes = binary ↔ ¬ ∃ text, bytes <+: Utf8.encode text) := by
  refine ⟨fun text h0 => ?_, fun bytes h0 hmagic => ?_⟩
  · have hmagic := ofMagic?_fitting (n := window) (by decide) text.toList
    have hcontent := ofContent_take h0 window
    have hwhole := Utf8.wholeWithin_fitting window text.toList
    have hwhole0 : 0 ∉ Utf8.encodeChars (Utf8.fitting window text.toList) := by
      obtain ⟨more, hmore⟩ := hwhole.isPrefix
      intro h
      refine h0 ?_
      rw [Utf8.encode, ← hmore, Utf8.encodeChars_append]
      exact List.mem_append_left _ h
    unfold Utf8.encode at h0 ⊢
    rw [sniff_eq, hcontent, hmagic]
    refine ⟨?_, _, hwhole, by rw [sniff_eq, ofContent_encodeChars hwhole0]⟩
    cases hkind : ofMagic? (Utf8.encodeChars (Utf8.fitting window text.toList)) with
    | some kind => exact ne_binary_of_magic hkind
    | none => exact (isText_ofText _).ne_binary
  · rw [sniff_eq, ofMagic?_eq_none_iff.2 hmagic, Option.getD_none, ← Utf8.decodePartial_invalid_iff]
    unfold ofContent
    rw [contains_eq_false h0, Bool.false_or]
    by_cases hstop : (Utf8.decodePartial bytes).2 = some .invalid
    · simp [hstop]
    · simpa [hstop] using (isText_ofText _).ne_binary

namespace CutLetter

/-- The last letter has its second byte behind the window. -/
def letters : String := String.ofList (List.replicate 511 'a' ++ ['é'])

theorem toList_letters : letters.toList = List.replicate 511 'a' ++ ['é'] := String.toList_ofList

theorem encode_letters :
    Utf8.encode letters = Utf8.encodeChars (List.replicate 511 'a' ++ ['é']) :=
  congrArg Utf8.encodeChars toList_letters

theorem zero_not_mem : 0 ∉ Utf8.encode letters := by
  rw [encode_letters]
  decide +kernel

end CutLetter

open CutLetter in
/-- A letter that the window cuts, and a byte that stands in no letter. -/
theorem sniff_window_cutLetter :
    (0 ∉ Utf8.encode letters ∧ sniff ((Utf8.encode letters).take window) ≠ binary ∧
      ∃ whole, Utf8.WholeWithin window letters.toList whole ∧
        sniff ((Utf8.encode letters).take window) = sniff (Utf8.encodeChars whole)) ∧
    (0 ∉ ([0x61, 0xFF] : Bytes) ∧ NoMagic [0x61, 0xFF] ∧
      (sniff [0x61, 0xFF] = binary ↔ ¬ ∃ text, [0x61, 0xFF] <+: Utf8.encode text)) := by
  have hmagic : NoMagic [0x61, 0xFF] := ⟨by decide, by decide, by decide⟩
  exact ⟨⟨zero_not_mem, sniff_window.1 letters zero_not_mem⟩, by decide, hmagic,
    sniff_window.2 _ (by decide) hmagic⟩

end ScriptSandbox.FileKind
