import Mathlib.Data.List.Basic
import ScriptSandbox.Text.Base64
import ScriptSandbox.Proofs.Text.Blank
import ScriptSandbox.Proofs.Text.Cut

/-!
# Base64, both ways

What is decoded is what was encoded, and nothing else is decoded at all: a text is accepted for some
bytes exactly if it is what these bytes are encoded as (`decodeText_eq_ok_iff`). So padding is
complete, and no bits are left over behind the last byte.
-/

namespace ScriptSandbox.Base64

/-! ## Symbols -/

theorem value?_symbol : ∀ n < 64, value? (symbol n) = some n := by decide

theorem symbol_ne_pad : ∀ n < 64, symbol n ≠ pad := by decide

theorem symbol_lt : ∀ n < 64, (symbol n).toNat < 128 := by decide

theorem isBlank_symbol : ∀ n < 64, Text.isBlank (Char.ofNat (symbol n).toNat) = false := by decide

theorem value?_cases : ∀ n < 256, ∀ v ∈ value? (UInt8.ofNat n), v < 64 ∧ UInt8.ofNat n = symbol v := by
  decide +kernel

/-- The bytes with a value are the symbols. -/
theorem value?_eq_some_iff {b : UInt8} {v : Nat} : value? b = some v ↔ v < 64 ∧ b = symbol v := by
  refine ⟨fun h => ?_, ?_⟩
  · have hcases := value?_cases b.toNat b.toNat_lt v
    rw [UInt8.ofNat_toNat] at hcases
    exact hcases h
  · rintro ⟨hv, rfl⟩
    exact value?_symbol v hv

/-! ## Groups of symbols -/

section

variable {x y z u : Nat}

/-- One byte in two symbols, with four bits left over. -/
theorem encode_two (hx : x < 64) (hy : y < 64) (hbits : (x * 64 + y) % 16 = 0) :
    encode [UInt8.ofNat ((x * 64 + y) / 16)] = [symbol x, symbol y, pad, pad] := by
  have hbyte : (UInt8.ofNat ((x * 64 + y) / 16)).toNat * 16 = x * 64 + y := by
    rw [UInt8.toNat_ofNat']
    omega
  have hfirst : (x * 64 + y) / 64 = x := by omega
  have hsecond : (x * 64 + y) % 64 = y := by omega
  simp only [encode, hbyte, hfirst, hsecond]

/-- Two bytes in three symbols, with two bits left over. -/
theorem encode_three (hx : x < 64) (hy : y < 64) (hz : z < 64)
    (hbits : ((x * 64 + y) * 64 + z) % 4 = 0) :
    encode [UInt8.ofNat (((x * 64 + y) * 64 + z) / 1024),
        UInt8.ofNat (((x * 64 + y) * 64 + z) / 4)] =
      [symbol x, symbol y, symbol z, pad] := by
  have hbytes : ((UInt8.ofNat (((x * 64 + y) * 64 + z) / 1024)).toNat * 256 +
      (UInt8.ofNat (((x * 64 + y) * 64 + z) / 4)).toNat) * 4 = (x * 64 + y) * 64 + z := by
    rw [UInt8.toNat_ofNat', UInt8.toNat_ofNat']
    omega
  have hfirst : ((x * 64 + y) * 64 + z) / 4096 = x := by omega
  have hsecond : ((x * 64 + y) * 64 + z) / 64 % 64 = y := by omega
  have hthird : ((x * 64 + y) * 64 + z) % 64 = z := by omega
  simp only [encode, hbytes, hfirst, hsecond, hthird]

/-- Three bytes in four symbols. -/
theorem encode_four (hx : x < 64) (hy : y < 64) (hz : z < 64) (hu : u < 64) (rest : Bytes) :
    encode (UInt8.ofNat ((((x * 64 + y) * 64 + z) * 64 + u) / 65536) ::
        UInt8.ofNat ((((x * 64 + y) * 64 + z) * 64 + u) / 256) ::
        UInt8.ofNat (((x * 64 + y) * 64 + z) * 64 + u) :: rest) =
      symbol x :: symbol y :: symbol z :: symbol u :: encode rest := by
  have hbytes : ((UInt8.ofNat ((((x * 64 + y) * 64 + z) * 64 + u) / 65536)).toNat * 256 +
      (UInt8.ofNat ((((x * 64 + y) * 64 + z) * 64 + u) / 256)).toNat) * 256 +
      (UInt8.ofNat (((x * 64 + y) * 64 + z) * 64 + u)).toNat = ((x * 64 + y) * 64 + z) * 64 + u := by
    rw [UInt8.toNat_ofNat', UInt8.toNat_ofNat', UInt8.toNat_ofNat']
    omega
  have hfirst : (((x * 64 + y) * 64 + z) * 64 + u) / 262144 = x := by omega
  have hsecond : (((x * 64 + y) * 64 + z) * 64 + u) / 4096 % 64 = y := by omega
  have hthird : (((x * 64 + y) * 64 + z) * 64 + u) / 64 % 64 = z := by omega
  have hfourth : (((x * 64 + y) * 64 + z) * 64 + u) % 64 = u := by omega
  simp only [encode, hbytes, hfirst, hsecond, hthird, hfourth]

end

/-! ## Decoding -/

section

variable {offset padding : Nat} {seen values : List Nat} {group bytes : Bytes}

/-- A last group that is read consists of symbols and padding. -/
theorem exists_of_groupValues (h : groupValues offset seen group = .ok (values, padding)) :
    ∃ new, values = seen.reverse ++ new ∧ (∀ v ∈ new, v < 64) ∧
      group = new.map symbol ++ List.replicate padding pad := by
  induction group generalizing seen with
  | nil =>
    obtain ⟨rfl, rfl⟩ := Prod.mk.inj (Except.ok.inj h)
    exact ⟨[], (List.append_nil _).symm, fun v hv => (nomatch hv), rfl⟩
  | cons b rest ih =>
    unfold groupValues at h
    split at h
    · rename_i hb
      split at h
      · cases h
      · split at h
        · rename_i hrest
          obtain ⟨rfl, rfl⟩ := Prod.mk.inj (Except.ok.inj h)
          refine ⟨[], (List.append_nil _).symm, fun v hv => (nomatch hv), ?_⟩
          rw [hb, Nat.add_comm, List.replicate_succ, List.map_nil, List.nil_append,
            List.cons_inj_right]
          exact List.eq_replicate_iff.2 ⟨rfl, by simpa using hrest⟩
        · cases h
    · split at h
      · rename_i v hv
        obtain ⟨hlt, rfl⟩ := value?_eq_some_iff.1 hv
        obtain ⟨new, rfl, hnew, rfl⟩ := ih h
        exact ⟨v :: new, by simp, by simpa [hlt] using hnew, rfl⟩
      · cases h

/-- The values of a last group with the bytes that they are, no bits left over. -/
inductive LastGroup : List Nat → Bytes → Prop
  | two {x y : Nat} (hbits : (x * 64 + y) % 16 = 0) :
    LastGroup [x, y] [UInt8.ofNat ((x * 64 + y) / 16)]
  | three {x y z : Nat} (hbits : ((x * 64 + y) * 64 + z) % 4 = 0) :
    LastGroup [x, y, z] [UInt8.ofNat (((x * 64 + y) * 64 + z) / 1024),
      UInt8.ofNat (((x * 64 + y) * 64 + z) / 4)]
  | four {x y z u : Nat} :
    LastGroup [x, y, z, u] [UInt8.ofNat ((((x * 64 + y) * 64 + z) * 64 + u) / 65536),
      UInt8.ofNat ((((x * 64 + y) * 64 + z) * 64 + u) / 256),
      UInt8.ofNat (((x * 64 + y) * 64 + z) * 64 + u)]

theorem LastGroup.two_le_length (h : LastGroup values bytes) : 2 ≤ values.length := by
  cases h <;> simp

/-- The bytes of a last group are encoded as its symbols, filled up to four. -/
theorem LastGroup.encode_eq (h : LastGroup values bytes) (hvalid : ∀ v ∈ values, v < 64) :
    encode bytes = values.map symbol ++ List.replicate (4 - values.length) pad := by
  cases h with
  | two hbits => exact encode_two (hvalid _ (by simp)) (hvalid _ (by simp)) hbits
  | three hbits =>
    exact encode_three (hvalid _ (by simp)) (hvalid _ (by simp)) (hvalid _ (by simp)) hbits
  | four =>
    exact encode_four (hvalid _ (by simp)) (hvalid _ (by simp)) (hvalid _ (by simp))
      (hvalid _ (by simp)) []

theorem ite_error_eq_ok {p : Prop} [Decidable p] {e : Error} {r : Except Error Bytes} :
    (if p then r else .error e) = .ok bytes ↔ p ∧ r = .ok bytes := by
  split <;> simp [*]

/-- What is decoded from a last group that is not empty: its values, and complete padding. -/
theorem lastGroup_of_decodeLast (h : decodeLast offset group = .ok bytes) (hne : group ≠ [])
    (hread : groupValues offset [] group = .ok (values, padding)) (hlength : values.length ≤ 4) :
    LastGroup values bytes ∧ (padding + values.length) % 4 = 0 := by
  unfold decodeLast at h
  rw [hread] at h
  simp only [bind, Except.bind] at h
  rcases values with _ | ⟨x, _ | ⟨y, _ | ⟨z, _ | ⟨u, _ | ⟨v, values⟩⟩⟩⟩⟩
  · simp [hne, throw, throwThe, MonadExceptOf.throw] at h
  · simp [hne, throw, throwThe, MonadExceptOf.throw] at h
  · have hlast : (padding + 2) % 4 = 0 ∧ (x * 64 + y) % 16 = 0 ∧
        [UInt8.ofNat ((x * 64 + y) / 16)] = bytes := by
      simpa [throw, throwThe, MonadExceptOf.throw, pure, Except.pure, ite_error_eq_ok] using h
    obtain ⟨hpadding, hbits, rfl⟩ := hlast
    exact ⟨.two hbits, hpadding⟩
  · have hlast : (padding + 3) % 4 = 0 ∧ ((x * 64 + y) * 64 + z) % 4 = 0 ∧
        [UInt8.ofNat (((x * 64 + y) * 64 + z) / 1024),
          UInt8.ofNat (((x * 64 + y) * 64 + z) / 4)] = bytes := by
      simpa [throw, throwThe, MonadExceptOf.throw, pure, Except.pure, ite_error_eq_ok] using h
    obtain ⟨hpadding, hbits, rfl⟩ := hlast
    exact ⟨.three hbits, hpadding⟩
  · have hlast : (padding + 4) % 4 = 0 ∧
        [UInt8.ofNat ((((x * 64 + y) * 64 + z) * 64 + u) / 65536),
          UInt8.ofNat ((((x * 64 + y) * 64 + z) * 64 + u) / 256),
          UInt8.ofNat (((x * 64 + y) * 64 + z) * 64 + u)] = bytes := by
      simpa [throw, throwThe, MonadExceptOf.throw, pure, Except.pure, ite_error_eq_ok] using h
    obtain ⟨hpadding, rfl⟩ := hlast
    exact ⟨.four, hpadding⟩
  · simp only [List.length_cons] at hlength
    omega

/-- A last group that is decoded is the group of its bytes. -/
theorem eq_of_decodeLast (h : decodeLast offset group = .ok bytes) (hlength : group.length ≤ 4) :
    group = encode bytes := by
  by_cases hne : group = []
  · subst hne
    obtain rfl := Except.ok.inj h
    rfl
  · obtain ⟨values, padding, hread⟩ : ∃ values padding,
        groupValues offset [] group = .ok (values, padding) := by
      cases hread : groupValues offset [] group with
      | error e =>
        unfold decodeLast at h
        rw [hread] at h
        cases h
      | ok r => exact ⟨_, _, rfl⟩
    obtain ⟨_, rfl, hvalid, hgroup⟩ := exists_of_groupValues hread
    rw [hgroup, List.length_append, List.length_map, List.length_replicate] at hlength
    obtain ⟨hlast, hpadding⟩ := lastGroup_of_decodeLast h hne hread (Nat.le_of_add_right_le hlength)
    have htwo := hlast.two_le_length
    have hfilled : padding = 4 - values.length := by omega
    rw [hlast.encode_eq hvalid, hgroup, hfilled]

/-- Symbols that are decoded are those of their bytes. -/
theorem eq_of_decodeFrom (h : decodeFrom offset group = .ok bytes) : group = encode bytes := by
  induction offset, group using decodeFrom.induct generalizing bytes with
  | case1 offset a b c d e rest x y z u hu hz hy hx ih =>
    simp only [decodeFrom, hx, hy, hz, hu] at h
    cases hbelow : decodeFrom (offset + 4) (e :: rest) with
    | error e =>
      rw [hbelow] at h
      cases h
    | ok below =>
      rw [hbelow] at h
      obtain rfl := Except.ok.inj h
      rw [value?_eq_some_iff] at hx hy hz hu
      rw [encode_four hx.1 hy.1 hz.1 hu.1, ← hx.2, ← hy.2, ← hz.2, ← hu.2, ← ih hbelow]
  | case2 offset a b c d e rest hnone =>
    rw [decodeFrom] at h
    split at h
    · exact (hnone _ _ _ _ ‹_› ‹_› ‹_› ‹_›).elim
    · cases h
  | case3 offset group hshort =>
    rw [decodeFrom.eq_2 offset group hshort] at h
    refine eq_of_decodeLast h ?_
    rcases group with _ | ⟨a, _ | ⟨b, _ | ⟨c, _ | ⟨d, _ | ⟨e, rest⟩⟩⟩⟩⟩
    case cons.cons.cons.cons.cons => exact (hshort _ _ _ _ _ _ rfl).elim
    all_goals simp

end

section

variable {offset x y z u : Nat}

theorem decodeLast_two (hx : x < 64) (hy : y < 64) (hbits : (x * 64 + y) % 16 = 0) :
    decodeLast offset [symbol x, symbol y, pad, pad] = .ok [UInt8.ofNat ((x * 64 + y) / 16)] := by
  simp [decodeLast, groupValues, value?_symbol, symbol_ne_pad, hx, hy, hbits, bind, Except.bind,
    pure, Except.pure]

theorem decodeLast_three (hx : x < 64) (hy : y < 64) (hz : z < 64)
    (hbits : ((x * 64 + y) * 64 + z) % 4 = 0) :
    decodeLast offset [symbol x, symbol y, symbol z, pad] =
      .ok [UInt8.ofNat (((x * 64 + y) * 64 + z) / 1024),
        UInt8.ofNat (((x * 64 + y) * 64 + z) / 4)] := by
  simp [decodeLast, groupValues, value?_symbol, symbol_ne_pad, hx, hy, hz, hbits, bind, Except.bind,
    pure, Except.pure]

theorem decodeFrom_four (hx : x < 64) (hy : y < 64) (hz : z < 64) (hu : u < 64) (below : Bytes) :
    decodeFrom offset (symbol x :: symbol y :: symbol z :: symbol u :: below) =
      (decodeFrom (offset + 4) below).map fun bytes =>
        UInt8.ofNat ((((x * 64 + y) * 64 + z) * 64 + u) / 65536) ::
          UInt8.ofNat ((((x * 64 + y) * 64 + z) * 64 + u) / 256) ::
          UInt8.ofNat (((x * 64 + y) * 64 + z) * 64 + u) :: bytes := by
  cases below with
  | nil =>
    simp [decodeFrom, decodeLast, groupValues, value?_symbol, symbol_ne_pad, hx, hy, hz, hu, bind,
      Except.bind, pure, Except.pure, Except.map]
  | cons e rest => simp [decodeFrom, value?_symbol, hx, hy, hz, hu]

end

theorem ofNat_eq_of_mod {n : Nat} {b : UInt8} (h : n % 256 = b.toNat) : UInt8.ofNat n = b :=
  UInt8.toNat_inj.1 (by rw [UInt8.toNat_ofNat', h])

/-- What bytes are encoded as is decoded as the bytes. -/
theorem decodeFrom_encode (offset : Nat) (bytes : Bytes) :
    decodeFrom offset (encode bytes) = .ok bytes := by
  induction bytes using encode.induct generalizing offset with
  | case1 => rfl
  | case2 a =>
    have ha := a.toNat_lt
    refine (decodeLast_two (by omega) (by omega) (by omega)).trans ?_
    rw [ofNat_eq_of_mod (b := a) (by omega)]
  | case3 a b =>
    have ha := a.toNat_lt
    have hb := b.toNat_lt
    refine (decodeLast_three (by omega) (by omega) (by omega) (by omega)).trans ?_
    rw [ofNat_eq_of_mod (b := a) (by omega), ofNat_eq_of_mod (b := b) (by omega)]
  | case4 a b c rest ih =>
    have ha := a.toNat_lt
    have hb := b.toNat_lt
    have hc := c.toNat_lt
    refine (decodeFrom_four (by omega) (by omega) (by omega) (by omega) _).trans ?_
    rw [ih, ofNat_eq_of_mod (b := a) (by omega), ofNat_eq_of_mod (b := b) (by omega),
      ofNat_eq_of_mod (b := c) (by omega)]
    rfl

/-- What is written for bytes is symbols and padding. -/
theorem mem_encode {bytes : Bytes} : ∀ b ∈ encode bytes, b = pad ∨ ∃ n < 64, b = symbol n := by
  induction bytes using encode.induct with
  | case1 => exact fun b hb => nomatch hb
  | case2 a =>
    have ha := a.toNat_lt
    intro b hb
    simp only [encode, List.mem_cons, List.not_mem_nil, or_false] at hb
    rcases hb with rfl | rfl | rfl | rfl
    · exact .inr ⟨_, by omega, rfl⟩
    · exact .inr ⟨_, by omega, rfl⟩
    · exact .inl rfl
    · exact .inl rfl
  | case3 a₁ a₂ =>
    have ha₁ := a₁.toNat_lt
    have ha₂ := a₂.toNat_lt
    intro b hb
    simp only [encode, List.mem_cons, List.not_mem_nil, or_false] at hb
    rcases hb with rfl | rfl | rfl | rfl
    · exact .inr ⟨_, by omega, rfl⟩
    · exact .inr ⟨_, by omega, rfl⟩
    · exact .inr ⟨_, by omega, rfl⟩
    · exact .inl rfl
  | case4 a₁ a₂ a₃ rest ih =>
    have ha₁ := a₁.toNat_lt
    have ha₂ := a₂.toNat_lt
    have ha₃ := a₃.toNat_lt
    intro b hb
    simp only [encode, List.mem_cons] at hb
    rcases hb with rfl | rfl | rfl | rfl | hb
    · exact .inr ⟨_, by omega, rfl⟩
    · exact .inr ⟨_, by omega, rfl⟩
    · exact .inr ⟨_, by omega, rfl⟩
    · exact .inr ⟨_, by omega, rfl⟩
    · exact ih b hb

theorem length_encode_mod (bytes : Bytes) : (encode bytes).length % 4 = 0 := by
  induction bytes using encode.induct with
  | case1 => rfl
  | case2 a => simp [encode]
  | case3 a b => simp [encode]
  | case4 a b c rest ih =>
    simp only [encode, List.length_cons]
    omega

/-- Exactly what was encoded is decoded. -/
theorem decode_eq_ok_iff {code bytes : Bytes} : decode code = .ok bytes ↔ code = encode bytes := by
  constructor
  · intro h
    unfold decode at h
    split at h
    · split at h
      · cases h
      · exact eq_of_decodeFrom h
    · rename_i hnone
      obtain rfl := Except.ok.inj h
      exact List.getLast?_eq_none_iff.1 hnone
  · rintro rfl
    have hlength := length_encode_mod bytes
    unfold decode
    split
    · rw [if_neg (by omega), decodeFrom_encode]
    · rename_i hnone
      rw [← decodeFrom_encode 0 bytes, List.getLast?_eq_none_iff.1 hnone]
      rfl

/-! ## Texts -/

theorem plain_of_mem_encode {bytes : Bytes} {b : UInt8} (hb : b ∈ encode bytes) :
    b.toNat < 128 ∧ Text.isBlank (Char.ofNat b.toNat) = false := by
  rcases mem_encode b hb with rfl | ⟨n, hn, rfl⟩
  · decide
  · exact ⟨symbol_lt n hn, isBlank_symbol n hn⟩

theorem encode_encodeText (bytes : Bytes) : Utf8.encode (encodeText bytes) = encode bytes := by
  rw [encodeText, Utf8.encode, String.toList_ofList, Utf8.encodeChars, List.flatMap_map]
  refine (List.flatMap_congr fun b hb => ?_).trans (List.flatMap_singleton' (encode bytes))
  have hlt := (plain_of_mem_encode hb).1
  rw [Utf8.encodeChar_of_lt (by rwa [Utf8.toNat_charOfNat (by unfold Nat.isValidChar; omega)]),
    Utf8.toNat_charOfNat (by unfold Nat.isValidChar; omega), UInt8.ofNat_toNat]

/-- A text is decoded exactly if it is what bytes are encoded as, and to these bytes. -/
theorem decodeText_eq_ok_iff {text : String} {bytes : Bytes} :
    decodeText text = .ok bytes ↔ text = encodeText bytes := by
  rw [decodeText, decode_eq_ok_iff, ← encode_encodeText]
  exact ⟨fun h => Utf8.encode_injective h, fun h => h ▸ rfl⟩

theorem encodeText_injective : Function.Injective encodeText := fun _ _ h =>
  Except.ok.inj ((decodeText_eq_ok_iff.2 rfl).symm.trans (decodeText_eq_ok_iff.2 h))

/-- Dropping blanks gives the code back that they are around. -/
theorem trim_encodeText {before after : List Char} (hbefore : ∀ c ∈ before, Text.isBlank c = true)
    (hafter : ∀ c ∈ after, Text.isBlank c = true) (bytes : Bytes) :
    Text.trim (String.ofList before ++ encodeText bytes ++ String.ofList after) = encodeText bytes := by
  rw [encodeText, ← String.ofList_append, ← String.ofList_append]
  refine Text.trim_padded hbefore hafter fun c hc => ?_
  obtain ⟨b, hb, rfl⟩ := List.mem_map.1 hc
  exact (plain_of_mem_encode hb).2

end ScriptSandbox.Base64
