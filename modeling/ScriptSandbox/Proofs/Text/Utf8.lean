import Mathlib.Logic.Function.Basic
import ScriptSandbox.Text.Utf8

/-!
# Characters as bytes and back

The bytes of a text are read as that text (`decodeLossy_encode`), and there are as many as the text
counts (`length_encode`).
-/

namespace ScriptSandbox.Utf8

/-! ## One character -/

theorem toNat_charOfNat {n : Nat} (h : n.isValidChar) : (Char.ofNat n).toNat = n := by
  rw [Char.ofNat, dif_pos h]
  rfl

theorem lead_two : ∀ d < 32, 2 ≤ d → lead (UInt8.ofNat (d + 192)) = some (0x80, 0xBF, 1) := by
  decide

theorem lead_three : ∀ d < 16, lead (UInt8.ofNat (d + 224)) =
    some (if d = 0 then 0xA0 else 0x80, if d = 13 then 0x9F else 0xBF, 2) := by
  decide

theorem lead_four : ∀ d < 5, lead (UInt8.ofNat (d + 240)) =
    some (if d = 0 then 0x90 else 0x80, if d = 4 then 0x8F else 0xBF, 3) := by
  decide

theorem next_lead {b low high : UInt8} {n : Nat} {r : Bytes} (h : lead b = some (low, high, n)) :
    next b r = tail (b.toNat % Nat.pow 2 (6 - n)) low high n r := by
  have hb : ¬ b < 0x80 := by
    intro hb
    have hlow : b < 0xC2 := UInt8.lt_trans hb (by decide)
    simp [lead, hlow] at h
  rw [next, if_neg hb, h]

/-- A byte with six bits of the character. -/
theorem tail_cons {value x n : Nat} {low high : UInt8} {r : Bytes} (hlow : low.toNat ≤ x % 64 + 128)
    (hhigh : x % 64 + 128 ≤ high.toNat) :
    tail value low high (n + 1) (UInt8.ofNat (x % 64 + 128) :: r) =
      tail (64 * value + x % 64) 0x80 0xBF n r := by
  have hb : (UInt8.ofNat (x % 64 + 128)).toNat = x % 64 + 128 := by
    rw [UInt8.toNat_ofNat']
    omega
  rw [tail, if_pos, hb, Nat.add_sub_cancel]
  simp only [UInt8.le_iff_toNat_le, hb]
  exact ⟨hlow, hhigh⟩

theorem tail_rest {value x n : Nat} {r : Bytes} :
    tail value 0x80 0xBF (n + 1) (UInt8.ofNat (x % 64 + 128) :: r) =
      tail (64 * value + x % 64) 0x80 0xBF n r :=
  tail_cons (Nat.le_add_left ..) (by change _ ≤ 191; omega)

theorem tail_zero {value : Nat} {low high : UInt8} {r : Bytes} {c : Char} (h : value = c.toNat) :
    tail value low high 0 r = (.char c, r) := by
  rw [tail, h, Char.ofNat_toNat]

theorem next_one {v : Nat} (r : Bytes) (h : v ≤ 127) :
    next (UInt8.ofNat v) r = (.char (Char.ofNat v), r) := by
  have hv : (UInt8.ofNat v).toNat = v := by
    rw [UInt8.toNat_ofNat']
    omega
  rw [next, if_pos, hv]
  rw [UInt8.lt_iff_toNat_lt, hv]
  exact Nat.lt_succ_of_le h

/-- The bits of the character in a first byte. -/
theorem toNat_ofNat_add_mod {d base n : Nat} (h : d + base < 256) (hd : d < Nat.pow 2 (6 - n))
    (hbase : base % Nat.pow 2 (6 - n) = 0) :
    (UInt8.ofNat (d + base)).toNat % Nat.pow 2 (6 - n) = d := by
  rw [UInt8.toNat_ofNat', Nat.mod_eq_of_lt h, Nat.add_mod, hbase, Nat.add_zero, Nat.mod_mod,
    Nat.mod_eq_of_lt hd]

/-- What a character is written as is read as the character. -/
theorem next_encodeChar (c : Char) (r : Bytes) :
    ∃ b bs, String.utf8EncodeChar c = b :: bs ∧ next b (bs ++ r) = (.char c, r) := by
  have hvalid : c.toNat < 0xD800 ∨ 0xDFFF < c.toNat ∧ c.toNat < 0x110000 := c.valid
  rw [String.utf8EncodeChar.eq_1]
  simp only [Char.toNat_val]
  split
  · rename_i h
    exact ⟨_, _, rfl, by rw [List.nil_append, next_one r h, Char.ofNat_toNat]⟩
  · split
    · have hd : c.toNat / 64 % 32 < 32 := by omega
      refine ⟨_, _, rfl, ?_⟩
      rw [next_lead (lead_two _ hd (by omega)), toNat_ofNat_add_mod (by omega) hd rfl]
      exact tail_rest.trans (tail_zero (by omega))
    · split
      · have hd : c.toNat / 4096 % 16 < 16 := by omega
        refine ⟨_, _, rfl, ?_⟩
        rw [next_lead (lead_three _ hd), toNat_ofNat_add_mod (by omega) hd rfl]
        refine (tail_cons ?_ ?_).trans (tail_rest.trans (tail_zero (by omega)))
        · split
          · change 160 ≤ _
            omega
          · exact Nat.le_add_left ..
        · split
          · change _ ≤ 159
            omega
          · change _ ≤ 191
            omega
      · have hd : c.toNat / 262144 % 8 < 5 := by omega
        refine ⟨_, _, rfl, ?_⟩
        rw [next_lead (lead_four _ hd), toNat_ofNat_add_mod (by omega) (by change _ < 8; omega) rfl]
        refine (tail_cons ?_ ?_).trans (tail_rest.trans (tail_rest.trans (tail_zero (by omega))))
        · split
          · change 144 ≤ _
            omega
          · exact Nat.le_add_left ..
        · split
          · change _ ≤ 143
            omega
          · change _ ≤ 191
            omega

/-- An ASCII character is one byte. -/
theorem encodeChar_of_lt {c : Char} (h : c.toNat < 128) :
    String.utf8EncodeChar c = [UInt8.ofNat c.toNat] := by
  rw [String.utf8EncodeChar.eq_1]
  simp only [Char.toNat_val]
  rw [if_pos (Nat.le_of_lt_succ h)]

/-- The bytes of any other character are none of ASCII. -/
theorem le_of_mem_encodeChar {c : Char} (h : 128 ≤ c.toNat) :
    ∀ b ∈ String.utf8EncodeChar c, 128 ≤ b.toNat := by
  rw [String.utf8EncodeChar.eq_1]
  simp only [Char.toNat_val]
  rw [if_neg (by omega)]
  intro b hb
  split at hb
  · simp only [List.mem_cons, List.not_mem_nil, or_false] at hb
    rcases hb with rfl | rfl <;> rw [UInt8.toNat_ofNat'] <;> omega
  · split at hb
    · simp only [List.mem_cons, List.not_mem_nil, or_false] at hb
      rcases hb with rfl | rfl | rfl <;> rw [UInt8.toNat_ofNat'] <;> omega
    · simp only [List.mem_cons, List.not_mem_nil, or_false] at hb
      rcases hb with rfl | rfl | rfl | rfl <;> rw [UInt8.toNat_ofNat'] <;> omega

/-! ## Texts -/

theorem encodeChars_cons (c : Char) (cs : List Char) :
    encodeChars (c :: cs) = String.utf8EncodeChar c ++ encodeChars cs := rfl

theorem encodeChars_append (cs ds : List Char) :
    encodeChars (cs ++ ds) = encodeChars cs ++ encodeChars ds := List.flatMap_append

theorem decodeLossyChars_encodeChars (cs : List Char) : decodeLossyChars (encodeChars cs) = cs := by
  induction cs with
  | nil => rw [encodeChars, List.flatMap_nil, decodeLossyChars]
  | cons c cs ih =>
    obtain ⟨b, bs, hbytes, hnext⟩ := next_encodeChar c (encodeChars cs)
    rw [encodeChars_cons, hbytes, List.cons_append, decodeLossyChars]
    split
    · rename_i c' rest h
      obtain ⟨hc, rfl⟩ := Prod.mk.inj (hnext.symm.trans h)
      obtain rfl := Item.char.inj hc
      rw [ih]
    · rename_i item rest hitem h
      exact (hitem c (Prod.mk.inj (h.symm.trans hnext)).1).elim

theorem decodeLossy_encode (s : String) : decodeLossy (encode s) = s := by
  rw [decodeLossy, encode, decodeLossyChars_encodeChars, String.ofList_toList]

theorem encode_injective : Function.Injective encode :=
  Function.LeftInverse.injective decodeLossy_encode

theorem decodeChars?_encodeChars (cs : List Char) : decodeChars? (encodeChars cs) = some cs := by
  induction cs with
  | nil => rw [encodeChars, List.flatMap_nil, decodeChars?]
  | cons c cs ih =>
    obtain ⟨b, bs, hbytes, hnext⟩ := next_encodeChar c (encodeChars cs)
    rw [encodeChars_cons, hbytes, List.cons_append, decodeChars?]
    split
    · rename_i c' rest h
      obtain ⟨hc, rfl⟩ := Prod.mk.inj (hnext.symm.trans h)
      obtain rfl := Item.char.inj hc
      rw [ih]
      rfl
    · rename_i hitem
      exact (hitem c _ hnext).elim

theorem encode_append (s t : String) : encode (s ++ t) = encode s ++ encode t := by
  rw [encode, String.toList_append]
  exact encodeChars_append ..

theorem length_encode (s : String) : (encode s).length = s.utf8ByteSize := by
  have h : s.toByteArray = (encode s).toByteArray := String.utf8Encode_toList.symm
  rw [String.utf8ByteSize, h, List.size_toByteArray]

end ScriptSandbox.Utf8
