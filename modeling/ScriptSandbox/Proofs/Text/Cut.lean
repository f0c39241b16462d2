import ScriptSandbox.Proofs.Text.Utf8

/-!
# Texts that are cut off

The bytes that are read as characters are those that the characters are written as
(`eq_of_next_char`), and bytes that end within a character are the start of one (`exists_of_next_cut`).
So reading meets bytes that no character has exactly when no text begins with them
(`decodePartial_invalid_iff`). A text that is cut off anywhere is read up to the character that is
cut (`decodePartial_take`). Bytes that are not those of a text are read as a text that has other
bytes (`encode_decodeLossy_iff`), with a replacement character in it (`replaced_of_not_isText`).
-/

namespace ScriptSandbox.Utf8

variable {b low high : UInt8} {value n k : Nat} {r rest bytes : Bytes} {c : Char} {cs : List Char}

/-! ## One character -/

theorem tail_char (h : tail value low high (n + 1) r = (.char c, rest)) :
    ∃ x r', r = x :: r' ∧ low.toNat ≤ x.toNat ∧ x.toNat ≤ high.toNat ∧
      tail (64 * value + (x.toNat - 128)) 0x80 0xBF n r' = (.char c, rest) := by
  cases r with
  | nil => cases h
  | cons x r =>
    rw [tail] at h
    split at h
    · rename_i hx
      exact ⟨x, r, rfl, UInt8.le_iff_toNat_le.1 hx.1, UInt8.le_iff_toNat_le.1 hx.2, h⟩
    · cases h

theorem tail_rest_char (h : tail value 0x80 0xBF (n + 1) r = (.char c, rest)) :
    ∃ x r', r = x :: r' ∧ 128 ≤ x.toNat ∧ x.toNat ≤ 191 ∧
      tail (64 * value + (x.toNat - 128)) 0x80 0xBF n r' = (.char c, rest) :=
  tail_char h

theorem tail_zero_char (h : tail value low high 0 r = (.char c, rest)) :
    c = Char.ofNat value ∧ rest = r := by
  cases h
  exact ⟨rfl, rfl⟩

/-- The first bytes of characters, by the number of bytes that follow, and the bounds of the second
byte. -/
theorem lead_cases : ∀ d < 256, ∀ l ∈ lead (UInt8.ofNat d),
    (0x80 ≤ l.1.toNat ∧ l.1.toNat ≤ l.2.1.toNat ∧ l.2.1.toNat ≤ 0xBF) ∧
    (l.2.2 = 1 ∧ 0xC2 ≤ d ∧ d < 0xE0 ∨
      l.2.2 = 2 ∧ 0xE0 ≤ d ∧ d < 0xF0 ∧ (d = 0xE0 → 0xA0 ≤ l.1.toNat) ∧
        (d = 0xED → l.2.1.toNat ≤ 0x9F) ∨
      l.2.2 = 3 ∧ 0xF0 ≤ d ∧ d ≤ 0xF4 ∧ (d = 0xF0 → 0x90 ≤ l.1.toNat) ∧
        (d = 0xF4 → l.2.1.toNat ≤ 0x8F)) := by
  decide +kernel

/-- What a character is written as, by its number. -/
theorem encodeChar_ofNat (h : n.isValidChar) : String.utf8EncodeChar (Char.ofNat n) =
    if n ≤ 0x7F then [UInt8.ofNat n]
    else if n ≤ 0x7FF then [UInt8.ofNat (n / 64 % 32 + 192), UInt8.ofNat (n % 64 + 128)]
    else if n ≤ 0xFFFF then
      [UInt8.ofNat (n / 4096 % 16 + 224), UInt8.ofNat (n / 64 % 64 + 128), UInt8.ofNat (n % 64 + 128)]
    else
      [UInt8.ofNat (n / 262144 % 8 + 240), UInt8.ofNat (n / 4096 % 64 + 128),
        UInt8.ofNat (n / 64 % 64 + 128), UInt8.ofNat (n % 64 + 128)] := by
  rw [String.utf8EncodeChar.eq_1]
  simp only [Char.toNat_val, toNat_charOfNat h]

theorem ofNat_eq {x : UInt8} (h : n = x.toNat) : UInt8.ofNat n = x := by
  rw [h, UInt8.ofNat_toNat]

/-- What is read as a character is what the character is written as. -/
theorem eq_of_next_char (h : next b r = (.char c, rest)) :
    b :: r = String.utf8EncodeChar c ++ rest := by
  have hb := b.toNat_lt
  unfold next at h
  split at h
  · rename_i hlt
    have hlt : b.toNat < 128 := UInt8.lt_iff_toNat_lt.1 hlt
    obtain ⟨hc, rfl⟩ := Prod.mk.inj h
    obtain rfl := Item.char.inj hc
    rw [encodeChar_ofNat (by unfold Nat.isValidChar; omega), if_pos (by omega), UInt8.ofNat_toNat]
    rfl
  · split at h
    · cases h
    · rename_i low high n hlead
      have hcases := lead_cases b.toNat hb (low, high, n) (by rwa [UInt8.ofNat_toNat])
      dsimp only at hcases
      obtain ⟨⟨hlow, -, hhigh⟩, ⟨rfl, hb₁, hb₂⟩ | ⟨rfl, hb₁, hb₂, hlow', hhigh'⟩ |
        ⟨rfl, hb₁, hb₂, hlow', hhigh'⟩⟩ := hcases
      · obtain ⟨x, r, rfl, hx₁, hx₂, h⟩ := tail_char h
        obtain ⟨hc, rfl⟩ := tail_zero_char h
        have hbits : b.toNat % Nat.pow 2 (6 - 1) = b.toNat % 32 := rfl
        rw [hc, hbits, encodeChar_ofNat (by unfold Nat.isValidChar; omega), if_neg (by omega),
          if_pos (by omega), ofNat_eq (x := b) (by omega), ofNat_eq (x := x) (by omega)]
        rfl
      · obtain ⟨x, r, rfl, hx₁, hx₂, h⟩ := tail_char h
        obtain ⟨y, r, rfl, hy₁, hy₂, h⟩ := tail_rest_char h
        obtain ⟨hc, rfl⟩ := tail_zero_char h
        have hbits : b.toNat % Nat.pow 2 (6 - 2) = b.toNat % 16 := rfl
        rw [hc, hbits, encodeChar_ofNat (by unfold Nat.isValidChar; omega), if_neg (by omega),
          if_neg (by omega), if_pos (by omega), ofNat_eq (x := b) (by omega),
          ofNat_eq (x := x) (by omega), ofNat_eq (x := y) (by omega)]
        rfl
      · obtain ⟨x, r, rfl, hx₁, hx₂, h⟩ := tail_char h
        obtain ⟨y, r, rfl, hy₁, hy₂, h⟩ := tail_rest_char h
        obtain ⟨z, r, rfl, hz₁, hz₂, h⟩ := tail_rest_char h
        obtain ⟨hc, rfl⟩ := tail_zero_char h
        have hbits : b.toNat % Nat.pow 2 (6 - 3) = b.toNat % 8 := rfl
        rw [hc, hbits, encodeChar_ofNat (by unfold Nat.isValidChar; omega), if_neg (by omega),
          if_neg (by omega), if_neg (by omega), ofNat_eq (x := b) (by omega),
          ofNat_eq (x := x) (by omega), ofNat_eq (x := y) (by omega), ofNat_eq (x := z) (by omega)]
        rfl

/-! ## A part of a character -/

theorem tail_length_of_char (h : tail value low high n r = (.char c, rest)) :
    r.length = n + rest.length := by
  induction n generalizing value low high r with
  | zero =>
    obtain ⟨-, rfl⟩ := tail_zero_char h
    exact (Nat.zero_add _).symm
  | succ n ih =>
    obtain ⟨x, r, rfl, -, -, h⟩ := tail_char h
    rw [List.length_cons, ih h, Nat.add_right_comm]

/-- Without its last bytes a character is cut. -/
theorem tail_take (h : tail value low high n r = (.char c, rest)) (hk : k < n) :
    tail value low high n (r.take k) = (.cut, []) := by
  induction n generalizing value low high r k with
  | zero => exact absurd hk (Nat.not_lt_zero k)
  | succ n ih =>
    obtain ⟨x, r, rfl, hlow, hhigh, h⟩ := tail_char h
    cases k with
    | zero => rfl
    | succ k =>
      have hx : low ≤ x ∧ x ≤ high := ⟨UInt8.le_iff_toNat_le.2 hlow, UInt8.le_iff_toNat_le.2 hhigh⟩
      rw [List.take_succ_cons, tail, if_pos hx]
      exact ih h (Nat.lt_of_succ_lt_succ hk)

theorem next_take (h : next b r = (.char c, [])) (hk : k < r.length) :
    next b (r.take k) = (.cut, []) := by
  unfold next at h ⊢
  split at h
  · obtain ⟨-, rfl⟩ := Prod.mk.inj h
    exact absurd hk (Nat.not_lt_zero k)
  · rename_i hb
    rw [if_neg hb]
    split at h
    · cases h
    · exact tail_take h (by rwa [tail_length_of_char h] at hk)

/-- Whatever has been read of a character can be completed. -/
theorem exists_tail (h : low ≤ high) (value n : Nat) :
    ∃ more c, tail value low high n more = (.char c, []) := by
  induction n generalizing value low high with
  | zero => exact ⟨[], _, rfl⟩
  | succ n ih =>
    obtain ⟨more, c, hmore⟩ :=
      ih (show (0x80 : UInt8) ≤ 0xBF by decide) (64 * value + (low.toNat - 0x80))
    exact ⟨low :: more, c, by rw [tail, if_pos ⟨UInt8.le_refl low, h⟩, hmore]⟩

theorem exists_of_tail_cut (hle : low ≤ high) (h : tail value low high n r = (.cut, rest)) :
    ∃ more c, tail value low high n (r ++ more) = (.char c, []) := by
  induction n generalizing value low high r with
  | zero => cases h
  | succ n ih =>
    cases r with
    | nil => exact exists_tail hle value (n + 1)
    | cons x r =>
      rw [tail] at h
      split at h
      · rename_i hx
        obtain ⟨more, c, hmore⟩ := ih (by decide) h
        exact ⟨more, c, by rw [List.cons_append, tail, if_pos hx, hmore]⟩
      · cases h

/-- Where the bytes end within a character, they are the start of one. -/
theorem exists_of_next_cut (h : next b r = (.cut, rest)) :
    ∃ c, b :: r <+: String.utf8EncodeChar c := by
  unfold next at h
  split at h
  · cases h
  · split at h
    · cases h
    · rename_i low high n hlead
      have hle : low.toNat ≤ high.toNat :=
        (lead_cases b.toNat b.toNat_lt (low, high, n) (by rwa [UInt8.ofNat_toNat])).1.2.1
      obtain ⟨more, c, hmore⟩ := exists_of_tail_cut (UInt8.le_iff_toNat_le.2 hle) h
      have hnext : next b (r ++ more) = (.char c, []) := (next_lead hlead).trans hmore
      refine ⟨c, more, ?_⟩
      rw [List.cons_append, eq_of_next_char hnext, List.append_nil]

/-- Bytes of a character of which the last are missing, or no bytes. -/
def IsPart (p : Bytes) : Prop :=
  ∃ c, p <+: String.utf8EncodeChar c ∧ p.length < (String.utf8EncodeChar c).length

theorem IsPart.nil : IsPart [] := ⟨'a', List.nil_prefix, by decide⟩

theorem IsPart.length_lt {p : Bytes} (h : IsPart p) : p.length < 4 := by
  obtain ⟨c, -, hlt⟩ := h
  rw [String.length_utf8EncodeChar] at hlt
  exact Nat.lt_of_lt_of_le hlt c.utf8Size_le_four

theorem IsPart.next_eq {p : Bytes} (h : IsPart (b :: p)) : next b p = (.cut, []) := by
  obtain ⟨c, hprefix, hlt⟩ := h
  obtain ⟨b', bs, hbytes, hnext⟩ := next_encodeChar c []
  rw [hbytes] at hprefix hlt
  rw [List.append_nil] at hnext
  obtain ⟨rfl, hp⟩ := List.cons_prefix_cons.1 hprefix
  rw [List.prefix_iff_eq_take.1 hp]
  exact next_take hnext (Nat.lt_of_succ_lt_succ hlt)

/-! ## Reading up to a cut -/

theorem decodePartial_of_char (h : next b r = (.char c, rest)) :
    decodePartial (b :: r) = (c :: (decodePartial rest).1, (decodePartial rest).2) := by
  rw [decodePartial]
  split
  · rename_i h'
    obtain ⟨hc, rfl⟩ := Prod.mk.inj (h.symm.trans h')
    obtain rfl := Item.char.inj hc
    rfl
  · rename_i hitem h'
    exact (hitem c (Prod.mk.inj (h'.symm.trans h)).1).elim

theorem decodePartial_of_item {item : Item} (h : next b r = (item, rest))
    (hitem : ∀ c, item ≠ .char c) : decodePartial (b :: r) = ([], some item) := by
  rw [decodePartial]
  split
  · rename_i c rest' h'
    exact (hitem c (Prod.mk.inj (h.symm.trans h')).1).elim
  · rename_i h'
    rw [(Prod.mk.inj (h'.symm.trans h)).1]

theorem decodePartial_append (cs : List Char) (p : Bytes) :
    decodePartial (encodeChars cs ++ p) = (cs ++ (decodePartial p).1, (decodePartial p).2) := by
  induction cs with
  | nil => rfl
  | cons c cs ih =>
    obtain ⟨b, bs, hbytes, hnext⟩ := next_encodeChar c (encodeChars cs ++ p)
    rw [encodeChars_cons, hbytes, List.append_assoc, List.cons_append, decodePartial_of_char hnext, ih]
    rfl

/-- What has been read up to a part of a character are the characters before it. -/
theorem decodePartial_part {p : Bytes} (h : IsPart p) (cs : List Char) :
    (decodePartial (encodeChars cs ++ p)).1 = cs ∧
      (decodePartial (encodeChars cs ++ p)).2 ≠ some .invalid := by
  rw [decodePartial_append]
  cases p with
  | nil => simp [decodePartial]
  | cons b p => simp [decodePartial_of_item h.next_eq]

/-- Bytes in which nothing invalid is met are characters, and perhaps the start of one. -/
theorem exists_of_decodePartial (h : (decodePartial bytes).2 ≠ some .invalid) :
    ∃ p c, bytes = encodeChars (decodePartial bytes).1 ++ p ∧ p <+: String.utf8EncodeChar c := by
  induction bytes using decodePartial.induct with
  | case1 => exact ⟨[], 'a', by simp [decodePartial, encodeChars], List.nil_prefix⟩
  | case2 b r c rest hnext _ _ _ ih =>
    rw [decodePartial_of_char hnext] at h ⊢
    obtain ⟨p, d, hrest, hp⟩ := ih h
    refine ⟨p, d, ?_, hp⟩
    rw [eq_of_next_char hnext, encodeChars_cons, List.append_assoc, ← hrest]
  | case3 b r item rest hitem hnext =>
    rw [decodePartial_of_item hnext hitem] at h ⊢
    cases item with
    | char c => exact (hitem c rfl).elim
    | invalid => exact (h rfl).elim
    | cut =>
      obtain ⟨c, hc⟩ := exists_of_next_cut hnext
      exact ⟨b :: r, c, rfl, hc⟩

/-! ## Cutting a text -/

/-- The characters from the start of a text whose bytes are within a number. -/
def fitting : Nat → List Char → List Char
  | _, [] => []
  | n, c :: cs => if c.utf8Size ≤ n then c :: fitting (n - c.utf8Size) cs else []

/-- Of a text that is cut off there are the characters that fit, and a part of the next one. -/
theorem take_encodeChars (n : Nat) (cs : List Char) :
    ∃ p, (encodeChars cs).take n = encodeChars (fitting n cs) ++ p ∧ IsPart p := by
  induction cs generalizing n with
  | nil => exact ⟨[], List.take_nil, .nil⟩
  | cons c cs ih =>
    rw [encodeChars_cons, List.take_append, fitting]
    have hlength := String.length_utf8EncodeChar c
    split
    · rename_i hle
      obtain ⟨p, hp, hpart⟩ := ih (n - c.utf8Size)
      refine ⟨p, ?_, hpart⟩
      rw [List.take_of_length_le (by omega), hlength, hp, encodeChars_cons, List.append_assoc]
    · rename_i hlt
      refine ⟨(String.utf8EncodeChar c).take n, ?_, c, List.take_prefix _ _, ?_⟩
      · rw [hlength, Nat.sub_eq_zero_of_le (by omega), List.take_zero, List.append_nil]
        rfl
      · rw [List.length_take, hlength]
        omega

/-- The longest start of a text that is within a number of bytes. -/
structure WholeWithin (n : Nat) (cs whole : List Char) : Prop where
  isPrefix : whole <+: cs
  within : (encodeChars whole).length ≤ n
  longest : ∀ pre, pre <+: cs → (encodeChars pre).length ≤ n → pre <+: whole

theorem wholeWithin_fitting (n : Nat) (cs : List Char) : WholeWithin n cs (fitting n cs) where
  isPrefix := by
    induction cs generalizing n with
    | nil => exact List.nil_prefix
    | cons c cs ih =>
      rw [fitting]
      split
      · exact List.cons_prefix_cons.2 ⟨rfl, ih _⟩
      · exact List.nil_prefix
  within := by
    obtain ⟨p, hp, -⟩ := take_encodeChars n cs
    have hlength := congrArg List.length hp
    rw [List.length_take, List.length_append] at hlength
    omega
  longest := by
    intro pre hpre hn
    induction cs generalizing n pre with
    | nil => exact hpre
    | cons c cs ih =>
      cases pre with
      | nil => exact List.nil_prefix
      | cons d pre =>
        obtain ⟨rfl, hrest⟩ := List.cons_prefix_cons.1 hpre
        rw [encodeChars_cons, List.length_append, String.length_utf8EncodeChar] at hn
        rw [fitting, if_pos (by omega)]
        exact List.cons_prefix_cons.2 ⟨rfl, ih _ pre hrest (by omega)⟩

theorem fitting_of_le (h : (encodeChars cs).length ≤ n) : fitting n cs = cs := by
  have hwhole := wholeWithin_fitting n cs
  exact hwhole.isPrefix.eq_of_length_le (hwhole.longest cs (List.prefix_refl cs) h).length_le

/-- At most three bytes of a text that is cut off are not of whole characters. -/
theorem lt_length_fitting (h : n < (encodeChars cs).length) :
    n < (encodeChars (fitting n cs)).length + 4 := by
  obtain ⟨p, hp, hpart⟩ := take_encodeChars n cs
  have hlength := congrArg List.length hp
  have hlt := hpart.length_lt
  rw [List.length_take, List.length_append] at hlength
  omega

theorem decodePartial_take (n : Nat) (cs : List Char) :
    (decodePartial ((encodeChars cs).take n)).1 = fitting n cs ∧
      (decodePartial ((encodeChars cs).take n)).2 ≠ some .invalid := by
  obtain ⟨p, hp, hpart⟩ := take_encodeChars n cs
  rw [hp]
  exact decodePartial_part hpart _

/-- Something invalid is met exactly in the bytes with which no text begins. -/
theorem decodePartial_invalid_iff :
    (decodePartial bytes).2 = some .invalid ↔ ¬ ∃ text, bytes <+: encode text := by
  constructor
  · rintro h ⟨text, hprefix⟩
    rw [List.prefix_iff_eq_take.1 hprefix] at h
    exact (decodePartial_take _ _).2 h
  · intro h
    refine Classical.byContradiction fun hvalid => ?_
    obtain ⟨p, c, hbytes, more, hmore⟩ := exists_of_decodePartial hvalid
    refine h ⟨String.ofList ((decodePartial bytes).1 ++ [c]), more, ?_⟩
    rw [encode, String.toList_ofList, encodeChars_append]
    conv => lhs; rw [hbytes]
    rw [List.append_assoc, hmore]
    simp [encodeChars]

/-! ## Bytes that are no text -/

/-- The bytes are those of a text. -/
def IsText (bytes : Bytes) : Prop := ∃ s, encode s = bytes

theorem isText_cons_iff :
    IsText (b :: r) ↔ ∃ c rest, next b r = (.char c, rest) ∧ IsText rest := by
  constructor
  · rintro ⟨s, hs⟩
    cases hcs : s.toList with
    | nil => simp [encode, hcs, encodeChars] at hs
    | cons c cs =>
      obtain ⟨b', bs, hbytes, hnext⟩ := next_encodeChar c (encodeChars cs)
      rw [encode, hcs, encodeChars_cons, hbytes, List.cons_append] at hs
      obtain ⟨rfl, rfl⟩ := List.cons.inj hs
      exact ⟨c, _, hnext, String.ofList cs, by rw [encode, String.toList_ofList]⟩
  · rintro ⟨c, rest, hnext, s, rfl⟩
    refine ⟨String.ofList (c :: s.toList), ?_⟩
    rw [eq_of_next_char hnext, encode, String.toList_ofList, encodeChars_cons]
    rfl

/-- Reading puts a replacement character where the bytes are not those of a text. -/
theorem replaced_of_not_isText (h : ¬ IsText bytes) :
    Char.ofNat 0xFFFD ∈ (decodeLossy bytes).toList := by
  rw [decodeLossy, String.toList_ofList]
  induction bytes using decodeLossyChars.induct with
  | case1 => exact absurd ⟨"", rfl⟩ h
  | case2 b r c rest hnext ih =>
    have hrest : ¬ IsText rest := fun hrest => h (isText_cons_iff.2 ⟨c, rest, hnext, hrest⟩)
    rw [decodeLossyChars]
    split
    · rename_i h'
      obtain ⟨-, rfl⟩ := Prod.mk.inj (hnext.symm.trans h')
      exact List.mem_cons_of_mem _ (ih hrest)
    · exact List.mem_cons_self
  | case3 b r item rest hitem hnext =>
    rw [decodeLossyChars]
    split
    · rename_i c _ h'
      exact (hitem c (Prod.mk.inj (hnext.symm.trans h')).1).elim
    · exact List.mem_cons_self

/-- What is read has the bytes again exactly if they are those of a text. -/
theorem encode_decodeLossy_iff : encode (decodeLossy bytes) = bytes ↔ IsText bytes := by
  refine ⟨fun h => ⟨_, h⟩, ?_⟩
  rintro ⟨s, rfl⟩
  rw [decodeLossy_encode]

end ScriptSandbox.Utf8
