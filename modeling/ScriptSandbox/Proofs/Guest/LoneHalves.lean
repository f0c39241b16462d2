import ScriptSandbox.Proofs.Guest.Written
import ScriptSandbox.Proofs.Json.ReadBack
import ScriptSandbox.Proofs.Text.Utf8

/-!
# Halves that stand alone

A text is what some characters are written as, or it has a half that stands alone
(`Units.exists_lone`). A guest writes such a half as an escape, which is no character to those who read
the text (`Writing.item_lone`).
-/

namespace ScriptSandbox

namespace Units

variable {u v h : UInt16} {rest : Units}

theorem isHalf_iff (u : UInt16) : isHalf u = true ↔ 0xD800 ≤ u.toNat ∧ u.toNat < 0xE000 := by
  have := isHalf_ofNat u.toNat_lt
  rwa [UInt16.ofNat_toNat] at this

theorem isHigh_iff (u : UInt16) : isHigh u = true ↔ 0xD800 ≤ u.toNat ∧ u.toNat < 0xDC00 := by
  have := isHigh_ofNat u.toNat_lt
  rwa [UInt16.ofNat_toNat] at this

theorem isLow_iff (u : UInt16) : isLow u = true ↔ 0xDC00 ≤ u.toNat ∧ u.toNat < 0xE000 := by
  have := isLow_ofNat u.toNat_lt
  rwa [UInt16.ofNat_toNat] at this

theorem ofChar_ofNat (hu : isHalf u = false) : ofChar (Char.ofNat u.toNat) = [u] := by
  have hlt := u.toNat_lt
  have hrange : ¬ (0xD800 ≤ u.toNat ∧ u.toNat < 0xE000) := by
    rw [← isHalf_iff, hu]
    exact Bool.false_ne_true
  have hvalid : u.toNat.isValidChar := by
    unfold Nat.isValidChar
    omega
  have hnat : (Char.ofNat u.toNat).toNat = u.toNat := Utf8.toNat_charOfNat hvalid
  unfold ofChar
  dsimp only
  rw [hnat, if_pos (by omega), UInt16.ofNat_toNat]

theorem ofChar_join (hu : isHigh u = true) (hv : isLow v = true) : ofChar (join u v) = [u, v] := by
  rw [isHigh_iff] at hu
  rw [isLow_iff] at hv
  have hvalid : (0x10000 + (u.toNat - 0xD800) * 0x400 + (v.toNat - 0xDC00)).isValidChar := by
    unfold Nat.isValidChar
    omega
  have hnat : (join u v).toNat = 0x10000 + (u.toNat - 0xD800) * 0x400 + (v.toNat - 0xDC00) :=
    Utf8.toNat_charOfNat hvalid
  have hhigh : 0xD800 + ((join u v).toNat - 0x10000) / 0x400 = u.toNat := by omega
  have hlow : 0xDC00 + ((join u v).toNat - 0x10000) % 0x400 = v.toNat := by omega
  unfold ofChar
  dsimp only
  rw [if_neg (by omega), hhigh, hlow, UInt16.ofNat_toNat, UInt16.ofNat_toNat]

/-- A half that makes no character with what follows. -/
structure Lone (h : UInt16) (rest : Units) : Prop where
  half : isHalf h = true
  apart : ∀ v t, rest = v :: t → (isHigh h && isLow v) = false

/-- A text is what some characters are written as, up to the first half that stands alone. -/
theorem exists_lone (u : Units) :
    (∃ cs, u = ofChars cs) ∨ ∃ cs h rest, u = ofChars cs ++ h :: rest ∧ Lone h rest := by
  have hcons : ∀ (c : Char) (w : Units),
      ((∃ cs, w = ofChars cs) ∨ ∃ cs h rest, w = ofChars cs ++ h :: rest ∧ Lone h rest) →
      (∃ cs, ofChar c ++ w = ofChars cs) ∨
        ∃ cs h rest, ofChar c ++ w = ofChars cs ++ h :: rest ∧ Lone h rest := by
    rintro c w (⟨cs, rfl⟩ | ⟨cs, h, rest, rfl, hlone⟩)
    · exact .inl ⟨c :: cs, rfl⟩
    · exact .inr ⟨c :: cs, h, rest, (List.append_assoc ..).symm, hlone⟩
  induction u using Guest.Writing.escapes.induct with
  | case1 => exact .inl ⟨[], rfl⟩
  | case2 u =>
    cases hu : isHalf u with
    | true => exact .inr ⟨[], u, [], rfl, hu, fun v t h => by cases h⟩
    | false => exact .inl ⟨[Char.ofNat u.toNat], by simp [ofChars, ofChar_ofNat hu]⟩
  | case3 u v rest hpair ih =>
    obtain ⟨hu, hv⟩ := Bool.and_eq_true_iff.1 hpair
    have := hcons (join u v) rest ih
    rwa [ofChar_join hu hv] at this
  | case4 u v rest hpair ih =>
    cases hu : isHalf u with
    | true =>
      refine .inr ⟨[], u, v :: rest, rfl, hu, fun v' t h => ?_⟩
      rw [← (List.cons.inj h).1]
      exact Bool.eq_false_iff.2 hpair
    | false =>
      have := hcons (Char.ofNat u.toNat) (v :: rest) ih
      rwa [ofChar_ofNat hu] at this

end Units

namespace Json

variable {s t : Bytes} {c : Char} {cs : List Char} {h : UInt16}

/-! ## Halves in a JSON text -/

/-- No escape of a low half stands here. -/
def NoLow (s : Bytes) : Prop :=
  ∀ t n u, s = 92 :: 117 :: t → readHex t = .ok (n, u) → n < 0xDC00 ∨ 0xDFFF < n

theorem readHex_hexFour {n : Nat} (hn : n < 0x10000) (s : Bytes) :
    readHex (Utf8.encodeChars (Units.hexFour hexDigit n) ++ s) = .ok (n, s) := by
  have hbytes : Utf8.encodeChars (Units.hexFour hexDigit n) ++ s =
      UInt8.ofNat (hexDigit (n / 4096 % 16)).toNat :: UInt8.ofNat (hexDigit (n / 256 % 16)).toNat ::
        UInt8.ofNat (hexDigit (n / 16 % 16)).toNat :: UInt8.ofNat (hexDigit (n % 16)).toNat :: s := by
    have hlt : ∀ m, (hexDigit (m % 16)).toNat < 128 := fun m => hexDigit_lt _ (Nat.mod_lt _ (by decide))
    simp only [Units.hexFour, Utf8.encodeChars, List.flatMap_cons, List.flatMap_nil,
      Utf8.encodeChar_of_lt (hlt _)]
    rfl
  have hvalue : ((n / 4096 % 16 * 16 + n / 256 % 16) * 16 + n / 16 % 16) * 16 + n % 16 = n := by omega
  rw [hbytes, readHex]
  simp only [hexValue_hexDigit _ (Nat.mod_lt _ (by decide : 0 < 16)), hvalue]

/-- The escape of a half that stands alone is no character. -/
theorem readUnicode_lone (hhalf : Units.isHalf h = true)
    (hnext : Units.isHigh h = true → NoLow s) :
    (readUnicode (Utf8.encodeChars (Units.hexFour hexDigit h.toNat) ++ s)).toOption = none := by
  have hrange := (Units.isHalf_iff h).1 hhalf
  unfold readUnicode
  rw [readHex_hexFour h.toNat_lt]
  show (if _ then _ else _ : Except Fault (Char × Bytes)).toOption = none
  by_cases hlow : 0xDC00 ≤ h.toNat
  · rw [if_pos ⟨hlow, by omega⟩]
    rfl
  · rw [if_neg (by omega)]
    show (if _ then _ else _ : Except Fault (Char × Bytes)).toOption = none
    rw [if_neg (by omega)]
    have hfree := hnext ((Units.isHigh_iff h).2 (by omega))
    split
    · rfl
    · rename_i s
      split
      · rfl
      · rename_i t
        cases hhex : readHex t with
        | error f => rfl
        | ok p =>
          obtain ⟨n, u⟩ := p
          have hout := hfree t n u rfl hhex
          show (if _ then _ else _ : Except Fault (Char × Bytes)).toOption = none
          rw [if_pos hout]
          rfl
      · rfl
    · rfl

/-- Characters, and then the escape of a half that stands alone. -/
theorem readStringBytes_lone (cs : List Char) (hhalf : Units.isHalf h = true)
    (hnext : Units.isHigh h = true → NoLow s) (acc : Bytes) {n : Nat}
    (hn : (Utf8.encodeChars (cs.flatMap escapeChar)).length < n) :
    (readStringBytes acc n (Utf8.encodeChars (cs.flatMap escapeChar) ++
      92 :: 117 :: (Utf8.encodeChars (Units.hexFour hexDigit h.toNat) ++ s))).toOption = none := by
  obtain ⟨m, hread⟩ := readStringBytes_chars cs acc
    (92 :: 117 :: (Utf8.encodeChars (Units.hexFour hexDigit h.toNat) ++ s)) hn
  have hunicode := readUnicode_lone hhalf hnext
  obtain ⟨f, hescape⟩ : ∃ f : Char × Bytes → Bytes × Bytes,
      readEscape (117 :: (Utf8.encodeChars (Units.hexFour hexDigit h.toNat) ++ s)) =
        (readUnicode (Utf8.encodeChars (Units.hexFour hexDigit h.toNat) ++ s)).map f := ⟨_, rfl⟩
  rw [hread, readStringBytes, if_neg (by decide), if_pos rfl, hescape]
  cases hresult : readUnicode (Utf8.encodeChars (Units.hexFour hexDigit h.toNat) ++ s) with
  | error f => rfl
  | ok p =>
    rw [hresult] at hunicode
    cases hunicode

/-- A string with such an escape in it is no value. -/
theorem item_lone {d : Nat} (cs : List Char) (hhalf : Units.isHalf h = true)
    (hnext : ∀ rest, Units.isHigh h = true → NoLow (t ++ rest)) :
    Item d (34 :: (Utf8.encodeChars (cs.flatMap escapeChar) ++
      92 :: 117 :: (Utf8.encodeChars (Units.hexFour hexDigit h.toNat) ++ t))) none where
  head := ⟨34, _, rfl, by decide, by decide, by decide⟩
  read := by
    intro depth n _ hn rest _
    obtain ⟨n, rfl⟩ : ∃ m, n = m + 1 := ⟨n - 1, by simp at hn; omega⟩
    rw [List.cons_append, List.append_assoc, List.cons_append, List.cons_append, List.append_assoc,
      readValue, skipSpace_cons rfl]
    show ((readString _).map _).toOption = none
    have hbytes := readStringBytes_lone cs hhalf (hnext rest) []
      (show (Utf8.encodeChars (cs.flatMap escapeChar)).length <
        (Utf8.encodeChars (cs.flatMap escapeChar) ++ 92 :: 117 ::
          (Utf8.encodeChars (Units.hexFour hexDigit h.toNat) ++ (t ++ rest))).length + 1 by
        rw [List.length_append]; omega)
    unfold readString
    revert hbytes
    generalize readStringBytes [] _ _ = result
    intro hbytes
    cases result with
    | error f => rfl
    | ok p => cases hbytes

end Json

namespace Guest.Writing

open Json (NoLow)

variable {u : Units} {h : UInt16} {rest : Units}

/-! ## What guests write of them -/

theorem noLow_hexFour {n : Nat} (hn : n < 0x10000) (hout : n < 0xDC00 ∨ 0xDFFF < n) (s : Bytes) :
    NoLow (Utf8.encodeChars ('\\' :: 'u' :: Units.hexFour Json.hexDigit n) ++ s) := by
  intro t m v hsplit hhex
  obtain rfl : Utf8.encodeChars (Units.hexFour Json.hexDigit n) ++ s = t :=
    (List.cons.inj (List.cons.inj hsplit).2).2
  rw [Json.readHex_hexFour hn] at hhex
  obtain ⟨rfl, -⟩ := Prod.mk.inj (Except.ok.inj hhex)
  exact hout

theorem noLow_escapeChar (c : Char) (s : Bytes) :
    NoLow (Utf8.encodeChars (Json.escapeChar c) ++ s) := by
  unfold Json.escapeChar
  split
  all_goals try
    exact fun t n v hsplit _ => absurd (List.cons.inj (List.cons.inj hsplit).2).1 (by decide)
  rename_i hquote hslash _ _ _ _ _
  split
  · rename_i hspace
    have htext : ['\\', 'u', '0', '0', Json.hexDigit (c.toNat / 16), Json.hexDigit (c.toNat % 16)] =
        '\\' :: 'u' :: Units.hexFour Json.hexDigit c.toNat := by
      rw [Units.hexFour, show c.toNat / 4096 % 16 = 0 by omega, show c.toNat / 256 % 16 = 0 by omega,
        show c.toNat / 16 % 16 = c.toNat / 16 by omega]
      rfl
    rw [htext]
    exact noLow_hexFour (by omega) (.inl (by omega)) s
  · rename_i hspace
    obtain ⟨b, bs, hc, -⟩ := Utf8.next_encodeChar c []
    have hplain := Json.plain_of_encodeChar hquote hslash hspace b
      (by rw [hc]; exact List.mem_cons_self)
    intro t n v hsplit _
    rw [show Utf8.encodeChars [c] = b :: bs from (List.append_nil _).trans hc] at hsplit
    exact absurd (List.cons.inj hsplit).1 hplain.2.1

theorem escapes_lone (hlone : Units.Lone h rest) :
    escapes (h :: rest) =
      Units.ofChars ('\\' :: 'u' :: Units.hexFour Json.hexDigit h.toNat) ++ escapes rest := by
  cases rest with
  | nil =>
    show escape h (Units.isHalf h) = _
    rw [hlone.half, escape, if_pos rfl]
    exact (List.append_nil _).symm
  | cons v rest =>
    rw [escapes, hlone.apart v rest rfl, if_neg Bool.false_ne_true, hlone.half, escape, if_pos rfl]

/-- What is written of a text are characters. No escape of a low half stands first, unless the text
begins with a low half. -/
theorem exists_escaped (u : Units) :
    ∃ cs, escapes u = Units.ofChars cs ∧
      ((∀ v t, u = v :: t → Units.isLow v = false) →
        ∀ s, NoLow (Utf8.encodeChars cs ++ 34 :: s)) := by
  have hchars : ∀ (cs ds : List Char),
      (cs = [] → ∀ s, NoLow (Utf8.encodeChars ds ++ 34 :: s)) →
      ∀ s, NoLow (Utf8.encodeChars (cs.flatMap Json.escapeChar ++ ds) ++ 34 :: s) := by
    intro cs ds hds s
    cases cs with
    | nil => exact hds rfl s
    | cons c cs =>
      rw [List.flatMap_cons, List.append_assoc, Utf8.encodeChars_append, List.append_assoc]
      exact noLow_escapeChar c _
  have hquote : ∀ s, NoLow (34 :: s) := fun s t n v hsplit _ =>
    absurd (List.cons.inj hsplit).1 (by decide)
  rcases Units.exists_lone u with ⟨cs, rfl⟩ | ⟨cs, h, rest, rfl, hlone⟩
  · refine ⟨cs.flatMap Json.escapeChar, ?_, fun _ s => ?_⟩
    · have := escapes_ofChars cs []
      rwa [List.append_nil, show escapes [] = [] from rfl, List.append_nil] at this
    · have := hchars cs [] (fun _ => hquote) s
      rwa [List.append_nil] at this
  · obtain ⟨ds, hds, -⟩ := exists_escaped rest
    refine ⟨cs.flatMap Json.escapeChar ++
      ('\\' :: 'u' :: Units.hexFour Json.hexDigit h.toNat ++ ds), ?_, fun hlow => ?_⟩
    · rw [escapes_ofChars, escapes_lone hlone, hds, Units.ofChars_append, Units.ofChars_append]
    · refine hchars cs _ ?_
      rintro rfl s
      have hhigh : Units.isLow h = false := hlow h rest rfl
      have hrange := (Units.isHalf_iff h).1 hlone.half
      have hout : h.toNat < 0xDC00 := by
        by_contra hge
        rw [(Units.isLow_iff h).2 (by omega)] at hhigh
        cases hhigh
      rw [Utf8.encodeChars_append, List.append_assoc]
      exact noLow_hexFour h.toNat_lt (.inl hout) _
termination_by u.length
decreasing_by
  rename_i hsplit
  rw [hsplit, List.length_append, List.length_cons]
  omega

/-- A text in which a half stands alone is written as a string that is no value. -/
theorem item_quote {d : Nat} (hu : ∀ s, u ≠ Units.ofString s) :
    ∃ s, quote u = Units.ofString s ∧ Json.Item d (Utf8.encode s) none := by
  rcases Units.exists_lone u with ⟨cs, rfl⟩ | ⟨cs, h, rest, rfl, hlone⟩
  · exact absurd (congrArg Units.ofChars (String.toList_ofList).symm) (hu (String.ofList cs))
  · obtain ⟨ds, hds, hnext⟩ := exists_escaped rest
    refine ⟨String.ofList ('"' :: (cs.flatMap Json.escapeChar ++
      ('\\' :: 'u' :: Units.hexFour Json.hexDigit h.toNat ++ (ds ++ ['"'])))), ?_, ?_⟩
    · unfold quote Units.ofString
      rw [escapes_ofChars, escapes_lone hlone, hds, String.toList_ofList]
      show 34 :: _ = 34 :: Units.ofChars _
      rw [Units.ofChars_append, Units.ofChars_append, Units.ofChars_append, List.append_assoc,
        List.append_assoc]
      rfl
    · have hbytes : Utf8.encode (String.ofList ('"' :: (cs.flatMap Json.escapeChar ++
          ('\\' :: 'u' :: Units.hexFour Json.hexDigit h.toNat ++ (ds ++ ['"']))))) =
          34 :: (Utf8.encodeChars (cs.flatMap Json.escapeChar) ++ 92 :: 117 ::
            (Utf8.encodeChars (Units.hexFour Json.hexDigit h.toNat) ++
              (Utf8.encodeChars ds ++ [34]))) := by
        unfold Utf8.encode
        rw [String.toList_ofList, Utf8.encodeChars_cons, Utf8.encodeChars_append,
          Utf8.encodeChars_append, Utf8.encodeChars_append]
        rfl
      rw [hbytes]
      refine Json.item_lone cs hlone.half fun tail hhigh => ?_
      rw [List.append_assoc, List.singleton_append]
      refine hnext (fun v t hv => ?_) tail
      have := hlone.apart v t hv
      rwa [hhigh, Bool.true_and] at this

end Guest.Writing

end ScriptSandbox
