import Mathlib.Data.List.Forall2
import ScriptSandbox.Json.Reader
import ScriptSandbox.Proofs.Text.Utf8

/-!
# Reading what has been written

The compact text of a value is read as that value, or as one with its fields in order: `Reads` says so
of a text, wherever it stands, and is proved for each shape from what is known of the parts. `Item`
says of any text what it is read as, or that it is not read at all.
-/

namespace ScriptSandbox.Json

variable {rest s : Bytes} {b : UInt8} {c : Char} {cs : List Char} {n : Nat}

theorem skipSpace_cons (h : isSpace b = false) (s : Bytes) : skipSpace (b :: s) = b :: s := by
  unfold skipSpace
  rw [List.dropWhile_cons_of_neg (by simp [h])]

/-! ## Strings -/

/-- Bytes that stand for themselves. -/
theorem readStringBytes_append {bs : Bytes} (hbs : ∀ b ∈ bs, b ≠ 34 ∧ b ≠ 92 ∧ ¬ b < 32)
    (acc : Bytes) (n : Nat) (s : Bytes) :
    readStringBytes acc (n + bs.length) (bs ++ s) = readStringBytes (bs.reverse ++ acc) n s := by
  induction bs generalizing acc with
  | nil => rfl
  | cons b bs ih =>
    obtain ⟨hquote, hslash, hspace⟩ := hbs b List.mem_cons_self
    rw [List.length_cons, ← Nat.add_assoc, List.cons_append, readStringBytes, if_neg hquote,
      if_neg hslash, if_neg hspace, ih fun b hb => hbs b (List.mem_cons_of_mem _ hb),
      List.reverse_cons, List.append_assoc]
    rfl

theorem plain_of_encodeChar (hquote : c ≠ '"') (hslash : c ≠ '\\') (hspace : ¬ c.toNat < 32) :
    ∀ b ∈ String.utf8EncodeChar c, b ≠ 34 ∧ b ≠ 92 ∧ ¬ b < 32 := by
  have hne : ∀ d : Char, c ≠ d → c.toNat ≠ d.toNat := fun d h e => h (Char.toNat_inj.1 e)
  have hquote' : c.toNat ≠ 34 := hne '"' hquote
  have hslash' : c.toNat ≠ 92 := hne '\\' hslash
  intro b hb
  simp only [ne_eq, ← UInt8.toNat_inj, UInt8.lt_iff_toNat_lt]
  show b.toNat ≠ 34 ∧ b.toNat ≠ 92 ∧ ¬ b.toNat < 32
  by_cases h : c.toNat < 128
  · rw [Utf8.encodeChar_of_lt h, List.mem_singleton] at hb
    rw [hb, UInt8.toNat_ofNat']
    omega
  · have := Utf8.le_of_mem_encodeChar (Nat.le_of_not_lt h) b hb
    omega

theorem hexValue_hexDigit : ∀ d < 16, hexValue (UInt8.ofNat (hexDigit d).toNat) = some d := by decide

theorem hexDigit_lt : ∀ d < 16, (hexDigit d).toNat < 128 := by decide

theorem readEscape_hex (h : c.toNat < 32) (s : Bytes) :
    readEscape (117 :: 48 :: 48 :: UInt8.ofNat (hexDigit (c.toNat / 16)).toNat ::
      UInt8.ofNat (hexDigit (c.toNat % 16)).toNat :: s) = .ok (String.utf8EncodeChar c, s) := by
  have hzero : hexValue 48 = some 0 := rfl
  have hvalue : ((0 * 16 + 0) * 16 + c.toNat / 16) * 16 + c.toNat % 16 = c.toNat := by omega
  show (readUnicode _).map _ = _
  have hhex : readHex (48 :: 48 :: UInt8.ofNat (hexDigit (c.toNat / 16)).toNat ::
      UInt8.ofNat (hexDigit (c.toNat % 16)).toNat :: s) = .ok (c.toNat, s) := by
    simp only [readHex, hzero, hexValue_hexDigit _ (show c.toNat / 16 < 16 by omega),
      hexValue_hexDigit _ (show c.toNat % 16 < 16 by omega), hvalue]
  have hunicode : readUnicode (48 :: 48 :: UInt8.ofNat (hexDigit (c.toNat / 16)).toNat ::
      UInt8.ofNat (hexDigit (c.toNat % 16)).toNat :: s) = .ok (c, s) := by
    unfold readUnicode
    rw [hhex]
    show (if _ then _ else _ : Except Fault (Char × Bytes)) = _
    rw [if_neg (by omega)]
    show (if _ then _ else _ : Except Fault (Char × Bytes)) = _
    rw [if_pos (by omega), Char.ofNat_toNat]
    rfl
  rw [hunicode]
  rfl

/-- One character of a string is read as it. -/
theorem readStringBytes_escapeChar (c : Char) :
    ∃ m, 0 < m ∧ m ≤ (Utf8.encodeChars (escapeChar c)).length ∧ ∀ acc n s,
      readStringBytes acc (n + m) (Utf8.encodeChars (escapeChar c) ++ s) =
        readStringBytes ((String.utf8EncodeChar c).reverse ++ acc) n s := by
  unfold escapeChar
  split
  all_goals try exact ⟨1, by decide, by decide, fun acc n s => rfl⟩
  rename_i hquote hslash _ _ _ _ _
  split
  · rename_i hspace
    refine ⟨1, by decide, ?_, fun acc n s => ?_⟩
    · simp [Utf8.encodeChars, Utf8.encodeChar_of_lt]
    · have h16 : c.toNat / 16 < 16 := by omega
      have h16' : c.toNat % 16 < 16 := by omega
      have hbytes : Utf8.encodeChars ['\\', 'u', '0', '0', hexDigit (c.toNat / 16),
          hexDigit (c.toNat % 16)] = 92 :: 117 :: 48 :: 48 ::
            UInt8.ofNat (hexDigit (c.toNat / 16)).toNat ::
            UInt8.ofNat (hexDigit (c.toNat % 16)).toNat :: [] := by
        simp only [Utf8.encodeChars, List.flatMap_cons, List.flatMap_nil,
          Utf8.encodeChar_of_lt (hexDigit_lt _ h16), Utf8.encodeChar_of_lt (hexDigit_lt _ h16')]
        rfl
      rw [hbytes]
      show readStringBytes acc (n + 1) (92 :: 117 :: 48 :: 48 :: _ :: _ :: s) = _
      rw [readStringBytes, if_neg (by decide), if_pos rfl, readEscape_hex hspace]
  · rename_i hspace
    have hbytes : Utf8.encodeChars [c] = String.utf8EncodeChar c := List.append_nil _
    rw [hbytes]
    refine ⟨_, ?_, Nat.le_refl _, readStringBytes_append (plain_of_encodeChar hquote hslash hspace)⟩
    obtain ⟨b, bs, hc, -⟩ := Utf8.next_encodeChar c []
    rw [hc]
    exact Nat.succ_pos _

/-- Characters of a string are read as they are, whatever follows. -/
theorem readStringBytes_chars (cs : List Char) (acc s : Bytes)
    (hn : (Utf8.encodeChars (cs.flatMap escapeChar)).length < n) :
    ∃ m, readStringBytes acc n (Utf8.encodeChars (cs.flatMap escapeChar) ++ s) =
      readStringBytes ((Utf8.encodeChars cs).reverse ++ acc) (m + 1) s := by
  induction cs generalizing acc n with
  | nil =>
    obtain ⟨n, rfl⟩ := Nat.exists_eq_succ_of_ne_zero (Nat.ne_of_gt hn)
    exact ⟨n, rfl⟩
  | cons c cs ih =>
    obtain ⟨m, -, hm, hread⟩ := readStringBytes_escapeChar c
    rw [List.flatMap_cons, Utf8.encodeChars_append, List.length_append] at hn
    obtain ⟨k, rfl⟩ : ∃ k, n = k + m := ⟨n - m, by omega⟩
    obtain ⟨m', hrest⟩ := ih ((String.utf8EncodeChar c).reverse ++ acc)
      (show (Utf8.encodeChars (cs.flatMap escapeChar)).length < k by omega)
    refine ⟨m', ?_⟩
    rw [List.flatMap_cons, Utf8.encodeChars_append, List.append_assoc, hread, hrest,
      Utf8.encodeChars_cons, List.reverse_append, List.append_assoc]

theorem readStringBytes_escaped (cs : List Char) (acc : Bytes) (rest : Bytes)
    (hn : (Utf8.encodeChars (cs.flatMap escapeChar)).length < n) :
    readStringBytes acc n (Utf8.encodeChars (cs.flatMap escapeChar) ++ 34 :: rest) =
      .ok (acc.reverse ++ Utf8.encodeChars cs, rest) := by
  obtain ⟨m, hread⟩ := readStringBytes_chars cs acc (34 :: rest) hn
  rw [hread, readStringBytes, if_pos rfl, List.reverse_append, List.reverse_reverse]

theorem encode_quote (t : String) :
    Utf8.encode (quote t) = 34 :: (Utf8.encodeChars (t.toList.flatMap escapeChar) ++ [34]) := by
  unfold quote quoteChars Utf8.encode
  rw [String.toList_ofList, Utf8.encodeChars_cons]
  exact congrArg (34 :: ·) List.flatMap_append

/-- A quoted string is read as what it quotes. -/
theorem readString_quote (t : String) (rest : Bytes) :
    readString (Utf8.encodeChars (t.toList.flatMap escapeChar) ++ 34 :: rest) = .ok (t, rest) := by
  unfold readString
  rw [readStringBytes_escaped _ _ _ (by rw [List.length_append, List.length_cons]; omega)]
  unfold Utf8.decode?
  dsimp only [List.reverse_nil, List.nil_append]
  rw [Utf8.decodeChars?_encodeChars, Option.map_some, String.ofList_toList]

/-! ## Numbers -/

/-- What follows does not go on with a number. -/
def Apart (rest : Bytes) : Prop :=
  ∀ b s, rest = b :: s → isDigit b = false ∧ b ≠ 46 ∧ b ≠ 101 ∧ b ≠ 69

theorem apart_nil : Apart [] := fun _ _ h => by cases h

theorem apart_cons (hdigit : isDigit b = false) (hpoint : b ≠ 46) (he : b ≠ 101) (hE : b ≠ 69)
    (s : Bytes) : Apart (b :: s) := by
  intro b' s' h
  obtain ⟨rfl, -⟩ := List.cons.inj h
  exact ⟨hdigit, hpoint, he, hE⟩

theorem toNat_of_isDigit (h : c.isDigit = true) : 48 ≤ c.toNat ∧ c.toNat ≤ 57 := by
  unfold Char.isDigit at h
  simpa [UInt32.le_iff_toNat_le] using h

theorem encodeChar_of_isDigit (h : c.isDigit = true) :
    String.utf8EncodeChar c = [UInt8.ofNat c.toNat] :=
  Utf8.encodeChar_of_lt (by have := toNat_of_isDigit h; omega)

theorem digit_toNat (h : c.isDigit = true) :
    (UInt8.ofNat c.toNat).toNat = c.toNat ∧ isDigit (UInt8.ofNat c.toNat) = true := by
  have hrange := toNat_of_isDigit h
  have hnat : (UInt8.ofNat c.toNat).toNat = c.toNat := by
    rw [UInt8.toNat_ofNat']
    omega
  refine ⟨hnat, ?_⟩
  unfold isDigit
  simp only [Bool.and_eq_true, decide_eq_true_eq, UInt8.le_iff_toNat_le, hnat]
  exact hrange

theorem le_ofDigitChars (cs : List Char) (n : Nat) : n ≤ Nat.ofDigitChars 10 cs n := by
  induction cs generalizing n with
  | nil => exact Nat.le_refl n
  | cons c cs ih =>
    rw [Nat.ofDigitChars_cons]
    exact Nat.le_trans (by omega) (ih _)

theorem Apart.noDigit (h : Apart rest) : ∀ b s, rest = b :: s → isDigit b = false :=
  fun b s hb => (h b s hb).1

theorem significandDigits_digits (hcs : ∀ c ∈ cs, c.isDigit = true)
    (hrest : ∀ b s, rest = b :: s → isDigit b = false) (hmax : Nat.ofDigitChars 10 cs n ≤ wordMax)
    (count : Nat) : significandDigits n count (Utf8.encodeChars cs ++ rest) =
      (Nat.ofDigitChars 10 cs n, count + cs.length, true, rest) := by
  induction cs generalizing n count with
  | nil =>
    show significandDigits n count rest = _
    cases rest with
    | nil => rfl
    | cons b s =>
      rw [significandDigits, hrest b s rfl]
      rfl
  | cons c cs ih =>
    have hc := hcs c List.mem_cons_self
    obtain ⟨hnat, hdigit⟩ := digit_toNat hc
    rw [Nat.ofDigitChars_cons, show '0'.toNat = 48 from rfl] at hmax ⊢
    have hnext : 10 * n + (c.toNat - 48) ≤ wordMax := Nat.le_trans (le_ofDigitChars cs _) hmax
    rw [Utf8.encodeChars_cons, encodeChar_of_isDigit hc]
    show significandDigits n count (UInt8.ofNat c.toNat :: (Utf8.encodeChars cs ++ rest)) = _
    rw [significandDigits, if_pos hdigit, hnat]
    dsimp only
    rw [if_neg (Nat.not_lt.2 hnext), ih (fun c hc => hcs c (List.mem_cons_of_mem _ hc)) hmax,
      List.length_cons, Nat.add_assoc, Nat.add_comm 1]

theorem decimalDigits_head (hn : n ≠ 0) :
    ∃ c cs, decimalDigits n = c :: cs ∧ c.isDigit = true ∧ c ≠ '0' := by
  unfold decimalDigits
  induction n using Nat.strongRecOn with
  | ind n ih =>
    rw [Nat.toDigits_eq_if (by decide)]
    split
    · rename_i hlt
      refine ⟨n.digitChar, [], rfl, ?_⟩
      have hall : ∀ m < 10, m ≠ 0 → m.digitChar.isDigit = true ∧ m.digitChar ≠ '0' := by decide
      exact hall n hlt hn
    · rename_i hge
      obtain ⟨c, cs, hcs, hc⟩ := ih (n / 10) (by omega) (by omega)
      exact ⟨c, cs ++ _, by rw [hcs]; rfl, hc⟩

/-- What comes behind the digits is no point and no exponent. -/
theorem readBehind_apart {negative : Bool} {s : Bytes} (hs : Apart s)
    (hnegative : negative = true → n ≠ 0 ∧ n ≤ 0x8000000000000000) :
    readBehind negative n 0 true s = .ok (.int (if negative then -(n : Int) else n), s) := by
  unfold readBehind
  split
  · exact absurd rfl (hs _ _ rfl).2.1
  · exact absurd rfl (hs _ _ rfl).2.2.1
  · exact absurd rfl (hs _ _ rfl).2.2.2
  · cases negative with
    | false => rfl
    | true =>
      obtain ⟨hzero, hle⟩ := hnegative rfl
      simp [hzero, Nat.not_lt.2 hle]

/-- The digits before a point, an exponent or the end, of which the first is not zero. -/
theorem readNumber_whole (negative : Bool) (hcs : ∀ d ∈ c :: cs, d.isDigit = true) (hzero : c ≠ '0')
    (hrest : ∀ b s, rest = b :: s → isDigit b = false)
    (hmax : Nat.ofDigitChars 10 (c :: cs) 0 ≤ wordMax) :
    readNumber negative (Utf8.encodeChars (c :: cs) ++ rest) =
      readBehind negative (Nat.ofDigitChars 10 (c :: cs) 0) 0 true rest := by
  have hc := hcs c List.mem_cons_self
  obtain ⟨hnat, hdigit⟩ := digit_toNat hc
  have hvalue : Nat.ofDigitChars 10 cs (c.toNat - 48) = Nat.ofDigitChars 10 (c :: cs) 0 := by
    rw [Nat.ofDigitChars_cons, Nat.mul_zero, Nat.zero_add]
    rfl
  have hne : UInt8.ofNat c.toNat ≠ 48 := by
    intro h
    refine hzero (Char.toNat_inj.1 ?_)
    rw [← hnat, h]
    rfl
  have hread := significandDigits_digits (fun d hd => hcs d (List.mem_cons_of_mem _ hd)) hrest
    (by rw [hvalue]; exact hmax) 1
  rw [Utf8.encodeChars_cons, encodeChar_of_isDigit hc]
  show readNumber negative (UInt8.ofNat c.toNat :: (Utf8.encodeChars cs ++ rest)) = _
  unfold readNumber
  simp only [hdigit, if_true, hnat, hread, hvalue]

theorem isDigit_of_mem_decimalDigits (h : c ∈ decimalDigits n) : c.isDigit = true :=
  Nat.isDigit_of_mem_toDigits (by decide) (by decide) h

theorem ofDigitChars_decimalDigits (n : Nat) : Nat.ofDigitChars 10 (decimalDigits n) 0 = n :=
  Nat.ofDigitChars_toDigits (by decide) (by decide)

/-- The digits of a number are read as it, with the sign that stands before them. -/
theorem readNumber_digits (negative : Bool) (hrest : Apart rest) (hmax : n ≤ wordMax)
    (hnegative : negative = true → n ≠ 0 ∧ n ≤ 0x8000000000000000) :
    readNumber negative (Utf8.encodeChars (decimalDigits n) ++ rest) =
      .ok (.int (if negative then -(n : Int) else n), rest) := by
  by_cases hn : n = 0
  · subst hn
    show readNumber negative (48 :: rest) = _
    unfold readNumber
    cases rest with
    | nil => exact readBehind_apart apart_nil hnegative
    | cons b s =>
      show (if isDigit b = true then _ else _ : Except Fault (Number × Bytes)) = _
      rw [if_neg (by simp [(hrest b s rfl).1])]
      exact readBehind_apart hrest hnegative
  · obtain ⟨c, cs, hdigits, -, hzero⟩ := decimalDigits_head hn
    have hvalue := ofDigitChars_decimalDigits n
    rw [hdigits] at hvalue ⊢
    rw [readNumber_whole negative (fun d hd => isDigit_of_mem_decimalDigits (hdigits ▸ hd)) hzero
      hrest.noDigit (by rwa [hvalue]), hvalue]
    exact readBehind_apart hrest hnegative

/-! ## Values -/

/-- What is read is the same whatever follows, and leaves it. -/
def ReadsTo {α : Type} (read : Reader α) (s : Bytes) (a : Option α) : Prop :=
  ∀ rest, Apart rest → (read (s ++ rest)).toOption = a.map (·, rest)

/-- A text is read as `a`, whatever follows, or not at all, where brackets leave room for `d` more. -/
structure Item (d : Nat) (t : Bytes) (a : Option Json) : Prop where
  head : ∃ b bs, t = b :: bs ∧ isSpace b = false ∧ b ≠ 44 ∧ b ≠ 93
  read : ∀ depth n, d < depth → 2 * t.length ≤ n → ReadsTo (readValue depth n) t a

/-- The text of `k` is read as `j`, whatever follows, where brackets leave room for `d` more. -/
structure Reads (d : Nat) (k j : Json) : Prop where
  head : ∃ b bs, Utf8.encode (compact k) = b :: bs ∧ isSpace b = false ∧ b ≠ 44 ∧ b ≠ 93
  read : ∀ depth n rest, d < depth → 2 * (Utf8.encode (compact k)).length ≤ n → Apart rest →
    readValue depth n (Utf8.encode (compact k) ++ rest) = .ok (j, rest)

variable {d : Nat}

theorem Reads.item {k j : Json} (h : Reads d k j) : Item d (Utf8.encode (compact k)) (some j) where
  head := h.head
  read := fun depth n hd hn rest hrest => congrArg Except.toOption (h.read depth n rest hd hn hrest)

theorem eq_ok_of_toOption {ε α : Type} {e : Except ε α} {x : α} (h : e.toOption = some x) :
    e = .ok x := by
  cases e with
  | error f => cases h
  | ok y => exact congrArg Except.ok (Option.some.inj h)

theorem Reads.of_item {k j : Json} (h : Item d (Utf8.encode (compact k)) (some j)) : Reads d k j where
  head := h.head
  read := fun depth n rest hd hn hrest => eq_ok_of_toOption (h.read depth n hd hn rest hrest)

theorem reads_null : Reads d .null .null where
  head := ⟨_, _, rfl, by decide, by decide, by decide⟩
  read := by
    intro depth n rest _ hn _
    obtain ⟨n, rfl⟩ := Nat.exists_eq_succ_of_ne_zero (Nat.ne_of_gt (Nat.lt_of_lt_of_le (by decide) hn))
    show readValue depth (n + 1) (110 :: 117 :: 108 :: 108 :: rest) = _
    rw [readValue, skipSpace_cons rfl]
    rfl

theorem reads_bool (v : Bool) : Reads d (.bool v) (.bool v) where
  head := by cases v <;> exact ⟨_, _, rfl, by decide, by decide, by decide⟩
  read := by
    intro depth n rest _ hn _
    have hpos : n ≠ 0 := by
      rintro rfl
      cases v <;> exact absurd hn (by decide)
    obtain ⟨n, rfl⟩ := Nat.exists_eq_succ_of_ne_zero hpos
    cases v with
    | false =>
      show readValue depth (n + 1) (102 :: 97 :: 108 :: 115 :: 101 :: rest) = _
      rw [readValue, skipSpace_cons rfl]
      rfl
    | true =>
      show readValue depth (n + 1) (116 :: 114 :: 117 :: 101 :: rest) = _
      rw [readValue, skipSpace_cons rfl]
      rfl

/-- A quoted string is a value of its own: where it ends does not hang on what follows. -/
theorem readValue_quote (t : String) (depth n : Nat) (rest : Bytes) :
    readValue depth (n + 1) (Utf8.encode (quote t) ++ rest) = .ok (.str t, rest) := by
  rw [encode_quote, List.cons_append, List.append_assoc, readValue, skipSpace_cons rfl]
  show (readString (Utf8.encodeChars (t.toList.flatMap escapeChar) ++ 34 :: rest)).map _ = _
  rw [readString_quote]
  rfl

theorem reads_str (t : String) : Reads d (.str t) (.str t) where
  head := ⟨34, _, encode_quote t, by decide, by decide, by decide⟩
  read := by
    intro depth n rest _ hn _
    have htext : Utf8.encode (compact (.str t)) = _ := encode_quote t
    obtain ⟨n, rfl⟩ : ∃ m, n = m + 1 := ⟨n - 1, by rw [htext] at hn; simp at hn; omega⟩
    exact readValue_quote t depth n rest

theorem range_of_isDigit (h : isDigit b = true) : 48 ≤ b.toNat ∧ b.toNat ≤ 57 := by
  unfold isDigit at h
  simpa [UInt8.le_iff_toNat_le] using h

theorem ne_of_isDigit (h : isDigit b = true) {a : UInt8} (ha : a.toNat < 48 ∨ 57 < a.toNat) :
    b ≠ a := by
  rintro rfl
  have := range_of_isDigit h
  omega

theorem isSpace_of_isDigit (h : isDigit b = true) : isSpace b = false := by
  unfold isSpace
  simp [ne_of_isDigit h]

theorem readValue_of_isDigit (h : isDigit b = true) (depth n : Nat) (s : Bytes) :
    readValue depth (n + 1) (b :: s) = (readNumber false (b :: s)).map fun (x, r) => (.num x, r) := by
  have hne : ∀ a : UInt8, a.toNat < 48 ∨ 57 < a.toNat → b ≠ a := fun a ha => ne_of_isDigit h ha
  have h110 := hne 110 (by decide)
  have h116 := hne 116 (by decide)
  have h102 := hne 102 (by decide)
  have h45 := hne 45 (by decide)
  have h34 := hne 34 (by decide)
  have h91 := hne 91 (by decide)
  have h123 := hne 123 (by decide)
  rw [readValue, skipSpace_cons (isSpace_of_isDigit h)]
  simp only [h, if_true]

theorem toOption_map {ε α β : Type} (f : α → β) (e : Except ε α) :
    (e.map f).toOption = e.toOption.map f := by
  cases e <;> rfl

/-- A number, with the sign that may stand before it. -/
theorem item_number {negative : Bool} {c : Char} {cs : List Char} {a : Option Number}
    (hc : c.isDigit = true)
    (hread : ReadsTo (readNumber negative) (Utf8.encodeChars (c :: cs)) a) :
    Item d (if negative then 45 :: Utf8.encodeChars (c :: cs) else Utf8.encodeChars (c :: cs))
      (a.map .num) := by
  have htext : Utf8.encodeChars (c :: cs) = UInt8.ofNat c.toNat :: Utf8.encodeChars cs := by
    rw [Utf8.encodeChars_cons, encodeChar_of_isDigit hc]
    rfl
  have hb := (digit_toNat hc).2
  rw [htext] at hread ⊢
  cases negative with
  | true =>
    refine ⟨⟨45, _, rfl, by decide, by decide, by decide⟩, fun depth n _ hn rest hrest => ?_⟩
    obtain ⟨n, rfl⟩ : ∃ m, n = m + 1 := ⟨n - 1, by simp at hn; omega⟩
    rw [if_pos rfl, List.cons_append, readValue, skipSpace_cons rfl]
    show ((readNumber true (UInt8.ofNat c.toNat :: Utf8.encodeChars cs ++ rest)).map _).toOption = _
    rw [toOption_map, hread rest hrest]
    cases a <;> rfl
  | false =>
    refine ⟨⟨_, _, rfl, isSpace_of_isDigit hb, ne_of_isDigit hb (by decide),
      ne_of_isDigit hb (by decide)⟩, fun depth n _ hn rest hrest => ?_⟩
    obtain ⟨n, rfl⟩ : ∃ m, n = m + 1 := ⟨n - 1, by simp at hn; omega⟩
    rw [if_neg Bool.false_ne_true, List.cons_append, readValue_of_isDigit hb, toOption_map,
      ← List.cons_append, hread rest hrest]
    cases a <;> rfl

theorem reads_int {i : Int} (hi : Number.isWord i = true) :
    Reads d (.num (.int i)) (.num (.int i)) := by
  have hword : -0x8000000000000000 ≤ i ∧ i < 0x10000000000000000 := by
    simpa [Number.isWord] using hi
  have hne : decimalDigits i.natAbs ≠ [] := Nat.toDigits_ne_nil
  obtain ⟨c, cs, hdigits⟩ := List.exists_cons_of_ne_nil hne
  have hc : c.isDigit = true := isDigit_of_mem_decimalDigits (hdigits ▸ List.mem_cons_self)
  have hread : ReadsTo (readNumber (decide (i < 0))) (Utf8.encodeChars (c :: cs))
      (some (.int i)) := by
    intro rest hrest
    rw [← hdigits, readNumber_digits _ hrest (by unfold wordMax; omega) fun hneg => by
      simp only [decide_eq_true_eq] at hneg
      omega]
    show some (Number.int (if decide (i < 0) = true then -(i.natAbs : Int) else i.natAbs), rest) = _
    have hsign : (if decide (i < 0) = true then -(i.natAbs : Int) else i.natAbs) = i := by
      simp only [decide_eq_true_eq]
      split <;> omega
    rw [hsign]
    rfl
  have htext : Utf8.encode (compact (.num (.int i))) = if decide (i < 0) = true then
      45 :: Utf8.encodeChars (c :: cs) else Utf8.encodeChars (c :: cs) := by
    show Utf8.encodeChars (String.ofList _).toList = _
    rw [String.toList_ofList, hdigits]
    simp only [decide_eq_true_eq]
    split <;> rfl
  refine .of_item ?_
  rw [htext]
  exact item_number hc hread

/-! ### Arrays -/

/-- The texts behind the first item. -/
def moreTexts (ts : List Bytes) : Bytes := ts.flatMap (44 :: ·)

/-- The texts of items, with commas between them. -/
def joined : List Bytes → Bytes
  | [] => []
  | t :: ts => t ++ moreTexts ts

theorem encode_items (ks : List Json) :
    Utf8.encode (compactItems ks) = joined (ks.map fun k => Utf8.encode (compact k)) := by
  cases ks with
  | nil => rfl
  | cons k ks =>
    induction ks generalizing k with
    | nil =>
      rw [compactItems]
      exact (List.append_nil _).symm
    | cons k' ks ih =>
      rw [compactItems, Utf8.encode_append, Utf8.encode_append, ih, List.append_assoc]
      rfl

theorem apart_moreTexts (ts : List Bytes) (rest : Bytes) : Apart (moreTexts ts ++ 93 :: rest) := by
  cases ts with
  | nil => exact apart_cons rfl (by decide) (by decide) (by decide) _
  | cons t ts => exact apart_cons rfl (by decide) (by decide) (by decide) _

/-- The first item begins at once. -/
theorem nextItem_first (hspace : isSpace b = false) (hcomma : b ≠ 44) (hclose : b ≠ 93)
    (s : Bytes) : nextItem true (b :: s) = .ok (true, b :: s) := by
  unfold nextItem
  rw [skipSpace_cons hspace]
  split
  · rename_i h
    cases h
  · rename_i h
    exact absurd (List.cons.inj h).1 hclose
  · rename_i h
    exact absurd (List.cons.inj h).1 hcomma
  · rfl

/-- Any other item stands behind a comma. -/
theorem nextItem_more (hspace : isSpace b = false) (hclose : b ≠ 93) (s : Bytes) :
    nextItem false (44 :: b :: s) = .ok (true, b :: s) := by
  unfold nextItem
  have hskip : skipSpace (44 :: b :: s) = 44 :: b :: s := skipSpace_cons rfl _
  simp only [hskip, skipSpace_cons hspace, Bool.false_eq_true, if_false]
  split
  · rename_i h
    cases h
  · rename_i h
    exact absurd (List.cons.inj h).1 hclose
  · rfl

/-- An item is read, and then those behind it; where it is not, nor are they. -/
theorem readItems_item {t s rest : Bytes} {a : Option Json} (ht : Item d t a) {depth : Nat}
    (hd : d < depth) (acc : List Json) (hnext : nextItem acc.isEmpty s = .ok (true, t ++ rest))
    (hn : 2 * t.length ≤ n) (hrest : Apart rest) :
    (readItems depth acc (n + 1) s).toOption =
      a.bind fun j => (readItems depth (j :: acc) n rest).toOption := by
  have hread := ht.read depth n hd hn rest hrest
  rw [readItems, hnext]
  dsimp only
  cases hvalue : readValue depth n (t ++ rest) with
  | error f =>
    rw [hvalue] at hread
    cases a with
    | none => rfl
    | some j => cases hread
  | ok p =>
    rw [hvalue] at hread
    cases a with
    | none => cases hread
    | some j =>
      obtain rfl : p = (j, rest) := Option.some.inj hread
      rfl

theorem readItems_more {ts : List Bytes} {as : List (Option Json)} (h : List.Forall₂ (Item d) ts as)
    {depth : Nat} (hd : d < depth) (acc : List Json) (hacc : acc ≠ []) (n : Nat)
    (hn : 2 * ((moreTexts ts).length + 1) ≤ n) (rest : Bytes) :
    (readItems depth acc n (moreTexts ts ++ 93 :: rest)).toOption =
      (as.mapM id).map fun js => (.arr (acc.reverse ++ js), rest) := by
  have hempty : acc.isEmpty = false := by simpa using hacc
  induction h generalizing acc n with
  | nil =>
    obtain ⟨n, rfl⟩ : ∃ m, n = m + 1 := ⟨n - 1, by omega⟩
    show (readItems depth acc (n + 1) (93 :: rest)).toOption = _
    rw [readItems, nextItem, skipSpace_cons rfl]
    simp [Except.toOption]
  | cons ht _ ih =>
    rename_i t a ts as _
    obtain ⟨b, bs, rfl, hspace, -, hclose⟩ := ht.head
    have hlength : 1 + (b :: bs).length + (moreTexts ts).length =
        (moreTexts ((b :: bs) :: ts)).length := by
      simp [moreTexts]
      omega
    have hsplit : moreTexts ((b :: bs) :: ts) ++ 93 :: rest =
        44 :: b :: (bs ++ (moreTexts ts ++ 93 :: rest)) := by
      simp [moreTexts]
    have hnext : nextItem acc.isEmpty (moreTexts ((b :: bs) :: ts) ++ 93 :: rest) =
        .ok (true, b :: bs ++ (moreTexts ts ++ 93 :: rest)) := by
      rw [hsplit, hempty, nextItem_more hspace hclose]
      rfl
    obtain ⟨n, rfl⟩ : ∃ m, n = m + 1 := ⟨n - 1, by omega⟩
    rw [readItems_item ht hd acc hnext (by omega) (apart_moreTexts ts rest)]
    cases a with
    | none => rfl
    | some j =>
      show (readItems depth (j :: acc) n (moreTexts ts ++ 93 :: rest)).toOption = _
      rw [ih (j :: acc) (by simp) n (by omega) rfl, List.mapM_cons]
      cases as.mapM id <;> simp

/-- An array is read where all its items are. -/
theorem item_arr {ts : List Bytes} {as : List (Option Json)} (h : List.Forall₂ (Item d) ts as) :
    Item (d + 1) (91 :: (joined ts ++ [93])) ((as.mapM id).map .arr) where
  head := ⟨91, joined ts ++ [93], rfl, by decide, by decide, by decide⟩
  read := by
    intro depth n hd hn rest _
    simp only [List.length_cons, List.length_append, List.length_nil] at hn
    obtain ⟨n, rfl⟩ : ∃ m, n = m + 2 := ⟨n - 2, by omega⟩
    rw [List.cons_append, List.append_assoc, List.singleton_append, readValue, skipSpace_cons rfl]
    show (if depth ≤ 1 then _ else _ : Except Fault (Json × Bytes)).toOption = _
    rw [if_neg (by omega)]
    cases h with
    | nil =>
      show (readItems (depth - 1) [] (n + 1) (93 :: rest)).toOption = _
      rw [readItems, nextItem, skipSpace_cons rfl]
      rfl
    | cons ht hts =>
      rename_i t a ts as
      obtain ⟨b, bs, rfl, hspace, hcomma, hclose⟩ := ht.head
      simp only [joined, List.length_cons, List.length_append] at hn
      rw [joined, List.append_assoc]
      have hnext : nextItem true (b :: bs ++ (moreTexts ts ++ 93 :: rest)) =
          .ok (true, b :: bs ++ (moreTexts ts ++ 93 :: rest)) := by
        rw [List.cons_append, nextItem_first hspace hcomma hclose]
      rw [readItems_item ht (show d < depth - 1 by omega) [] hnext
        (by simp only [List.length_cons]; omega) (apart_moreTexts ts rest)]
      cases a with
      | none => rfl
      | some j =>
        show (readItems (depth - 1) [j] n (moreTexts ts ++ 93 :: rest)).toOption = _
        rw [readItems_more hts (by omega) [j] (by simp) n (by omega) rest, List.mapM_cons]
        cases as.mapM id <;> simp

theorem reads_arr {ks js : List Json} (h : List.Forall₂ (Reads d) ks js) :
    Reads (d + 1) (.arr ks) (.arr js) := by
  have hbytes : Utf8.encode (compact (.arr ks)) =
      91 :: (joined (ks.map fun k => Utf8.encode (compact k)) ++ [93]) := by
    rw [compact, Utf8.encode_append, Utf8.encode_append, encode_items]
    rfl
  have hitems : List.Forall₂ (Item d) (ks.map fun k => Utf8.encode (compact k)) (js.map some) := by
    rw [List.forall₂_map_left_iff, List.forall₂_map_right_iff]
    exact h.imp fun _ _ hk => hk.item
  have hall : (js.map some).mapM id = some js := by
    clear h hitems hbytes
    induction js with
    | nil => rfl
    | cons j js ih =>
      rw [List.map_cons, List.mapM_cons, ih]
      rfl
  have hitem := item_arr hitems
  rw [hall, ← hbytes] at hitem
  exact .of_item hitem

/-! ### Objects -/

/-- The text of a field. -/
def fieldText (f : String × Json) : Bytes :=
  Utf8.encode (quote f.1) ++ 58 :: Utf8.encode (compact f.2)

/-- The texts behind the first field. -/
def moreFields (fs : List (String × Json)) : Bytes := fs.flatMap fun f => 44 :: fieldText f

theorem encode_fields (f : String × Json) (fs : List (String × Json)) :
    Utf8.encode (compactFields (f :: fs)) = fieldText f ++ moreFields fs := by
  induction fs generalizing f with
  | nil =>
    rw [compactFields, Utf8.encode_append, Utf8.encode_append, List.append_assoc]
    exact (List.append_nil _).symm
  | cons f' fs ih =>
    have hcolon : Utf8.encode ":" = [58] := rfl
    have hcomma : Utf8.encode "," = [44] := rfl
    rw [compactFields, Utf8.encode_append, Utf8.encode_append, Utf8.encode_append,
      Utf8.encode_append, ih, hcolon, hcomma]
    simp only [fieldText, moreFields, List.flatMap_cons, List.append_assoc, List.cons_append,
      List.nil_append]

theorem fieldText_append (f : String × Json) (t : Bytes) :
    fieldText f ++ t = 34 :: (Utf8.encodeChars (f.1.toList.flatMap escapeChar) ++
      34 :: 58 :: (Utf8.encode (compact f.2) ++ t)) := by
  unfold fieldText
  rw [encode_quote]
  simp

theorem apart_moreFields (fs : List (String × Json)) (rest : Bytes) :
    Apart (moreFields fs ++ 125 :: rest) := by
  cases fs with
  | nil => exact apart_cons rfl (by decide) (by decide) (by decide) _
  | cons f fs => exact apart_cons rfl (by decide) (by decide) (by decide) _

theorem nextField_first (s : Bytes) : nextField true (34 :: s) = .ok (true, 34 :: s) := by
  rw [nextField, skipSpace_cons rfl]
  rfl

theorem nextField_more (s : Bytes) : nextField false (44 :: 34 :: s) = .ok (true, 34 :: s) := by
  have hquote : skipSpace (34 :: s) = 34 :: s := skipSpace_cons rfl s
  rw [nextField, skipSpace_cons rfl]
  simp only [Bool.false_eq_true, if_false, hquote]
  rfl

/-- A field is read, and then those behind it. -/
theorem readFields_field {name : String} {k j : Json} (hk : Reads d k j) {depth : Nat}
    (hd : d < depth) (acc : List (String × Json)) {s t : Bytes}
    (hnext : nextField acc.isEmpty s = .ok (true, fieldText (name, k) ++ t))
    (hn : 2 * (Utf8.encode (compact k)).length ≤ n) (ht : Apart t) :
    readFields depth acc (n + 1) s = readFields depth ((name, j) :: acc) n t := by
  have hcolon : ∀ u : Bytes, readColon (58 :: u) = .ok u := by
    intro u
    rw [readColon, skipSpace_cons rfl]
    rfl
  rw [readFields, hnext, fieldText_append]
  dsimp only
  rw [List.drop_succ_cons, List.drop_zero, readString_quote]
  dsimp only
  rw [hcolon]
  dsimp only
  rw [hk.read depth n t hd hn ht]

theorem readFields_more {fs gs : List (String × Json)}
    (h : List.Forall₂ (fun f g => f.1 = g.1 ∧ Reads d f.2 g.2) fs gs) {depth : Nat}
    (hd : d < depth) (acc : List (String × Json)) (hacc : acc ≠ []) (n : Nat)
    (hn : 2 * ((moreFields fs).length + 1) ≤ n) (rest : Bytes) :
    readFields depth acc n (moreFields fs ++ 125 :: rest) =
      .ok (object (acc.reverse ++ gs), rest) := by
  have hempty : acc.isEmpty = false := by simpa using hacc
  induction h generalizing acc n with
  | nil =>
    obtain ⟨n, rfl⟩ : ∃ m, n = m + 1 := ⟨n - 1, by omega⟩
    show readFields depth acc (n + 1) (125 :: rest) = _
    rw [readFields, nextField, skipSpace_cons rfl, List.append_nil]
    rfl
  | cons hf _ ih =>
    rename_i f g fs gs _
    obtain ⟨name, k⟩ := f
    obtain ⟨name', j⟩ := g
    obtain ⟨rfl, hk⟩ : name = name' ∧ Reads d k j := hf
    have hlength : 1 + (Utf8.encode (compact k)).length + (moreFields fs).length ≤
        (moreFields ((name, k) :: fs)).length := by
      simp [moreFields, fieldText]
      omega
    have hnext : nextField acc.isEmpty (moreFields ((name, k) :: fs) ++ 125 :: rest) =
        .ok (true, fieldText (name, k) ++ (moreFields fs ++ 125 :: rest)) := by
      have hsplit : moreFields ((name, k) :: fs) ++ 125 :: rest =
          44 :: (fieldText (name, k) ++ (moreFields fs ++ 125 :: rest)) := by
        simp [moreFields]
      rw [hsplit, hempty, fieldText_append, nextField_more]
    obtain ⟨n, rfl⟩ : ∃ m, n = m + 1 := ⟨n - 1, by omega⟩
    rw [readFields_field hk hd acc hnext (by omega) (apart_moreFields fs rest),
      ih ((name, j) :: acc) (by simp) n (by omega) rfl, List.reverse_cons, List.append_assoc]
    rfl

theorem reads_obj {fs gs : List (String × Json)}
    (h : List.Forall₂ (fun f g => f.1 = g.1 ∧ Reads d f.2 g.2) fs gs) :
    Reads (d + 1) (.obj fs) (object gs) where
  head := by
    refine ⟨123, Utf8.encode (compactFields fs ++ "\x7d"), ?_, by decide, by decide, by decide⟩
    rw [compact, String.append_assoc, Utf8.encode_append]
    rfl
  read := by
    intro depth n rest hd hn _
    have hbytes : Utf8.encode (compact (.obj fs)) =
        123 :: (Utf8.encode (compactFields fs) ++ [125]) := by
      rw [compact, Utf8.encode_append, Utf8.encode_append]
      rfl
    rw [hbytes] at hn ⊢
    simp only [List.length_cons, List.length_append, List.length_nil] at hn
    obtain ⟨n, rfl⟩ : ∃ m, n = m + 2 := ⟨n - 2, by omega⟩
    rw [List.cons_append, List.append_assoc, readValue, skipSpace_cons rfl]
    show (if depth ≤ 1 then _ else _ : Except Fault (Json × Bytes)) = _
    rw [if_neg (by omega)]
    cases h with
    | nil =>
      show readFields (depth - 1) [] (n + 1) (125 :: rest) = _
      rw [readFields, nextField, skipSpace_cons rfl]
      rfl
    | cons hf hfs =>
      rename_i f g fs gs
      obtain ⟨name, k⟩ := f
      obtain ⟨name', j⟩ := g
      obtain ⟨rfl, hk⟩ : name = name' ∧ Reads d k j := hf
      have hlength : 1 + (Utf8.encode (compact k)).length ≤ (fieldText (name, k)).length := by
        simp [fieldText]
        omega
      rw [encode_fields, List.length_append] at hn
      rw [encode_fields, List.append_assoc, List.singleton_append]
      have hnext : nextField true (fieldText (name, k) ++ (moreFields fs ++ 125 :: rest)) =
          .ok (true, fieldText (name, k) ++ (moreFields fs ++ 125 :: rest)) := by
        rw [fieldText_append, nextField_first]
      rw [readFields_field hk (show d < depth - 1 by omega) [] hnext (by omega)
        (apart_moreFields fs rest)]
      exact readFields_more hfs (by omega) [(name, j)] (by simp) n (by omega) rest

/-! ## Whole texts -/

/-- A text that is read wherever it stands, or nowhere, is so read where nothing else is there. -/
theorem Item.read_alone {t : Bytes} {a : Option Json} (h : Item d t a) (hd : d < maxDepth) :
    (Json.read t).toOption = a := by
  have hvalue := h.read maxDepth (2 * t.length + 2) hd (by omega) [] apart_nil
  rw [List.append_nil] at hvalue
  unfold Json.read
  cases hread : readValue maxDepth (2 * t.length + 2) t with
  | error f =>
    rw [hread] at hvalue
    cases a with
    | none => rfl
    | some j => cases hvalue
  | ok p =>
    rw [hread] at hvalue
    cases a with
    | none => cases hvalue
    | some j =>
      obtain rfl : p = (j, []) := Option.some.inj hvalue
      rfl

theorem Reads.read_encode {k j : Json} (h : Reads d k j) (hd : d < maxDepth) :
    Json.read (Utf8.encode (compact k)) = .ok j :=
  eq_ok_of_toOption (h.item.read_alone hd)

end ScriptSandbox.Json
