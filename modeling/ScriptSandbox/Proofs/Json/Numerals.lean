import ScriptSandbox.Proofs.Json.ReadBack
import ScriptSandbox.Proofs.Number.Fewest

/-!
# Reading decimals

A decimal with a point or an exponent is read as its digits and its power of ten, wherever the point
stands (`readNumber_decimalText`). What comes of the two is the nearest double where both are doubles
exactly (`scaleDouble_short`).
-/

namespace ScriptSandbox.Json

variable {rest s : Bytes} {b : UInt8} {c : Char} {cs ds : List Char} {n k : Nat} {negative : Bool}
variable {exponent : Int}

/-! ## Parts -/

theorem le_wordMax_of_append (h : Nat.ofDigitChars 10 (cs ++ ds) n ≤ wordMax) :
    Nat.ofDigitChars 10 cs n ≤ wordMax := by
  rw [Nat.ofDigitChars_append] at h
  exact Nat.le_trans (le_ofDigitChars ds _) h

theorem noDigit_cons (h : isDigit b = false) (s : Bytes) :
    ∀ a t, b :: s = a :: t → isDigit a = false := by
  intro a t hcons
  rw [← (List.cons.inj hcons).1]
  exact h

/-- Digits behind a point, and what is behind them. -/
theorem readFraction_eq (hcs : ∀ d ∈ cs, d.isDigit = true) (hne : cs ≠ [])
    (hmax : Nat.ofDigitChars 10 cs n ≤ wordMax) :
    (∀ b s, rest = b :: s → isDigit b = false) →
      readFraction negative n exponent (Utf8.encodeChars cs ++ rest) =
        match rest with
        | 101 :: s | 69 :: s =>
          readExponent negative (Nat.ofDigitChars 10 cs n) (exponent - cs.length) s
        | _ => finish negative (Nat.ofDigitChars 10 cs n) (exponent - cs.length) rest := by
  intro hrest
  have hread := significandDigits_digits hcs hrest hmax 0
  have hcount : ¬ ((0 + cs.length = 0) ∧ (true : Bool) = true) := by
    simpa using hne
  unfold readFraction
  rw [hread]
  dsimp only
  rw [if_neg hcount, Nat.zero_add]
  rfl

theorem readFraction_digits (hcs : ∀ d ∈ cs, d.isDigit = true) (hne : cs ≠ [])
    (hmax : Nat.ofDigitChars 10 cs n ≤ wordMax) (hrest : Apart rest) :
    readFraction negative n exponent (Utf8.encodeChars cs ++ rest) =
      finish negative (Nat.ofDigitChars 10 cs n) (exponent - cs.length) rest := by
  rw [readFraction_eq hcs hne hmax hrest.noDigit]
  split
  · exact absurd rfl (hrest _ _ rfl).2.2.1
  · exact absurd rfl (hrest _ _ rfl).2.2.2
  · rfl

/-- Digits between a point and an exponent. -/
theorem readFraction_exponent (hcs : ∀ d ∈ cs, d.isDigit = true) (hne : cs ≠ [])
    (hmax : Nat.ofDigitChars 10 cs n ≤ wordMax) (s : Bytes) :
    readFraction negative n exponent (Utf8.encodeChars cs ++ 101 :: s) =
      readExponent negative (Nat.ofDigitChars 10 cs n) (exponent - cs.length) s :=
  readFraction_eq hcs hne hmax (noDigit_cons (show isDigit 101 = false from rfl) s)

theorem exponentDigits_digits (hcs : ∀ d ∈ cs, d.isDigit = true)
    (hrest : ∀ b s, rest = b :: s → isDigit b = false) :
    exponentDigits n (Utf8.encodeChars cs ++ rest) = (Nat.ofDigitChars 10 cs n, rest) := by
  induction cs generalizing n with
  | nil =>
    show exponentDigits n rest = _
    cases rest with
    | nil => rfl
    | cons b s =>
      rw [exponentDigits, hrest b s rfl]
      rfl
  | cons c cs ih =>
    have hc := hcs c List.mem_cons_self
    obtain ⟨hnat, hdigit⟩ := digit_toNat hc
    rw [Utf8.encodeChars_cons, encodeChar_of_isDigit hc, Nat.ofDigitChars_cons]
    show exponentDigits n (UInt8.ofNat c.toNat :: (Utf8.encodeChars cs ++ rest)) = _
    rw [exponentDigits, if_pos hdigit, hnat, ih fun d hd => hcs d (List.mem_cons_of_mem _ hd)]
    rfl

/-- A power of ten with its sign. -/
theorem readExponent_digits (down : Bool) (hk : k < 0x80000000) (hrest : Apart rest) :
    readExponent negative n exponent
        (Utf8.encodeChars ((if down then '-' else '+') :: decimalDigits k) ++ rest) =
      finish negative n (if down then exponent - k else exponent + k) rest := by
  obtain ⟨c, cs, hdigits⟩ : ∃ c cs, decimalDigits k = c :: cs :=
    List.exists_cons_of_ne_nil Nat.toDigits_ne_nil
  have hall : ∀ d ∈ c :: cs, d.isDigit = true := fun d hd => isDigit_of_mem_decimalDigits (hdigits ▸ hd)
  have hc := hall c List.mem_cons_self
  obtain ⟨hnat, hdigit⟩ := digit_toNat hc
  have hvalue : Nat.ofDigitChars 10 cs (c.toNat - 48) = k := by
    have := ofDigitChars_decimalDigits k
    rwa [hdigits, Nat.ofDigitChars_cons, Nat.mul_zero, Nat.zero_add] at this
  have hread := exponentDigits_digits (n := c.toNat - 48)
    (fun d hd => hall d (List.mem_cons_of_mem _ hd)) hrest.noDigit
  rw [hvalue] at hread
  have hbytes : Utf8.encodeChars ((if down then '-' else '+') :: decimalDigits k) ++ rest =
      (if down then 45 else 43) :: UInt8.ofNat c.toNat :: (Utf8.encodeChars cs ++ rest) := by
    rw [hdigits, Utf8.encodeChars_cons, Utf8.encodeChars_cons, encodeChar_of_isDigit hc]
    cases down <;> rfl
  rw [hbytes]
  unfold readExponent
  cases down <;>
    simp only [Bool.false_eq_true, if_true, if_false, hdigit, hnat, hread, Nat.not_le.2 hk]

/-! ## Decimals -/

/-- Digits with a point among them. -/
theorem readNumber_point (hcs : ∀ d ∈ c :: cs ++ ds, d.isDigit = true) (hzero : c ≠ '0')
    (hne : ds ≠ []) (hmax : Nat.ofDigitChars 10 (c :: cs ++ ds) 0 ≤ wordMax) (hrest : Apart rest) :
    readNumber negative (Utf8.encodeChars (c :: cs ++ '.' :: ds) ++ rest) =
      finish negative (Nat.ofDigitChars 10 (c :: cs ++ ds) 0) (-(ds.length : Int)) rest := by
  have hsplit : Utf8.encodeChars (c :: cs ++ '.' :: ds) ++ rest =
      Utf8.encodeChars (c :: cs) ++ 46 :: (Utf8.encodeChars ds ++ rest) := by
    rw [Utf8.encodeChars_append, List.append_assoc, Utf8.encodeChars_cons '.']
    rfl
  rw [hsplit, readNumber_whole negative (fun d hd => hcs d (List.mem_append_left _ hd)) hzero
    (noDigit_cons rfl _) (le_wordMax_of_append hmax)]
  show readFraction negative _ 0 _ = _
  rw [readFraction_digits (fun d hd => hcs d (List.mem_append_right _ hd)) hne
    (by rwa [← Nat.ofDigitChars_append]) hrest, ← Nat.ofDigitChars_append, zero_sub]

/-- Digits behind a point, with zeros before them. -/
theorem readNumber_small (hcs : ∀ d ∈ cs, d.isDigit = true) (hne : cs ≠ []) (k : Nat)
    (hmax : Nat.ofDigitChars 10 cs 0 ≤ wordMax) (hrest : Apart rest) :
    readNumber negative (Utf8.encodeChars ('0' :: '.' :: (zeros k ++ cs)) ++ rest) =
      finish negative (Nat.ofDigitChars 10 cs 0) (-((k + cs.length : Nat) : Int)) rest := by
  have hvalue : Nat.ofDigitChars 10 (zeros k ++ cs) 0 = Nat.ofDigitChars 10 cs 0 := by
    rw [Nat.ofDigitChars_append, zeros, Nat.ofDigitChars_replicate_zero, Nat.mul_zero]
  have hdigits : ∀ d ∈ zeros k ++ cs, d.isDigit = true := by
    intro d hd
    rcases List.mem_append.1 hd with hd | hd
    · rw [List.eq_of_mem_replicate hd]
      rfl
    · exact hcs d hd
  show readFraction negative 0 0 (Utf8.encodeChars (zeros k ++ cs) ++ rest) = _
  rw [readFraction_digits hdigits (by simp [hne]) (by rwa [hvalue]) hrest, hvalue, zero_sub,
    List.length_append, zeros, List.length_replicate]

/-- Digits with a point behind the first, and an exponent. -/
theorem readNumber_exponent (hcs : ∀ d ∈ c :: cs, d.isDigit = true) (hzero : c ≠ '0')
    (hmax : Nat.ofDigitChars 10 (c :: cs) 0 ≤ wordMax) (down : Bool) (hk : k < 0x80000000)
    (hrest : Apart rest) :
    readNumber negative (Utf8.encodeChars ((if cs = [] then [c] else c :: '.' :: cs) ++
        ['e', if down then '-' else '+'] ++ decimalDigits k) ++ rest) =
      finish negative (Nat.ofDigitChars 10 (c :: cs) 0)
        (-(cs.length : Int) + if down then -(k : Int) else k) rest := by
  have hpower : ∀ t : Bytes,
      Utf8.encodeChars (['e', if down then '-' else '+'] ++ decimalDigits k) ++ t =
      101 :: (Utf8.encodeChars ((if down then '-' else '+') :: decimalDigits k) ++ t) := by
    intro t
    show Utf8.encodeChars ('e' :: (if down then '-' else '+') :: decimalDigits k) ++ t = _
    rw [Utf8.encodeChars_cons]
    rfl
  cases cs with
  | nil =>
    show readNumber negative (Utf8.encodeChars ([c] ++ ['e', _] ++ decimalDigits k) ++ rest) = _
    rw [List.append_assoc, Utf8.encodeChars_append, List.append_assoc, hpower,
      readNumber_whole negative hcs hzero (noDigit_cons rfl _) hmax]
    show readExponent negative _ 0 _ = _
    rw [readExponent_digits down hk hrest]
    cases down <;> simp
  | cons c' cs =>
    show readNumber negative
      (Utf8.encodeChars (([c] ++ '.' :: (c' :: cs)) ++ ['e', _] ++ decimalDigits k) ++ rest) = _
    rw [List.append_assoc, List.append_assoc, Utf8.encodeChars_append, List.append_assoc,
      List.cons_append, Utf8.encodeChars_cons '.', List.append_assoc, Utf8.encodeChars_append,
      List.append_assoc, hpower]
    have hfirst : Nat.ofDigitChars 10 [c] 0 ≤ wordMax :=
      le_wordMax_of_append (show Nat.ofDigitChars 10 ([c] ++ c' :: cs) 0 ≤ wordMax from hmax)
    have hone : ∀ d ∈ [c], d.isDigit = true := by simpa using hcs c List.mem_cons_self
    show readNumber negative (Utf8.encodeChars [c] ++ 46 :: _) = _
    rw [readNumber_whole negative hone hzero (noDigit_cons rfl _) hfirst]
    show readFraction negative _ 0 (Utf8.encodeChars (c' :: cs) ++ 101 :: _) = _
    have hmax' : Nat.ofDigitChars 10 (c' :: cs) (Nat.ofDigitChars 10 [c] 0) ≤ wordMax := by
      rwa [← Nat.ofDigitChars_append]
    rw [readFraction_exponent (fun d hd => hcs d (List.mem_cons_of_mem _ hd)) (List.cons_ne_nil c' cs)
      hmax', ← Nat.ofDigitChars_append, readExponent_digits down hk hrest, zero_sub]
    cases down <;> rfl

/-- The text of a decimal that is not written as a whole number is read as its digits and its power
of ten. -/
theorem readNumber_decimalText {D : Double.Decimal} (hpos : 0 < D.digits)
    (hmax : D.digits ≤ wordMax) (hexponent : D.exponent.natAbs < 0x1000)
    (hform : ¬ (0 ≤ D.exponent ∧ (decimalDigits D.digits).length + D.exponent ≤ 21))
    (hrest : Apart rest) :
    readNumber negative (Utf8.encodeChars (Guest.decimalText D) ++ rest) =
      finish negative D.digits D.exponent rest := by
  obtain ⟨c, cs, hdigits, -, hzero⟩ := decimalDigits_head hpos.ne'
  have hall : ∀ d ∈ c :: cs, d.isDigit = true := fun d hd => isDigit_of_mem_decimalDigits (hdigits ▸ hd)
  have hvalue : Nat.ofDigitChars 10 (c :: cs) 0 = D.digits := hdigits ▸ ofDigitChars_decimalDigits _
  have hlength : (c :: cs).length ≤ 20 := hdigits ▸
    (Nat.length_toDigits_le_iff (by decide) (by decide)).2 (Nat.lt_of_le_of_lt hmax (by decide))
  unfold Guest.decimalText
  dsimp only
  rw [if_neg hform]
  rw [hdigits] at hform ⊢
  rw [← hvalue] at hmax
  rw [List.length_cons] at hlength hform ⊢
  split
  · -- The point stands among the digits.
    rename_i hpoint
    obtain ⟨k, hk⟩ : ∃ k : Nat, ((cs.length + 1 : Nat) : Int) + D.exponent = ((k + 1 : Nat) : Int) :=
      ⟨(((cs.length + 1 : Nat) : Int) + D.exponent).toNat - 1, by omega⟩
    have hbehind : k < cs.length := by omega
    have hsplit : c :: cs.take k ++ cs.drop k = c :: cs :=
      congrArg (c :: ·) (List.take_append_drop k cs)
    rw [hk, Int.toNat_natCast, List.take_succ_cons, List.drop_succ_cons,
      readNumber_point (by rwa [hsplit]) hzero (by simpa using hbehind) (by rwa [hsplit]) hrest, hsplit,
      hvalue, List.length_drop]
    congr 1
    omega
  · split
    · -- It stands before them.
      rename_i hpoint
      rw [readNumber_small hall (List.cons_ne_nil c cs) _ hmax hrest, hvalue, List.length_cons]
      congr 1
      omega
    · have hread : readNumber negative _ = _ := readNumber_exponent hall hzero hmax
        (decide (((cs.length + 1 : Nat) : Int) + D.exponent - 1 < 0))
        (show (((cs.length + 1 : Nat) : Int) + D.exponent - 1).natAbs < 0x80000000 by omega) hrest
      simp only [decide_eq_true_eq] at hread
      refine Eq.trans ?_ (hread.trans ?_)
      · cases cs <;> rfl
      · rw [hvalue]
        congr 1
        split <;> omega

/-! ## Whole numbers -/

theorem finish_toOption (negative : Bool) (digits : Nat) (exponent : Int) (s : Bytes) :
    (finish negative digits exponent s).toOption = ((scaleDouble (.ofNat digits) exponent 5).map fun x =>
      Number.double (if negative then x.neg else x)).map (·, s) := by
  unfold finish
  cases scaleDouble (.ofNat digits) exponent 5 <;> rfl

theorem exists_readBehind (negative : Bool) (digits k : Nat) (whole : Bool) :
    ∃ a, ReadsTo (readBehind negative digits k whole) [] a := by
  have hplain : ∀ rest, Apart rest → readBehind negative digits k whole rest =
      if !whole then finish negative digits k rest
      else if !negative then .ok (.int digits, rest)
      else if digits = 0 ∨ 0x8000000000000000 < digits then
        .ok (.double (Double.ofNat digits).neg, rest)
      else .ok (.int (-digits), rest) := by
    intro rest hrest
    unfold readBehind
    split
    · exact absurd rfl (hrest _ _ rfl).2.1
    · exact absurd rfl (hrest _ _ rfl).2.2.1
    · exact absurd rfl (hrest _ _ rfl).2.2.2
    · rfl
  cases whole with
  | false => exact ⟨_, fun rest hrest => (congrArg Except.toOption (hplain rest hrest)).trans
      (finish_toOption negative digits k rest)⟩
  | true =>
    cases negative with
    | false =>
      exact ⟨some (.int digits), fun rest hrest => congrArg Except.toOption (hplain rest hrest)⟩
    | true =>
      by_cases hbig : digits = 0 ∨ 0x8000000000000000 < digits
      · refine ⟨some (.double (Double.ofNat digits).neg), fun rest hrest => ?_⟩
        rw [List.nil_append, hplain rest hrest]
        simp only [Bool.not_true, Bool.false_eq_true, if_false, if_pos hbig]
        rfl
      · refine ⟨some (.int (-digits)), fun rest hrest => ?_⟩
        rw [List.nil_append, hplain rest hrest]
        simp only [Bool.not_true, Bool.false_eq_true, if_false, if_neg hbig]
        rfl

/-- Digits, of which as many are taken as fit. -/
theorem exists_significandDigits (hcs : ∀ d ∈ cs, d.isDigit = true) (n count : Nat) :
    ∃ digits m whole tail, (∀ d ∈ tail, d.isDigit = true) ∧ (whole = true → tail = []) ∧
      ∀ rest, (∀ b s, rest = b :: s → isDigit b = false) →
        significandDigits n count (Utf8.encodeChars cs ++ rest) =
          (digits, m, whole, Utf8.encodeChars tail ++ rest) := by
  induction cs generalizing n count with
  | nil =>
    refine ⟨n, count, true, [], by simp, fun _ => rfl, fun rest hrest => ?_⟩
    show significandDigits n count rest = (n, count, true, rest)
    cases rest with
    | nil => rfl
    | cons b s =>
      rw [significandDigits, hrest b s rfl]
      rfl
  | cons c cs ih =>
    obtain ⟨hnat, hdigit⟩ := digit_toNat (hcs c List.mem_cons_self)
    have hbytes : Utf8.encodeChars (c :: cs) = UInt8.ofNat c.toNat :: Utf8.encodeChars cs := by
      rw [Utf8.encodeChars_cons, encodeChar_of_isDigit (hcs c List.mem_cons_self)]
      rfl
    by_cases hbig : wordMax < 10 * n + (c.toNat - 48)
    · refine ⟨n, count, false, c :: cs, hcs, by simp, fun rest hrest => ?_⟩
      rw [hbytes, List.cons_append, significandDigits, if_pos hdigit, hnat]
      dsimp only
      rw [if_pos hbig]
    · obtain ⟨digits, m, whole, tail, htail, hwhole, hread⟩ :=
        ih (fun d hd => hcs d (List.mem_cons_of_mem _ hd)) (10 * n + (c.toNat - 48)) (count + 1)
      refine ⟨digits, m, whole, tail, htail, hwhole, fun rest hrest => ?_⟩
      rw [hbytes, List.cons_append, significandDigits, if_pos hdigit, hnat]
      dsimp only
      rw [if_neg hbig, hread rest hrest]

theorem takeWhile_digits (hcs : ∀ d ∈ cs, d.isDigit = true)
    (hrest : ∀ b s, rest = b :: s → isDigit b = false) :
    (Utf8.encodeChars cs ++ rest).takeWhile isDigit = Utf8.encodeChars cs := by
  induction cs with
  | nil =>
    show rest.takeWhile isDigit = []
    cases rest with
    | nil => rfl
    | cons b s => rw [List.takeWhile_cons_of_neg (by simp [hrest b s rfl])]
  | cons c cs ih =>
    obtain ⟨-, hdigit⟩ := digit_toNat (hcs c List.mem_cons_self)
    rw [Utf8.encodeChars_cons, encodeChar_of_isDigit (hcs c List.mem_cons_self)]
    show List.takeWhile isDigit (_ :: (Utf8.encodeChars cs ++ rest)) = _
    rw [List.takeWhile_cons_of_pos hdigit, ih fun d hd => hcs d (List.mem_cons_of_mem _ hd)]
    rfl

theorem exists_readNumber_digits (negative : Bool) (hn : n ≠ 0) :
    ∃ a, ReadsTo (readNumber negative) (Utf8.encodeChars (decimalDigits n)) a := by
  obtain ⟨c, cs, hdigits, hc, hzero⟩ := decimalDigits_head hn
  have hall : ∀ d ∈ c :: cs, d.isDigit = true := fun d hd => isDigit_of_mem_decimalDigits (hdigits ▸ hd)
  obtain ⟨hnat, hdigit⟩ := digit_toNat hc
  obtain ⟨digits, m, whole, tail, htail, hwhole, hread⟩ :=
    exists_significandDigits (fun d hd => hall d (List.mem_cons_of_mem _ hd)) (c.toNat - 48) 1
  obtain ⟨a, ha⟩ := exists_readBehind negative digits (Utf8.encodeChars tail).length whole
  refine ⟨a, fun rest hrest => ?_⟩
  have hne : UInt8.ofNat c.toNat ≠ 48 := by
    intro h
    refine hzero (Char.toNat_inj.1 ?_)
    rw [← hnat, h]
    rfl
  rw [← ha rest hrest, hdigits, Utf8.encodeChars_cons, encodeChar_of_isDigit hc]
  congr 1
  show readNumber negative (UInt8.ofNat c.toNat :: (Utf8.encodeChars cs ++ rest)) = _
  unfold readNumber
  simp only [hdigit, if_true, hnat, hread rest hrest.noDigit]
  cases whole with
  | true =>
    rw [hwhole rfl]
    rfl
  | false =>
    rw [if_neg Bool.false_ne_true, takeWhile_digits htail hrest.noDigit, List.drop_left]
    rfl

theorem decimalText_whole {D : Double.Decimal} (hpos : 0 < D.digits) (hexponent : 0 ≤ D.exponent)
    (hlength : (decimalDigits D.digits).length + D.exponent ≤ 21) :
    Guest.decimalText D = decimalDigits (D.digits * 10 ^ D.exponent.toNat) := by
  unfold Guest.decimalText
  dsimp only
  rw [if_pos ⟨hexponent, hlength⟩, Guest.decimalDigits_append_zeros hpos.ne']

/-- The text of a decimal is read to its end, or not at all. -/
theorem exists_readNumber_decimalText (negative : Bool) {D : Double.Decimal} (hpos : 0 < D.digits)
    (hmax : D.digits ≤ wordMax) (hexponent : D.exponent.natAbs < 0x1000) :
    ∃ a, ReadsTo (readNumber negative) (Utf8.encodeChars (Guest.decimalText D)) a := by
  by_cases hform : 0 ≤ D.exponent ∧ (decimalDigits D.digits).length + D.exponent ≤ 21
  · rw [decimalText_whole hpos hform.1 hform.2]
    exact exists_readNumber_digits negative (Nat.mul_pos hpos (Nat.pow_pos (by decide))).ne'
  · exact ⟨_, fun rest hrest => (congrArg Except.toOption
      (readNumber_decimalText hpos hmax hexponent hform hrest)).trans (finish_toOption ..)⟩

theorem decimalText_head {D : Double.Decimal} (hpos : 0 < D.digits) :
    ∃ c cs, Guest.decimalText D = c :: cs ∧ c.isDigit = true := by
  obtain ⟨c, cs, hdigits, hc, -⟩ := decimalDigits_head hpos.ne'
  unfold Guest.decimalText
  dsimp only
  rw [hdigits]
  split
  · exact ⟨c, _, rfl, hc⟩
  · split
    · rename_i hpoint
      obtain ⟨k, hk⟩ : ∃ k, (((c :: cs).length : Int) + D.exponent).toNat = k + 1 :=
        ⟨(((c :: cs).length : Int) + D.exponent).toNat - 1, by omega⟩
      rw [hk]
      exact ⟨c, _, rfl, hc⟩
    · split
      · exact ⟨'0', _, rfl, rfl⟩
      · cases cs with
        | nil => exact ⟨c, _, rfl, hc⟩
        | cons c' cs => exact ⟨c, _, rfl, hc⟩

/-! ## Few digits -/

/-- A number that is a double exactly. -/
def Exact (n : Nat) : Prop := (Double.ofNat n).toInt? = some (n : Int)

theorem exact_of_lt (hn : n < 2 ^ 53) : Exact n := Double.toInt?_ofInt (i := (n : Int)) hn

theorem Exact.ratio (hn : Exact n) (h0 : n ≠ 0) :
    (Double.ofNat n).ratio.1 = n * (Double.ofNat n).ratio.2 ∧ (Double.ofNat n).ratio.2 ≠ 0 ∧
      (Double.ofNat n).isNegative = false := by
  obtain ⟨-, hvalue, hsign⟩ := Double.toInt?_spec hn
  obtain ⟨hratio, hden⟩ := (Double.ofNat n).ratio_value
  refine ⟨?_, hden, ?_⟩
  · rw [hvalue, Int.natAbs_natCast, div_eq_iff (by exact_mod_cast hden)] at hratio
    exact_mod_cast hratio
  · rw [hsign (by exact_mod_cast h0), decide_eq_false_iff_not]
    omega

/-- The powers of ten that a double is exactly. -/
theorem ratio_powerOfTen : ∀ k ≤ 22, (powerOfTen k).ratio.1 = 10 ^ k * (powerOfTen k).ratio.2 ∧
    (powerOfTen k).ratio.2 ≠ 0 ∧ (powerOfTen k).isNegative = false := by
  decide +kernel

theorem mul_powerOfTen {x : Double} (hfin : x.isFinite = true) (hpos : 0 < x.significand)
    (h0 : n ≠ 0) (hn : Exact n) (hk : k ≤ 22) (hnear : x.Near (n * 10 ^ k)) :
    (Double.ofNat n).mul (powerOfTen k) = x.withSign false := by
  obtain ⟨hratio, hden, hsign⟩ := hn.ratio h0
  obtain ⟨hratio', hden', hsign'⟩ := ratio_powerOfTen k hk
  unfold Double.mul
  dsimp only
  rw [hsign, hsign']
  refine Double.ofRatio_of_near hfin hpos (Nat.mul_ne_zero hden hden') ?_ false
  have hq : (Double.ofNat n).ratio.2 ≠ (0 : ℚ) := by exact_mod_cast hden
  have hq' : (powerOfTen k).ratio.2 ≠ (0 : ℚ) := by exact_mod_cast hden'
  rw [hratio, hratio']
  push_cast
  rwa [show (n * (Double.ofNat n).ratio.2 * (10 ^ k * (powerOfTen k).ratio.2) /
    ((Double.ofNat n).ratio.2 * (powerOfTen k).ratio.2) : ℚ) = n * 10 ^ k by field_simp]

theorem div_powerOfTen {x : Double} (hfin : x.isFinite = true) (hpos : 0 < x.significand)
    (h0 : n ≠ 0) (hn : Exact n) (hk : k ≤ 22) (hnear : x.Near (n / 10 ^ k)) :
    (Double.ofNat n).div (powerOfTen k) = x.withSign false := by
  obtain ⟨hratio, hden, hsign⟩ := hn.ratio h0
  obtain ⟨hratio', hden', hsign'⟩ := ratio_powerOfTen k hk
  have hten : (powerOfTen k).ratio.1 ≠ 0 := by
    rw [hratio']
    exact Nat.mul_ne_zero (Nat.pow_pos (by decide)).ne' hden'
  unfold Double.div
  dsimp only
  rw [hsign, hsign']
  refine Double.ofRatio_of_near hfin hpos (Nat.mul_ne_zero hden hten) ?_ false
  have hq : (Double.ofNat n).ratio.2 ≠ (0 : ℚ) := by exact_mod_cast hden
  have hq' : (powerOfTen k).ratio.2 ≠ (0 : ℚ) := by exact_mod_cast hden'
  rw [hratio, hratio']
  push_cast
  rwa [show (n * (Double.ofNat n).ratio.2 * (powerOfTen k).ratio.2 /
    ((Double.ofNat n).ratio.2 * (10 ^ k * (powerOfTen k).ratio.2)) : ℚ) = n / 10 ^ k by field_simp]

/-- Few digits and a small power of ten are scaled to the nearest double in one step. -/
theorem scaleDouble_short {x : Double} (hfin : x.isFinite = true) (hpos : 0 < x.significand)
    (h0 : n ≠ 0) (hn : Exact n) (hexponent : exponent.natAbs ≤ 22)
    (hnear : x.Near (n * 10 ^ exponent)) :
    scaleDouble (.ofNat n) exponent 5 = some (x.withSign false) := by
  rw [scaleDouble, if_pos (by omega)]
  by_cases hsign : 0 ≤ exponent
  · obtain ⟨k, rfl⟩ := Int.eq_ofNat_of_zero_le hsign
    rw [zpow_natCast] at hnear
    rw [if_pos hsign, Int.toNat_natCast, mul_powerOfTen hfin hpos h0 hn (by omega) hnear]
    dsimp only
    rw [if_pos ((x.isFinite_withSign false).trans hfin)]
  · obtain ⟨k, rfl⟩ : ∃ k : Nat, exponent = -(k : Int) := ⟨exponent.natAbs, by omega⟩
    rw [zpow_neg, zpow_natCast, ← div_eq_mul_inv] at hnear
    rw [if_neg hsign, Int.natAbs_neg, Int.natAbs_natCast,
      div_powerOfTen hfin hpos h0 hn (by omega) hnear]

theorem finish_short {x : Double} (hfin : x.isFinite = true) (hpos : 0 < x.significand)
    (h0 : n ≠ 0) (hn : Exact n) (hexponent : exponent.natAbs ≤ 22)
    (hnear : x.Near (n * 10 ^ exponent)) (s : Bytes) :
    finish x.isNegative n exponent s = .ok (.double x, s) := by
  have hsign : (if x.isNegative then (x.withSign false).neg else x.withSign false) = x := by
    refine Eq.trans ?_ x.withSign_isNegative
    cases x.isNegative with
    | false => rfl
    | true => exact x.neg_withSign
  unfold finish
  rw [scaleDouble_short hfin hpos h0 hn hexponent hnear]
  dsimp only
  rw [hsign]

end ScriptSandbox.Json
