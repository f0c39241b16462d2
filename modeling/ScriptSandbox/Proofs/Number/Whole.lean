import Mathlib.Data.Nat.Log
import Mathlib.Tactic.Ring
import ScriptSandbox.Guest.NumberText

/-!
# Whole numbers as doubles

A whole number with at most 53 bits is a double without any rounding (`toInt?_ofInt`), and the fewest
digits that read back as it are its own (`numberChars_ofInt`): around such a word every fraction that
rounds to it is less than one away, so a decimal without a point is in this interval only if it is the
number itself.
-/

namespace ScriptSandbox

namespace Double

variable {n k : Nat} {x : Double}

/-! ## The word -/

/-- How far a number of at most 53 bits is shifted to have all of them. -/
def shiftFor (n : Nat) : Nat := 52 - n.log2

theorem log2_le (hn : n ≠ 0) (hlt : n < 2 ^ 53) : n.log2 ≤ 52 :=
  Nat.le_of_lt_succ ((Nat.log2_lt hn).2 hlt)

theorem le_shifted (hn : n ≠ 0) (hlt : n < 2 ^ 53) : 2 ^ 52 ≤ n * 2 ^ shiftFor n := by
  have hlog := log2_le hn hlt
  calc 2 ^ 52 = 2 ^ n.log2 * 2 ^ shiftFor n := by
        rw [← Nat.pow_add, shiftFor, Nat.add_sub_cancel' hlog]
    _ ≤ n * 2 ^ shiftFor n := Nat.mul_le_mul_right _ (Nat.log2_self_le hn)

theorem shifted_lt (hn : n ≠ 0) (hlt : n < 2 ^ 53) : n * 2 ^ shiftFor n < 2 ^ 53 := by
  have hlog := log2_le hn hlt
  calc n * 2 ^ shiftFor n < 2 ^ (n.log2 + 1) * 2 ^ shiftFor n :=
        Nat.mul_lt_mul_of_pos_right Nat.lt_log2_self (Nat.two_pow_pos _)
    _ = 2 ^ 53 := by
        rw [← Nat.pow_add, shiftFor]
        congr 1
        omega

theorem scaleFor_whole (hn : n ≠ 0) (hlt : n < 2 ^ 53) : scaleFor n 1 = -(shiftFor n : Int) := by
  have hlog := log2_le hn hlt
  have hle := le_shifted hn hlt
  have hestimate :
      (n.log2 : Int) - ((Nat.log2 1 : Nat) : Int) - 53 = -((shiftFor n + 1 : Nat) : Int) := by
    rw [show Nat.log2 1 = 0 from rfl, shiftFor]
    omega
  have hbig : ¬ n * 2 ^ (shiftFor n + 1) < 1 * 0x20000000000000 * 2 ^ 0 := by
    rw [Nat.pow_succ, ← Nat.mul_assoc]
    omega
  unfold scaleFor
  simp only [hestimate, Nat.pow_eq, Int.neg_neg, Int.toNat_natCast, Int.toNat_neg_natCast,
    decide_eq_true_eq, if_neg hbig]
  unfold shiftFor
  omega

/-- The word of a whole number, without its sign. -/
theorem word_lt (hn : n ≠ 0) (hlt : n < 2 ^ 53) :
    (1074 - shiftFor n) * 0x10000000000000 + n * 2 ^ shiftFor n < 0x7ff0000000000000 := by
  have := shifted_lt hn hlt
  omega

theorem bits_ofRatio (hn : n ≠ 0) (hlt : n < 2 ^ 53) (negative : Bool) :
    (ofRatio negative n 1).bits.toNat = (if negative then 0x8000000000000000 else 0) +
      ((1074 - shiftFor n) * 0x10000000000000 + n * 2 ^ shiftFor n) := by
  have hword := word_lt hn hlt
  have hround : roundHalfEven (n * 2 ^ shiftFor n) (1 * 2 ^ 0) = n * 2 ^ shiftFor n := by
    unfold roundHalfEven
    simp [Nat.mod_one]
  have hscale : (-(shiftFor n : Int) + 1074).toNat = 1074 - shiftFor n := by omega
  have hinf : infinity.bits.toNat = 0x7ff0000000000000 := rfl
  unfold ofRatio
  simp only [if_neg hn, scaleFor_whole hn hlt, Nat.pow_eq, Int.neg_neg, Int.toNat_natCast,
    Int.toNat_neg_natCast, hround, hscale, hinf, Nat.min_eq_left (Nat.le_of_lt hword)]
  cases negative with
  | false =>
    rw [if_neg Bool.false_ne_true, if_neg Bool.false_ne_true, Nat.zero_add]
    exact UInt64.toNat_ofNat_of_lt' (Nat.lt_trans hword (by decide))
  | true =>
    rw [if_pos rfl, if_pos rfl]
    refine UInt64.toNat_ofNat_of_lt' ?_
    show _ < 0x10000000000000000
    omega

/-! ## What the word stands for -/

/-- A word that stands for a whole number of at most 53 bits, all of which are in the significand. -/
structure IsWhole (x : Double) (negative : Bool) (n : Nat) : Prop where
  isNegative : x.isNegative = negative
  exponentField : x.exponentField = 1075 - shiftFor n
  significand : x.significand = n * 2 ^ shiftFor n

theorem shiftFor_le (n : Nat) : shiftFor n ≤ 52 := Nat.sub_le ..

theorem isWhole_ofRatio (hn : n ≠ 0) (hlt : n < 2 ^ 53) (negative : Bool) :
    (ofRatio negative n 1).IsWhole negative n := by
  have hbits := bits_ofRatio hn hlt negative
  have hword := word_lt hn hlt
  have hle := le_shifted hn hlt
  have hlt' := shifted_lt hn hlt
  have hshift := shiftFor_le n
  generalize ofRatio negative n 1 = x at hbits
  have hmagnitude : x.magnitude =
      (1075 - shiftFor n) * 0x10000000000000 + (n * 2 ^ shiftFor n - 0x10000000000000) := by
    unfold magnitude
    rw [hbits]
    cases negative <;> simp only [if_true, Bool.false_eq_true, if_false] <;> omega
  have hexponent : x.exponentField = 1075 - shiftFor n := by
    unfold exponentField
    rw [hmagnitude]
    omega
  refine ⟨?_, hexponent, ?_⟩
  · unfold isNegative
    rw [hbits]
    cases negative <;> simp only [if_true, Bool.false_eq_true, if_false, decide_eq_true_eq,
      decide_eq_false_iff_not] <;> omega
  · unfold significand fractionField
    rw [hexponent, hmagnitude, if_neg (by omega)]
    omega

namespace IsWhole

variable {negative : Bool}

theorem scale (h : x.IsWhole negative n) : x.scale = -(shiftFor n : Int) := by
  have hshift := shiftFor_le n
  unfold Double.scale
  rw [h.exponentField, if_neg (by omega)]
  omega

theorem isFinite (h : x.IsWhole negative n) : x.isFinite = true := by
  unfold Double.isFinite
  rw [h.exponentField, decide_eq_true_eq]
  omega

theorem ratio (h : x.IsWhole negative n) : x.ratio = (n * 2 ^ shiftFor n, 2 ^ shiftFor n) := by
  unfold Double.ratio
  rw [h.scale, h.significand]
  cases hk : shiftFor n with
  | zero =>
    show (n * 2 ^ 0 * Nat.pow 2 0, 1) = _
    rw [Nat.pow_eq, Nat.pow_zero, Nat.mul_one]
  | succ k => rfl

theorem toInt? (h : x.IsWhole negative n) :
    x.toInt? = some (if negative then -(n : Int) else n) := by
  have hpos : 0 < 2 ^ shiftFor n := Nat.two_pow_pos _
  unfold Double.toInt?
  rw [if_pos h.isFinite, h.ratio, h.isNegative]
  simp only [Nat.mul_mod_left, if_true, Nat.mul_div_cancel _ hpos]

end IsWhole

theorem ofInt_zero : ofInt 0 = zero := by
  unfold ofInt ofRatio
  rw [Int.natAbs_zero, if_pos rfl]
  rfl

theorem toInt?_zero : zero.toInt? = some 0 := by
  have hnum : zero.ratio.1 = 0 := rfl
  unfold toInt?
  rw [if_pos (by decide)]
  rcases hratio : zero.ratio with ⟨num, den⟩
  obtain rfl : num = 0 := by rwa [hratio] at hnum
  simp only [Nat.zero_mod, Nat.zero_div, if_true]
  rfl

/-- A whole number of at most 53 bits is there as a double, and nothing else is in its stead. -/
theorem toInt?_ofInt {i : Int} (hi : i.natAbs < 2 ^ 53) : (ofInt i).toInt? = some i := by
  by_cases h0 : i.natAbs = 0
  · obtain rfl : i = 0 := Int.natAbs_eq_zero.1 h0
    rw [ofInt_zero]
    exact toInt?_zero
  · unfold ofInt
    rw [(isWhole_ofRatio h0 hi _).toInt?]
    by_cases hneg : i < 0
    · rw [if_pos (by simpa using hneg)]
      congr 1
      omega
    · rw [if_neg (by simpa using hneg)]
      congr 1
      omega

theorem isFinite_ofInt {i : Int} (hi : i.natAbs < 2 ^ 53) : (ofInt i).isFinite = true := by
  by_cases h0 : i.natAbs = 0
  · obtain rfl : i = 0 := Int.natAbs_eq_zero.1 h0
    rw [ofInt_zero]
    rfl
  · exact (isWhole_ofRatio h0 hi _).isFinite

/-! ## The fewest digits -/

/-- The interval reaches half a step of the word to each side, or less. -/
structure Interval.Around (i : Interval) (n k : Nat) : Prop where
  value : i.value = n * (4 * 2 ^ k)
  den : i.den = 4 * 2 ^ k
  low : i.value ≤ i.low + 2 ∧ i.low < i.value
  high : i.high = i.value + 2

theorem IsWhole.around {negative : Bool} (hn : n ≠ 0) (h : x.IsWhole negative n) :
    x.interval.Around n (shiftFor n) := by
  have hup : (x.scale - 2).toNat = 0 := by
    rw [h.scale]
    omega
  have hden : (-(x.scale - 2)).toNat = shiftFor n + 2 := by
    rw [h.scale]
    omega
  have hpos : 0 < n * 2 ^ shiftFor n := Nat.mul_pos (Nat.pos_of_ne_zero hn) (Nat.two_pow_pos _)
  unfold Double.interval
  simp only [hup, hden, h.significand, Nat.pow_eq, Nat.pow_zero, Nat.mul_one]
  constructor
  · ring
  · show 2 ^ (shiftFor n + 2) = _
    ring
  · dsimp only
    split <;> omega
  · rfl

namespace Interval.Around

variable {i : Interval} {d e : Nat}

/-- A decimal without a point that rounds to the number is the number. -/
theorem holds_iff (h : i.Around n k) (d e : Nat) :
    i.holds d (e : Int) = true ↔ d * 10 ^ e = n := by
  obtain ⟨hlow, hlow'⟩ := h.low
  have hleft : d * 10 ^ e * i.den < n * i.den ∨ d * 10 ^ e * i.den = n * i.den ∨
      n * i.den < d * 10 ^ e * i.den := Nat.lt_trichotomy _ _
  have hvalue : i.value = n * i.den := by rw [h.value, h.den]
  have hden : 4 ≤ i.den := by
    rw [h.den]
    exact Nat.le_mul_of_pos_right 4 (Nat.two_pow_pos k)
  have hhigh := h.high
  unfold holds
  simp only [Nat.pow_eq, Int.toNat_natCast, Int.toNat_neg_natCast, Nat.pow_zero, Nat.mul_one]
  constructor
  · intro hholds
    have hbetween : i.low ≤ d * 10 ^ e * i.den ∧ d * 10 ^ e * i.den ≤ i.high := by
      split at hholds <;> simp only [Bool.and_eq_true, decide_eq_true_eq] at hholds <;> omega
    -- Two multiples of the denominator are closer to each other than the denominator.
    rcases Nat.lt_trichotomy (d * 10 ^ e) n with hlt | heq | hgt
    · have hstep : (d * 10 ^ e + 1) * i.den ≤ n * i.den := Nat.mul_le_mul_right _ hlt
      rw [Nat.add_mul] at hstep
      omega
    · exact heq
    · have hstep : (n + 1) * i.den ≤ d * 10 ^ e * i.den := Nat.mul_le_mul_right _ hgt
      rw [Nat.add_mul] at hstep
      omega
  · intro heq
    rw [heq, ← hvalue, hhigh]
    split <;> simp only [Bool.and_eq_true, decide_eq_true_eq] <;> omega

theorem onGrid (h : i.Around n k) (hn : n ≠ 0) (e : Nat) :
    i.onGrid (e : Int) = if 10 ^ e ∣ n then some (n / 10 ^ e) else none := by
  have hpos : 0 < i.den := by
    rw [h.den]
    exact Nat.mul_pos (by decide) (Nat.two_pow_pos k)
  have hten : 0 < 10 ^ e := Nat.pow_pos (by decide)
  have hvalue : i.value = n * i.den := by rw [h.value, h.den]
  have hdown : i.value * 1 / (i.den * 10 ^ e) = n / 10 ^ e := by
    rw [Nat.mul_one, hvalue, Nat.mul_comm n, Nat.mul_div_mul_left _ _ hpos]
  have hup : i.holds (n / 10 ^ e + 1) (e : Int) = false := by
    rw [Bool.eq_false_iff, ne_eq, h.holds_iff]
    exact Nat.ne_of_gt (Nat.lt_div_mul_add hten |>.trans_eq (by ring))
  unfold Interval.onGrid
  simp only [Nat.pow_eq, Int.toNat_natCast, Int.toNat_neg_natCast, Nat.pow_zero, hdown, hup,
    h.holds_iff]
  by_cases hdvd : 10 ^ e ∣ n
  · have hne : n / 10 ^ e ≠ 0 := (Nat.div_pos (Nat.le_of_dvd (Nat.pos_of_ne_zero hn) hdvd) hten).ne'
    simp [hdvd, hne, Nat.div_mul_cancel hdvd]
  · have hne : n / 10 ^ e * 10 ^ e ≠ n := fun heq => hdvd ⟨n / 10 ^ e, by rw [Nat.mul_comm, heq]⟩
    simp [hdvd, hne]

/-- The search ends with the number, without some zeros at its end. -/
theorem search (h : i.Around n k) (hn : n ≠ 0) (e fuel : Nat) (hfuel : e < fuel) :
    ∃ d e', i.search (e : Int) fuel = some ⟨d, ((e' : Nat) : Int)⟩ ∧ d * 10 ^ e' = n := by
  induction e generalizing fuel with
  | zero =>
    obtain ⟨fuel, rfl⟩ := Nat.exists_eq_succ_of_ne_zero (Nat.ne_of_gt hfuel)
    refine ⟨n, 0, ?_, by rw [Nat.pow_zero, Nat.mul_one]⟩
    unfold Interval.search
    rw [h.onGrid hn, Nat.pow_zero, if_pos (Nat.one_dvd n), Nat.div_one]
  | succ e ih =>
    obtain ⟨fuel, rfl⟩ :=
      Nat.exists_eq_succ_of_ne_zero (Nat.ne_of_gt (Nat.lt_of_le_of_lt (Nat.zero_le _) hfuel))
    unfold Interval.search
    rw [h.onGrid hn]
    by_cases hdvd : 10 ^ (e + 1) ∣ n
    · rw [if_pos hdvd]
      exact ⟨n / 10 ^ (e + 1), e + 1, rfl, Nat.div_mul_cancel hdvd⟩
    · rw [if_neg hdvd]
      obtain ⟨d, e', hsearch, hd⟩ := ih fuel (by omega)
      have hnext : ((e + 1 : Nat) : Int) - 1 = (e : Nat) := by omega
      exact ⟨d, e', by rw [hnext]; exact hsearch, hd⟩

end Interval.Around

/-- Zeros that are dropped are counted. -/
theorem Decimal.strip_spec (D : Decimal) (fuel : Nat) :
    ∃ k : Nat, D.digits = (D.strip fuel).digits * 10 ^ k ∧
      (D.strip fuel).exponent = D.exponent + k := by
  induction fuel generalizing D with
  | zero => exact ⟨0, (Nat.mul_one _).symm, (Int.add_zero _).symm⟩
  | succ fuel ih =>
    unfold strip
    split
    · rename_i hzero
      obtain ⟨k, hdigits, hexponent⟩ := ih ⟨D.digits / 10, D.exponent + 1⟩
      dsimp only at hdigits hexponent
      refine ⟨k + 1, ?_, by omega⟩
      rw [Nat.pow_succ, ← Nat.mul_assoc, ← hdigits, Nat.div_mul_cancel (Nat.dvd_of_mod_eq_zero hzero)]
    · exact ⟨0, (Nat.mul_one _).symm, (Int.add_zero _).symm⟩

/-- The fewest digits of a whole number are some of its own, and zeros behind them. -/
theorem IsWhole.shortest {negative : Bool} (hn : n ≠ 0) (hlt : n < 2 ^ 53)
    (h : x.IsWhole negative n) :
    ∃ d e : Nat, x.shortest = ⟨d, (e : Int)⟩ ∧ d * 10 ^ e = n := by
  have haround := h.around hn
  have hpos : 0 < x.interval.den := by
    rw [haround.den]
    exact Nat.mul_pos (by decide) (Nat.two_pow_pos _)
  have hvalue : x.interval.value = n * x.interval.den := by rw [haround.value, haround.den]
  have hdigits : digitCount n ≤ 16 :=
    (Nat.length_toDigits_le_iff (by decide) (by decide)).2 (Nat.lt_trans hlt (by decide))
  have hsome : 0 < digitCount n := Nat.length_toDigits_pos
  have hleading : leading x.interval.value x.interval.den = ((digitCount n - 1 : Nat) : Int) := by
    unfold leading
    rw [hvalue, if_pos (Nat.le_mul_of_pos_left _ (Nat.pos_of_ne_zero hn)), Nat.mul_div_cancel _ hpos]
    omega
  obtain ⟨d, e, hsearch, hd⟩ := haround.search hn (digitCount n - 1) 18 (by omega)
  have hshortest : x.shortest = Decimal.strip ⟨d, e⟩ (digitCount d) := by
    unfold Double.shortest
    dsimp only
    rw [hleading, hsearch]
    rfl
  obtain ⟨k, hdigits, hexponent⟩ := Decimal.strip_spec ⟨d, e⟩ (digitCount d)
  rw [← hshortest] at hdigits hexponent
  refine ⟨x.shortest.digits, e + k, ?_, ?_⟩
  · rw [Nat.cast_add, ← hexponent]
  · rw [Nat.pow_add', ← Nat.mul_assoc, ← hdigits, hd]

end Double

namespace Guest

/-! ## The text -/

theorem decimalDigits_append_zeros {d : Nat} (hd : d ≠ 0) (e : Nat) :
    decimalDigits d ++ zeros e = decimalDigits (d * 10 ^ e) := by
  unfold decimalDigits zeros
  induction e with
  | zero => rw [List.replicate_zero, List.append_nil, Nat.pow_zero, Nat.mul_one]
  | succ e ih =>
    have hpos : 0 < d * 10 ^ e := Nat.mul_pos (Nat.pos_of_ne_zero hd) (Nat.pow_pos (by decide))
    rw [List.replicate_succ', ← List.append_assoc, ih, show ['0'] = Nat.toDigits 10 0 from rfl,
      Nat.toDigits_append_toDigits (by decide) hpos (by decide)]
    congr 1
    ring

/-- A guest writes a whole number with its own digits. -/
theorem numberChars_ofInt {i : Int} (hi : i.natAbs < 2 ^ 53) :
    numberChars (Double.ofInt i) = (intText i).toList := by
  unfold intText
  rw [String.toList_ofList]
  by_cases h0 : i.natAbs = 0
  · obtain rfl : i = 0 := Int.natAbs_eq_zero.1 h0
    rw [Double.ofInt_zero]
    decide
  · have hwhole := Double.isWhole_ofRatio h0 hi (i < 0)
    obtain ⟨d, e, hshortest, hd⟩ := hwhole.shortest h0 hi
    have hd0 : d ≠ 0 := by
      rintro rfl
      exact h0 (by rw [← hd, Nat.zero_mul])
    have hdigits := decimalDigits_append_zeros hd0 e
    rw [hd] at hdigits
    have hlength : (decimalDigits d).length + e ≤ 16 := by
      have hle : (decimalDigits i.natAbs).length ≤ 16 :=
        (Nat.length_toDigits_le_iff (by decide) (by decide)).2 (Nat.lt_trans hi (by decide))
      rwa [← hdigits, List.length_append, zeros, List.length_replicate] at hle
    have htext : decimalText ⟨d, (e : Int)⟩ = decimalDigits i.natAbs := by
      unfold decimalText
      dsimp only
      rw [if_pos ⟨by omega, by omega⟩, Int.toNat_natCast, hdigits]
    have hnan : (Double.ofInt i).isNaN = false := by
      unfold Double.isNaN
      rw [Double.ofInt, hwhole.exponentField, Bool.and_eq_false_iff]
      refine .inl (beq_false_of_ne ?_)
      omega
    have hzero : (Double.ofInt i).isZero = false := by
      unfold Double.isZero
      refine beq_false_of_ne fun hmagnitude => ?_
      have hfield := hwhole.exponentField
      have hshift := Double.shiftFor_le i.natAbs
      unfold Double.exponentField at hfield
      rw [show (Double.ofRatio (i < 0) i.natAbs 1).magnitude = 0 from hmagnitude] at hfield
      omega
    unfold numberChars
    rw [if_neg (by simp [hnan]), if_neg (by simp [hzero])]
    simp only [Double.ofInt, hwhole.isFinite, hwhole.isNegative, hshortest, htext, if_true,
      decide_eq_true_eq]

end Guest

end ScriptSandbox
