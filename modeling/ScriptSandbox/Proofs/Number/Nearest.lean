import Mathlib.Algebra.Order.Field.Power
import Mathlib.Data.Rat.Cast.Order
import Mathlib.Tactic.FieldSimp
import Mathlib.Tactic.Linarith
import Mathlib.Tactic.NormNum
import Mathlib.Tactic.Positivity
import ScriptSandbox.Proofs.Number.Whole

/-!
# The nearest double

Around each finite word other than zero lie the fractions that round to it: from half a step below it
to half a step above it, or from a quarter below it where the words get denser there (`Double.Near`).
`ofRatio` takes each of these fractions to the word (`ofRatio_of_near`), and the fewest digits that
read back are one of them (`near_shortest`).
-/

namespace ScriptSandbox.Double

variable {num den k : ℕ} {x : Double} {q : ℚ} {e s : ℤ}

/-! ## Powers -/

theorem zpow_eq_div (b : ℚ) (e : ℤ) : b ^ e = b ^ e.toNat / b ^ (-e).toNat := by
  obtain ⟨n, rfl | rfl⟩ := e.eq_nat_or_neg
  · simp
  · simp

theorem two_zpow_pos (e : ℤ) : (0 : ℚ) < 2 ^ e := zpow_pos (by norm_num) e

theorem ten_zpow_pos (e : ℤ) : (0 : ℚ) < 10 ^ e := zpow_pos (by norm_num) e

theorem two_zpow_succ (e : ℤ) : (2 : ℚ) ^ (e + 1) = 2 * 2 ^ e := by
  rw [zpow_add_one₀ (by norm_num), mul_comm]

theorem two_zpow_le (h : e ≤ s) : (2 : ℚ) ^ e ≤ 2 ^ s := zpow_le_zpow_right₀ (by norm_num) h

/-! ## Rounding to a natural -/

theorem roundHalfEven_eq (hden : 0 < den) (hlow : 2 * k * den ≤ 2 * num + den)
    (hhigh : 2 * num ≤ (2 * k + 1) * den)
    (hodd : k % 2 = 1 → 2 * k * den < 2 * num + den ∧ 2 * num < (2 * k + 1) * den) :
    roundHalfEven num den = k := by
  have hsplit : den * (num / den) + num % den = num := Nat.div_add_mod num den
  have hrest : num % den < den := Nat.mod_lt _ hden
  unfold roundHalfEven
  dsimp only
  generalize num / den = down at hsplit ⊢
  generalize num % den = rest at hsplit hrest ⊢
  have hcases : k = down ∨ k = down + 1 := by
    rcases Nat.lt_trichotomy k down with hlt | heq | hgt
    · nlinarith
    · exact .inl heq
    · rcases Nat.lt_trichotomy k (down + 1) with hlt | heq | hgt
      · omega
      · exact .inr heq
      · nlinarith
  rcases hcases with rfl | rfl
  · have hle : 2 * rest ≤ den := by nlinarith
    by_cases htie : 2 * rest = den
    · have heven : k % 2 = 0 := by
        by_contra hne
        obtain ⟨-, hlt⟩ := hodd (by omega)
        nlinarith
      rw [if_neg (by omega), if_neg (by omega), if_pos heven]
    · rw [if_pos (by omega)]
  · have hle : den ≤ 2 * rest := by nlinarith
    by_cases htie : 2 * rest = den
    · have hup : down % 2 ≠ 0 := by
        intro heven
        obtain ⟨hlt, -⟩ := hodd (by omega)
        nlinarith
      rw [if_neg (by omega), if_neg (by omega), if_neg hup]
    · rw [if_neg (by omega), if_pos (by omega)]

/-- A fraction is rounded to the natural that is less than one half away, or to the even one. -/
theorem roundHalfEven_of_near (hden : 0 < den) (hlow : (k : ℚ) - 1 / 2 ≤ num / den)
    (hhigh : (num : ℚ) / den ≤ k + 1 / 2)
    (hodd : k % 2 = 1 → (k : ℚ) - 1 / 2 < num / den ∧ (num : ℚ) / den < k + 1 / 2) :
    roundHalfEven num den = k := by
  have hpos : (0 : ℚ) < den := by exact_mod_cast hden
  rw [le_div_iff₀ hpos] at hlow
  rw [div_le_iff₀ hpos] at hhigh
  rw [lt_div_iff₀ hpos, div_lt_iff₀ hpos] at hodd
  refine roundHalfEven_eq hden ?_ ?_ fun h => ?_
  · have : (2 * k * den : ℚ) ≤ 2 * num + den := by linarith
    exact_mod_cast this
  · have : (2 * num : ℚ) ≤ (2 * k + 1) * den := by linarith
    exact_mod_cast this
  · obtain ⟨hlt, hgt⟩ := hodd h
    have hlt' : (2 * k * den : ℚ) < 2 * num + den := by linarith
    have hgt' : (2 * num : ℚ) < (2 * k + 1) * den := by linarith
    exact ⟨by exact_mod_cast hlt', by exact_mod_cast hgt'⟩

/-! ## The scale of a fraction -/

theorem scaled_div (e : ℤ) : ((num * 2 ^ (-e).toNat : ℕ) : ℚ) / (den * 2 ^ e.toNat : ℕ) =
    num / den / 2 ^ e := by
  rw [zpow_eq_div 2 e]
  push_cast
  field_simp

theorem fits_iff (hden : den ≠ 0) (e : ℤ) :
    num * 2 ^ (-e).toNat < den * 0x20000000000000 * 2 ^ e.toNat ↔
      (num : ℚ) / den < 2 ^ 53 * 2 ^ e := by
  have hpos : (0 : ℚ) < den := by exact_mod_cast Nat.pos_of_ne_zero hden
  have hup : (0 : ℚ) < 2 ^ (-e).toNat := by positivity
  rw [zpow_eq_div 2 e, ← mul_div_assoc, div_lt_div_iff₀ hpos hup]
  rw [show (num : ℚ) * 2 ^ (-e).toNat = ((num * 2 ^ (-e).toNat : ℕ) : ℚ) by push_cast; rfl,
    show (2 : ℚ) ^ 53 * 2 ^ e.toNat * den = ((den * 0x20000000000000 * 2 ^ e.toNat : ℕ) : ℚ) by
      push_cast; norm_num; ring]
  exact Nat.cast_lt.symm

/-- Of a fraction, one has at most 53 bits before the point, and, above the least scale, no less. -/
theorem scaleFor_spec (hnum : num ≠ 0) (hden : den ≠ 0) :
    (num : ℚ) / den < 2 ^ 53 * 2 ^ scaleFor num den ∧ -1074 ≤ scaleFor num den ∧
      (-1074 < scaleFor num den → 2 ^ 52 * (2 : ℚ) ^ scaleFor num den ≤ num / den) := by
  have hposn : (0 : ℚ) < num := by exact_mod_cast Nat.pos_of_ne_zero hnum
  have hposd : (0 : ℚ) < den := by exact_mod_cast Nat.pos_of_ne_zero hden
  have hnlow : (2 : ℚ) ^ num.log2 ≤ num := by exact_mod_cast Nat.log2_self_le hnum
  have hnhigh : (num : ℚ) < 2 ^ (num.log2 + 1) := by exact_mod_cast Nat.lt_log2_self
  have hdlow : (2 : ℚ) ^ den.log2 ≤ den := by exact_mod_cast Nat.log2_self_le hden
  have hdhigh : (den : ℚ) < 2 ^ (den.log2 + 1) := by exact_mod_cast Nat.lt_log2_self
  obtain ⟨estimate, hestimate⟩ : ∃ i : ℤ, i = (num.log2 : ℤ) - (den.log2 : ℤ) - 53 := ⟨_, rfl⟩
  -- The logarithms leave two scales to choose from.
  have hratio : (2 : ℚ) ^ num.log2 / 2 ^ den.log2 = 2 ^ 53 * 2 ^ estimate := by
    rw [hestimate, zpow_sub₀ (by norm_num), zpow_sub₀ (by norm_num), zpow_natCast, zpow_natCast]
    norm_num
    field_simp
  have hlow : 2 ^ 52 * (2 : ℚ) ^ estimate < num / den := by
    have h : (2 : ℚ) ^ num.log2 / 2 ^ (den.log2 + 1) < num / den := by
      rw [div_lt_div_iff₀ (by positivity) hposd]
      calc (2 : ℚ) ^ num.log2 * den ≤ num * den := by gcongr
        _ < num * 2 ^ (den.log2 + 1) := by gcongr
    rw [pow_succ, ← div_div, hratio] at h
    linarith
  have hhigh : (num : ℚ) / den < 2 ^ 53 * 2 ^ (estimate + 1) := by
    have h : (num : ℚ) / den < 2 ^ (num.log2 + 1) / 2 ^ den.log2 := by
      rw [div_lt_div_iff₀ hposd (by positivity)]
      calc (num : ℚ) * 2 ^ den.log2 < 2 ^ (num.log2 + 1) * 2 ^ den.log2 := by gcongr
        _ ≤ 2 ^ (num.log2 + 1) * den := by gcongr
    rw [pow_succ, mul_comm, mul_div_assoc, hratio] at h
    rw [two_zpow_succ]
    linarith
  obtain ⟨least, hscale, hfits, hleast⟩ : ∃ i : ℤ, scaleFor num den = max (-1074) i ∧
      (num : ℚ) / den < 2 ^ 53 * 2 ^ i ∧ 2 ^ 52 * (2 : ℚ) ^ i ≤ num / den := by
    unfold scaleFor
    simp only [Nat.pow_eq, decide_eq_true_eq, ← hestimate, fits_iff hden]
    by_cases hfit : (num : ℚ) / den < 2 ^ 53 * 2 ^ estimate
    · exact ⟨estimate, by rw [if_pos hfit], hfit, hlow.le⟩
    · refine ⟨estimate + 1, by rw [if_neg hfit], hhigh, ?_⟩
      rw [two_zpow_succ]
      linarith [not_lt.1 hfit]
  rw [hscale]
  refine ⟨hfits.trans_le ?_, le_max_left _ _, fun h => ?_⟩
  · exact mul_le_mul_of_nonneg_left (two_zpow_le (le_max_right _ _)) (by positivity)
  · rwa [max_eq_right (by omega)]

theorem scaleFor_eq (hnum : num ≠ 0) (hden : den ≠ 0) (hs : -1074 ≤ s)
    (hfits : (num : ℚ) / den < 2 ^ 53 * 2 ^ s)
    (hleast : -1074 < s → 2 ^ 52 * (2 : ℚ) ^ s ≤ num / den) : scaleFor num den = s := by
  obtain ⟨hfits', hs', hleast'⟩ := scaleFor_spec hnum hden
  rcases lt_trichotomy (scaleFor num den) s with hlt | heq | hgt
  · have hle := two_zpow_le (Int.add_one_le_of_lt hlt)
    rw [two_zpow_succ] at hle
    linarith [hleast (by omega)]
  · exact heq
  · have hle := two_zpow_le (Int.add_one_le_of_lt hgt)
    rw [two_zpow_succ] at hle
    linarith [hleast' (by omega)]

/-! ## Words -/

theorem magnitude_lt (x : Double) : x.magnitude < 0x8000000000000000 := Nat.mod_lt _ (by decide)

theorem eq_of_toNat_bits {y : Double} (h : x.bits.toNat = y.bits.toNat) : x = y := by
  cases x
  cases y
  exact congrArg Double.mk (UInt64.toNat_inj.1 h)

/-- The word with another sign. -/
def withSign (x : Double) (negative : Bool) : Double :=
  ⟨UInt64.ofNat (if negative then 0x8000000000000000 + x.magnitude else x.magnitude)⟩

theorem toNat_bits_withSign (x : Double) (negative : Bool) : (x.withSign negative).bits.toNat =
    if negative then 0x8000000000000000 + x.magnitude else x.magnitude := by
  have hlt := x.magnitude_lt
  refine UInt64.toNat_ofNat_of_lt' (show _ < 0x10000000000000000 from ?_)
  split <;> omega

/-- A word is put together from its sign and what is left without it. -/
theorem withSign_isNegative (x : Double) : x.withSign x.isNegative = x := by
  have hword : x.bits.toNat < 0x10000000000000000 := x.bits.toNat_lt
  have hmagnitude : x.bits.toNat % 0x8000000000000000 = x.magnitude := rfl
  refine eq_of_toNat_bits ?_
  rw [toNat_bits_withSign]
  unfold isNegative
  simp only [decide_eq_true_eq]
  split <;> omega

theorem isFinite_withSign (x : Double) (negative : Bool) :
    (x.withSign negative).isFinite = x.isFinite := by
  have hlt := x.magnitude_lt
  have hmagnitude : (x.withSign negative).magnitude = x.magnitude := by
    rw [magnitude, toNat_bits_withSign]
    split <;> omega
  unfold isFinite exponentField
  rw [hmagnitude]

theorem xor_two_pow {n : ℕ} (i : ℕ) (h : n < 2 ^ i) : n ^^^ 2 ^ i = 2 ^ i + n := by
  refine Nat.eq_of_testBit_eq fun j => ?_
  rw [Nat.testBit_xor, Nat.testBit_two_pow]
  rcases lt_trichotomy j i with hlt | rfl | hgt
  · rw [Nat.testBit_two_pow_add_gt hlt]
    simp [hlt.ne']
  · rw [Nat.testBit_two_pow_add_eq, Nat.testBit_lt_two_pow h]
    simp
  · have hle : 2 ^ (i + 1) ≤ 2 ^ j := Nat.pow_le_pow_right (by decide) hgt
    rw [Nat.testBit_lt_two_pow (by omega), Nat.testBit_lt_two_pow (by omega)]
    simp [hgt.ne]

theorem neg_withSign (x : Double) : (x.withSign false).neg = x.withSign true := by
  refine eq_of_toNat_bits ?_
  show ((x.withSign false).bits ^^^ signBit).toNat = _
  rw [UInt64.toNat_xor, toNat_bits_withSign, toNat_bits_withSign, if_neg Bool.false_ne_true,
    if_pos rfl, show signBit.toNat = 2 ^ 63 from rfl, xor_two_pow 63 x.magnitude_lt]
  rfl

theorem magnitude_eq (x : Double) :
    x.magnitude = (x.scale + 1074).toNat * 0x10000000000000 + x.significand := by
  have hsplit : 0x10000000000000 * x.exponentField + x.fractionField = x.magnitude :=
    Nat.div_add_mod _ _
  unfold scale significand
  split <;> omega

theorem significand_lt (x : Double) : x.significand < 2 ^ 53 := by
  have hfraction : x.fractionField < 0x10000000000000 := Nat.mod_lt _ (by decide)
  unfold significand
  split <;> omega

theorem le_scale (x : Double) : -1074 ≤ x.scale := by
  unfold scale
  split <;> omega

/-- Above the least scale no bit is left out. -/
theorem le_significand (h : -1074 < x.scale) : 2 ^ 52 ≤ x.significand := by
  unfold scale at h
  unfold significand
  split
  · rename_i h0
    rw [if_pos h0] at h
    omega
  · omega

theorem magnitude_lt_infinity (h : x.isFinite = true) : x.magnitude < infinity.bits.toNat := by
  have hfield : x.exponentField < 2047 := by simpa [isFinite] using h
  have hsplit : 0x10000000000000 * x.exponentField + x.fractionField = x.magnitude :=
    Nat.div_add_mod _ _
  have hfraction : x.fractionField < 0x10000000000000 := Nat.mod_lt _ (by decide)
  show x.magnitude < 0x7ff0000000000000
  omega

/-! ## What rounds to a word -/

/-- How far below a word, in steps of it, what rounds to it begins: the words below the least one of
its scale are twice as dense. -/
def below (x : Double) : ℚ := if x.fractionField = 0 ∧ 1 < x.exponentField then 1 / 4 else 1 / 2

/-- A fraction rounds to a word other than zero. Halfway between two words, the even one counts. -/
structure Near (x : Double) (q : ℚ) : Prop where
  low : (x.significand - x.below) * 2 ^ x.scale ≤ q
  high : q ≤ (x.significand + 1 / 2) * 2 ^ x.scale
  odd : x.significand % 2 = 1 →
    (x.significand - x.below) * 2 ^ x.scale < q ∧ q < (x.significand + 1 / 2) * 2 ^ x.scale

theorem below_cases (x : Double) : x.below = 1 / 2 ∨
    x.below = 1 / 4 ∧ x.significand = 2 ^ 52 ∧ -1074 < x.scale := by
  unfold below
  split
  · rename_i h
    refine .inr ⟨rfl, ?_, ?_⟩
    · unfold significand
      rw [if_neg (by omega)]
      omega
    · unfold scale
      rw [if_neg (by omega)]
      omega
  · exact .inl rfl

theorem below_of_least (hs : -1074 < x.scale) (hm : x.significand = 2 ^ 52) : x.below = 1 / 4 := by
  have hfield : 1 < x.exponentField := by
    unfold scale at hs
    split at hs <;> omega
  refine if_pos ⟨?_, hfield⟩
  unfold significand at hm
  rw [if_neg (by omega)] at hm
  omega

theorem below_le (x : Double) : x.below ≤ 1 / 2 := by
  rcases x.below_cases with h | ⟨h, -⟩ <;> rw [h]
  norm_num

theorem Near.pos (h : x.Near q) (hpos : 0 < x.significand) : 0 < q := by
  have hone : (1 : ℚ) ≤ x.significand := by exact_mod_cast hpos
  have hbelow := x.below_le
  exact lt_of_lt_of_le (mul_pos (by linarith) (two_zpow_pos _)) h.low

theorem Near.fits (h : x.Near q) : q < 2 ^ 53 * 2 ^ x.scale := by
  have hmax : (x.significand : ℚ) + 1 ≤ 2 ^ 53 := by exact_mod_cast x.significand_lt
  refine lt_of_le_of_lt h.high (mul_lt_mul_of_pos_right ?_ (two_zpow_pos _))
  linarith

/-- A fraction that is below the scale of the word is near the least word of this scale. -/
theorem Near.least (h : x.Near q) (hscale : -1074 < x.scale) (hlt : q < 2 ^ 52 * 2 ^ x.scale) :
    x.significand = 2 ^ 52 := by
  have hstep := two_zpow_pos x.scale
  have hlow := h.low
  have hbelow := x.below_le
  have hless : (x.significand : ℚ) < 2 ^ 52 + 1 := by nlinarith
  have hless' : x.significand < 2 ^ 52 + 1 := by exact_mod_cast hless
  exact Nat.le_antisymm (Nat.le_of_lt_succ hless') (le_significand hscale)

/-- The rounding of a fraction at a scale that is right for it. -/
theorem ofRatio_eq {r : ℕ} (hnum : num ≠ 0) (hscale : scaleFor num den = s)
    (hround : roundHalfEven (num * 2 ^ (-s).toNat) (den * 2 ^ s.toNat) = r)
    (hword : (s + 1074).toNat * 0x10000000000000 + r = x.magnitude) (hfin : x.isFinite = true)
    (negative : Bool) : ofRatio negative num den = x.withSign negative := by
  unfold ofRatio withSign
  simp only [if_neg hnum, hscale, Nat.pow_eq, hround, hword,
    Nat.min_eq_left (Nat.le_of_lt (magnitude_lt_infinity hfin))]

theorem scaled_pos (hden : den ≠ 0) (e : ℤ) : 0 < den * 2 ^ e.toNat :=
  Nat.mul_pos (Nat.pos_of_ne_zero hden) (Nat.two_pow_pos _)

/-- A fraction of the scale of the word is rounded to it. -/
theorem ofRatio_of_scale (hfin : x.isFinite = true) (hnum : num ≠ 0) (hden : den ≠ 0)
    (h : x.Near (num / den)) (hleast : -1074 < x.scale → 2 ^ 52 * (2 : ℚ) ^ x.scale ≤ num / den)
    (negative : Bool) : ofRatio negative num den = x.withSign negative := by
  have hstep := two_zpow_pos x.scale
  have hbelow := x.below_le
  refine ofRatio_eq hnum (scaleFor_eq hnum hden x.le_scale h.fits hleast)
    (roundHalfEven_of_near (k := x.significand) (scaled_pos hden _) ?_ ?_ ?_) x.magnitude_eq.symm
    hfin negative
  all_goals rw [scaled_div]
  · rw [le_div_iff₀ hstep]
    refine le_trans ?_ h.low
    gcongr
  · rw [div_le_iff₀ hstep]
    exact h.high
  · intro hodd
    obtain ⟨hlt, hgt⟩ := h.odd hodd
    rw [lt_div_iff₀ hstep, div_lt_iff₀ hstep]
    refine ⟨lt_of_le_of_lt ?_ hlt, hgt⟩
    gcongr

/-- A fraction of the next lower scale is rounded up to the least word of this one. -/
theorem ofRatio_of_lower (hfin : x.isFinite = true) (hnum : num ≠ 0) (hden : den ≠ 0)
    (h : x.Near (num / den)) (hscale : -1074 < x.scale)
    (hlt : (num : ℚ) / den < 2 ^ 52 * 2 ^ x.scale) (negative : Bool) :
    ofRatio negative num den = x.withSign negative := by
  have hexact := h.least hscale hlt
  have hvalue : (x.significand : ℚ) = 2 ^ 52 := by exact_mod_cast hexact
  have hhalf : (2 : ℚ) ^ x.scale = 2 * 2 ^ (x.scale - 1) := by
    rw [← two_zpow_succ, sub_add_cancel]
  have hstep := two_zpow_pos (x.scale - 1)
  have hlow := h.low
  rw [below_of_least hscale hexact, hvalue, hhalf] at hlow
  rw [hhalf] at hlt
  refine ofRatio_eq (s := x.scale - 1) (r := 2 ^ 53) hnum
    (scaleFor_eq hnum hden (by omega) (by linarith) fun _ => by nlinarith)
    (roundHalfEven_of_near (scaled_pos hden _) ?_ ?_ ?_) ?_ hfin negative
  · rw [scaled_div, le_div_iff₀ hstep]
    push_cast
    linarith
  · rw [scaled_div, div_le_iff₀ hstep]
    push_cast
    linarith
  · intro hodd
    omega
  · rw [x.magnitude_eq, hexact]
    omega

theorem ofRatio_of_near (hfin : x.isFinite = true) (hpos : 0 < x.significand) (hden : den ≠ 0)
    (h : x.Near (num / den)) (negative : Bool) :
    ofRatio negative num den = x.withSign negative := by
  have hnum : num ≠ 0 := by
    rintro rfl
    have hvalue := h.pos hpos
    rw [Nat.cast_zero, zero_div] at hvalue
    exact lt_irrefl _ hvalue
  by_cases hleast : -1074 < x.scale → 2 ^ 52 * (2 : ℚ) ^ x.scale ≤ num / den
  · exact ofRatio_of_scale hfin hnum hden h hleast negative
  · obtain ⟨hscale, hlt⟩ := Classical.not_imp.1 hleast
    exact ofRatio_of_lower hfin hnum hden h hscale (not_le.1 hlt) negative

end ScriptSandbox.Double
