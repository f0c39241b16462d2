import ScriptSandbox.Proofs.Number.Nearest

/-!
# The fewest digits

The interval around a word, in naturals, holds the decimals that round to the word (`holds_iff`). From
the leading digit on, a decimal of it is found within 17 digits, since half a step of the word is
larger than one of theirs. So the fewest digits that read back do read back (`near_shortest`).
-/

namespace ScriptSandbox.Double

variable {x : Double} {d n : ℕ} {e p : ℤ}

/-- The number that a decimal stands for. -/
def Decimal.value (d : Decimal) : ℚ := d.digits * 10 ^ d.exponent

/-! ## The interval -/

/-- What takes the denominators out of a comparison of a multiple of `2 ^ p` with one of `10 ^ e`. -/
def clearing (p e : ℤ) : ℚ := 2 ^ (-p).toNat * 10 ^ (-e).toNat

theorem clearing_pos (p e : ℤ) : 0 < clearing p e := by
  unfold clearing
  positivity

theorem binary_cleared (a : ℕ) (p e : ℤ) :
    ((a * 2 ^ p.toNat * 10 ^ (-e).toNat : ℕ) : ℚ) = a * 2 ^ p * clearing p e := by
  rw [zpow_eq_div 2 p, clearing]
  push_cast
  field_simp

theorem decimal_cleared (d : ℕ) (p e : ℤ) :
    ((d * 10 ^ e.toNat * 2 ^ (-p).toNat : ℕ) : ℚ) = d * 10 ^ e * clearing p e := by
  rw [zpow_eq_div 10 e, clearing]
  push_cast
  field_simp

theorem binary_le_decimal (a d : ℕ) (p e : ℤ) :
    a * 2 ^ p.toNat * 10 ^ (-e).toNat ≤ d * 10 ^ e.toNat * 2 ^ (-p).toNat ↔
      (a : ℚ) * 2 ^ p ≤ d * 10 ^ e := by
  rw [← Nat.cast_le (α := ℚ), binary_cleared, decimal_cleared,
    mul_le_mul_iff_of_pos_right (clearing_pos p e)]

theorem decimal_le_binary (a d : ℕ) (p e : ℤ) :
    d * 10 ^ e.toNat * 2 ^ (-p).toNat ≤ a * 2 ^ p.toNat * 10 ^ (-e).toNat ↔
      (d : ℚ) * 10 ^ e ≤ a * 2 ^ p := by
  rw [← Nat.cast_le (α := ℚ), binary_cleared, decimal_cleared,
    mul_le_mul_iff_of_pos_right (clearing_pos p e)]

theorem binary_lt_decimal (a d : ℕ) (p e : ℤ) :
    a * 2 ^ p.toNat * 10 ^ (-e).toNat < d * 10 ^ e.toNat * 2 ^ (-p).toNat ↔
      (a : ℚ) * 2 ^ p < d * 10 ^ e := by
  rw [← not_le, ← not_le, decimal_le_binary]

theorem decimal_lt_binary (a d : ℕ) (p e : ℤ) :
    d * 10 ^ e.toNat * 2 ^ (-p).toNat < a * 2 ^ p.toNat * 10 ^ (-e).toNat ↔
      (d : ℚ) * 10 ^ e < a * 2 ^ p := by
  rw [← not_le, ← not_le, binary_le_decimal]

/-- The ends of the interval, in quarters of a step. -/
theorem exists_interval (hpos : 0 < x.significand) :
    ∃ low high : ℕ, x.interval =
      { low := low * 2 ^ (x.scale - 2).toNat
        value := 4 * x.significand * 2 ^ (x.scale - 2).toNat
        high := high * 2 ^ (x.scale - 2).toNat
        den := 2 ^ (-(x.scale - 2)).toNat, closed := x.significand % 2 = 0 } ∧
      (low : ℚ) * 2 ^ (x.scale - 2) = (x.significand - x.below) * 2 ^ x.scale ∧
      (high : ℚ) * 2 ^ (x.scale - 2) = (x.significand + 1 / 2) * 2 ^ x.scale := by
  refine ⟨4 * x.significand - if x.fractionField = 0 ∧ 1 < x.exponentField then 1 else 2,
    4 * x.significand + 2, rfl, ?_, ?_⟩
  all_goals rw [zpow_sub₀ (by norm_num)]
  · rw [Nat.cast_sub (by split <;> omega), below]
    split <;> push_cast <;> ring
  · push_cast
    ring

/-- The interval holds the decimals that round to the word. -/
theorem holds_iff (hpos : 0 < x.significand) (d : ℕ) (e : ℤ) :
    x.interval.holds d e = true ↔ x.Near (d * 10 ^ e) := by
  obtain ⟨low, high, hinterval, hlow, hhigh⟩ := exists_interval hpos
  rw [hinterval]
  unfold Interval.holds
  by_cases heven : x.significand % 2 = 0
  · simp only [Nat.pow_eq, heven, decide_true, if_true, Bool.and_eq_true, decide_eq_true_eq,
      binary_le_decimal, decimal_le_binary, hlow, hhigh]
    exact ⟨fun ⟨h, h'⟩ => ⟨h, h', fun hodd => by omega⟩, fun h => ⟨h.low, h.high⟩⟩
  · simp only [Nat.pow_eq, heven, decide_false, Bool.false_eq_true, if_false, Bool.and_eq_true,
      decide_eq_true_eq, binary_lt_decimal, decimal_lt_binary, hlow, hhigh]
    exact ⟨fun h => ⟨h.1.le, h.2.le, fun _ => h⟩, fun h => h.odd (by omega)⟩

/-! ## Grids -/

theorem onGrid_holds {i : Interval} (h : i.onGrid e = some d) : i.holds d e = true := by
  unfold Interval.onGrid at h
  dsimp only at h
  split_ifs at h with hdown hup hup
  · obtain rfl := Option.some.inj h
    exact hup.1
  · obtain rfl := Option.some.inj h
    exact hdown.2
  · obtain rfl := Option.some.inj h
    exact hup

/-- What the search finds lies in the interval, and no further along than the first grid that is known
to have a point there. -/
theorem search_spec {i : Interval} {k : ℕ} (hgrid : (i.onGrid (e - k)).isSome) (hk : k < n) :
    ∃ D, i.search e n = some D ∧ i.holds D.digits D.exponent = true ∧ e - k ≤ D.exponent ∧
      D.exponent ≤ e := by
  induction n generalizing e k with
  | zero => omega
  | succ n ih =>
    unfold Interval.search
    cases h : i.onGrid e with
    | some d => exact ⟨⟨d, e⟩, rfl, onGrid_holds h, by simp, le_rfl⟩
    | none =>
      cases k with
      | zero => simp [h] at hgrid
      | succ k =>
        rw [show e - ((k + 1 : ℕ) : ℤ) = e - 1 - k by push_cast; ring] at hgrid
        obtain ⟨D, hsearch, hholds, hge, hle⟩ := ih hgrid (by omega)
        exact ⟨D, hsearch, hholds, by push_cast; omega, by omega⟩

/-- The number that a finite word stands for, without its sign. -/
def value (x : Double) : ℚ := x.significand * 2 ^ x.scale

theorem interval_value (x : Double) : (x.interval.value : ℚ) / x.interval.den = x.value := by
  have hstep := zpow_eq_div 2 (x.scale - 2)
  rw [zpow_sub₀ (by norm_num)] at hstep
  unfold interval value
  simp only [Nat.pow_eq]
  push_cast
  rw [mul_div_assoc, ← hstep]
  ring

theorem interval_den_ne (x : Double) : x.interval.den ≠ 0 := (Nat.two_pow_pos _).ne'

theorem near_value (x : Double) : x.Near x.value := by
  have hstep := two_zpow_pos x.scale
  have hlow : (x.significand - x.below) * 2 ^ x.scale < x.value := by
    have hbelow : 0 < x.below := by
      rcases x.below_cases with h | ⟨h, -⟩ <;> rw [h] <;> norm_num
    exact mul_lt_mul_of_pos_right (by linarith) hstep
  have hhigh : x.value < (x.significand + 1 / 2) * 2 ^ x.scale :=
    mul_lt_mul_of_pos_right (by linarith) hstep
  exact ⟨hlow.le, hhigh.le, fun _ => ⟨hlow, hhigh⟩⟩

/-- Where the points of a grid are no further apart than half a step, one is in the interval. -/
theorem onGrid_isSome (hpos : 0 < x.significand) (he : (10 : ℚ) ^ e ≤ 2 ^ x.scale / 2) :
    (x.interval.onGrid e).isSome := by
  have hten := ten_zpow_pos e
  obtain ⟨num, hnum⟩ : ∃ num, num = x.interval.value * 10 ^ (-e).toNat := ⟨_, rfl⟩
  obtain ⟨den, hden⟩ : ∃ den, den = x.interval.den * 10 ^ e.toNat := ⟨_, rfl⟩
  have hpart : (num : ℚ) / den = x.value / 10 ^ e := by
    rw [hnum, hden, ← interval_value, zpow_eq_div 10 e]
    push_cast
    field_simp
  have hposd : 0 < den := hden ▸
    Nat.mul_pos (Nat.pos_of_ne_zero x.interval_den_ne) (Nat.pow_pos (by decide))
  have hposd' : (0 : ℚ) < den := by exact_mod_cast hposd
  have hle : ((num / den : ℕ) : ℚ) * 10 ^ e ≤ x.value := by
    rw [← le_div_iff₀ hten, ← hpart, le_div_iff₀ hposd']
    exact_mod_cast Nat.div_mul_le_self num den
  have hlt : x.value < ((num / den + 1 : ℕ) : ℚ) * 10 ^ e := by
    rw [← div_lt_iff₀ hten, ← hpart, div_lt_iff₀ hposd']
    exact_mod_cast Nat.lt_of_lt_of_eq (Nat.lt_mul_div_succ num hposd) (Nat.mul_comm _ _)
  -- The word itself may be on the grid; if it is not, the point above it is near enough.
  have hfits : num / den ≠ 0 ∧ x.interval.holds (num / den) e = true ∨
      x.interval.holds (num / den + 1) e = true := by
    rw [holds_iff hpos, holds_iff hpos]
    have hnear := x.near_value
    rcases hle.eq_or_lt with heq | hless
    · refine .inl ⟨?_, by rwa [heq]⟩
      intro hzero
      have hvalue : 0 < x.value := mul_pos (by exact_mod_cast hpos) (two_zpow_pos _)
      rw [hzero, Nat.cast_zero, zero_mul] at heq
      linarith
    · refine .inr ?_
      have hhigh : ((num / den + 1 : ℕ) : ℚ) * 10 ^ e < (x.significand + 1 / 2) * 2 ^ x.scale := by
        unfold value at hless
        push_cast
        linarith
      exact ⟨hnear.low.trans hlt.le, hhigh.le, fun _ => ⟨hnear.low.trans_lt hlt, hhigh⟩⟩
  unfold Interval.onGrid
  simp only [Nat.pow_eq, ← hnum, ← hden]
  split_ifs with hdown hup hup
  · rfl
  · rfl
  · rfl
  · exact absurd hfits (not_or.2 ⟨hdown, hup⟩)

/-! ## The leading digit -/

theorem digitCount_spec (hn : n ≠ 0) : 10 ^ (digitCount n - 1) ≤ n ∧ n < 10 ^ digitCount n := by
  have hcount : 0 < digitCount n := Nat.length_toDigits_pos
  refine ⟨?_, (Nat.length_toDigits_le_iff (by decide) hcount).1 le_rfl⟩
  by_contra hlt
  by_cases hone : digitCount n = 1
  · rw [hone] at hlt
    omega
  · have := (Nat.length_toDigits_le_iff (b := 10) (by decide) (by omega)).2 (not_le.1 hlt)
    unfold digitCount at this hcount
    omega

theorem leading_spec {num den : ℕ} (hnum : num ≠ 0) (hden : den ≠ 0) :
    (10 : ℚ) ^ leading num den ≤ num / den ∧ (num : ℚ) / den < 10 ^ (leading num den + 1) := by
  have hposd : (0 : ℚ) < den := by exact_mod_cast Nat.pos_of_ne_zero hden
  rw [le_div_iff₀ hposd, div_lt_iff₀ hposd]
  unfold leading
  split
  · rename_i hle
    have hne : num / den ≠ 0 := (Nat.div_pos hle (Nat.pos_of_ne_zero hden)).ne'
    obtain ⟨hlow, hhigh⟩ := digitCount_spec hne
    have hcount : 0 < digitCount (num / den) := Nat.length_toDigits_pos
    rw [Nat.le_div_iff_mul_le (Nat.pos_of_ne_zero hden)] at hlow
    rw [Nat.div_lt_iff_lt_mul (Nat.pos_of_ne_zero hden)] at hhigh
    rw [sub_add_cancel, zpow_natCast,
      show (digitCount (num / den) : ℤ) - 1 = ((digitCount (num / den) - 1 : ℕ) : ℤ) by omega,
      zpow_natCast]
    exact ⟨by exact_mod_cast hlow, by exact_mod_cast hhigh⟩
  · rename_i hlt
    have hposn := Nat.pos_of_ne_zero hnum
    have hne : (den - 1) / num ≠ 0 := (Nat.div_pos (by omega) hposn).ne'
    obtain ⟨hlow, hhigh⟩ := digitCount_spec hne
    have hcount : 0 < digitCount ((den - 1) / num) := Nat.length_toDigits_pos
    rw [Nat.le_div_iff_mul_le hposn] at hlow
    rw [Nat.div_lt_iff_lt_mul hposn] at hhigh
    generalize digitCount ((den - 1) / num) = c at hlow hhigh hcount
    obtain ⟨c, rfl⟩ : ∃ k, c = k + 1 := ⟨c - 1, by omega⟩
    rw [show (-((c + 1 : ℕ) : ℤ) + 1) = -(c : ℤ) by push_cast; ring, zpow_neg, zpow_neg, zpow_natCast,
      zpow_natCast, inv_mul_le_iff₀ (by positivity), lt_inv_mul_iff₀ (by positivity)]
    have hlow' : 10 ^ c * num < den := by
      rw [Nat.add_sub_cancel] at hlow
      omega
    have hhigh' : den ≤ 10 ^ (c + 1) * num := by omega
    exact ⟨by exact_mod_cast hhigh', by exact_mod_cast hlow'⟩

/-! ## The decimal that is found -/

theorem Decimal.strip_value (D : Decimal) (n : ℕ) :
    (D.strip n).value = D.value ∧ D.exponent ≤ (D.strip n).exponent := by
  obtain ⟨k, hdigits, hexponent⟩ := D.strip_spec n
  refine ⟨?_, by omega⟩
  have hcast : (D.digits : ℚ) = (D.strip n).digits * 10 ^ k := by exact_mod_cast hdigits
  unfold Decimal.value
  rw [hexponent, hcast, zpow_add₀ (by norm_num), zpow_natCast]
  ring

/-- The power of ten of the leading digit of a word. -/
def top (x : Double) : ℤ := leading x.interval.value x.interval.den

theorem top_spec (hpos : 0 < x.significand) :
    (10 : ℚ) ^ x.top ≤ x.value ∧ x.value < 10 ^ (x.top + 1) := by
  rw [← interval_value]
  refine leading_spec ?_ x.interval_den_ne
  exact (Nat.mul_pos (Nat.mul_pos (by decide) hpos) (Nat.two_pow_pos _)).ne'

/-- The fewest digits read back, and they go no further than a grid that is dense enough. -/
theorem shortest_spec (hpos : 0 < x.significand) (hn : n < 18)
    (hgrid : (10 : ℚ) ^ (x.top - n) ≤ 2 ^ x.scale / 2) :
    x.Near x.shortest.value ∧ x.top - n ≤ x.shortest.exponent := by
  obtain ⟨D, hsearch, hholds, hge, -⟩ := search_spec (onGrid_isSome hpos hgrid) hn
  obtain ⟨hvalue, hle⟩ := Decimal.strip_value D (digitCount D.digits)
  have hshortest : x.shortest = D.strip (digitCount D.digits) := by
    have hfound : x.interval.search (leading x.interval.value x.interval.den) 18 = some D := hsearch
    unfold shortest
    dsimp only
    rw [hfound]
    rfl
  rw [hshortest, hvalue]
  exact ⟨(holds_iff hpos _ _).1 hholds, hge.trans hle⟩

theorem value_lt (x : Double) : x.value < 2 ^ 53 * 2 ^ x.scale :=
  mul_lt_mul_of_pos_right (by exact_mod_cast x.significand_lt) (two_zpow_pos _)

/-- Seventeen digits behind the first are dense enough for any word. -/
theorem dense (hpos : 0 < x.significand) : (10 : ℚ) ^ (x.top - (17 : ℕ)) ≤ 2 ^ x.scale / 2 := by
  have htop := (top_spec hpos).1
  have hvalue := x.value_lt
  have hsplit : (10 : ℚ) ^ (x.top - (17 : ℕ)) = 10 ^ x.top / 10 ^ 17 := by
    rw [zpow_sub₀ (by norm_num), zpow_natCast]
  rw [hsplit, div_le_iff₀ (by norm_num)]
  have hstep := two_zpow_pos x.scale
  linarith

theorem near_shortest (hpos : 0 < x.significand) : x.Near x.shortest.value :=
  (shortest_spec hpos (by decide) (dense hpos)).1

theorem Near.lt {q : ℚ} (h : x.Near q) (hpos : 0 < x.significand) : q < 2 * x.value := by
  have hone : (1 : ℚ) ≤ x.significand := by exact_mod_cast hpos
  refine lt_of_le_of_lt h.high ?_
  unfold value
  rw [← mul_assoc]
  exact mul_lt_mul_of_pos_right (by linarith) (two_zpow_pos _)

theorem digits_pos (hpos : 0 < x.significand) : 0 < x.shortest.digits := by
  have hvalue := (near_shortest hpos).pos hpos
  rw [Nat.pos_iff_ne_zero]
  intro hzero
  rw [Decimal.value, hzero, Nat.cast_zero, zero_mul] at hvalue
  exact lt_irrefl _ hvalue

theorem digits_lt (hpos : 0 < x.significand) : x.shortest.digits < 2 * 10 ^ 18 := by
  obtain ⟨hnear, hexponent⟩ := shortest_spec hpos (by decide) (dense hpos)
  have hvalue := hnear.lt hpos
  have htop := (top_spec hpos).2
  have hle : (10 : ℚ) ^ (x.top - (17 : ℕ)) ≤ 10 ^ x.shortest.exponent :=
    zpow_le_zpow_right₀ (by norm_num) hexponent
  have hsplit : (10 : ℚ) ^ (x.top + 1) = 10 ^ (x.top - (17 : ℕ)) * 10 ^ 18 := by
    rw [← zpow_natCast, ← zpow_add₀ (by norm_num)]
    congr 1
    push_cast
    ring
  have hten := ten_zpow_pos (x.top - (17 : ℕ))
  have hlt : (x.shortest.digits : ℚ) * 10 ^ (x.top - (17 : ℕ)) <
      2 * 10 ^ 18 * 10 ^ (x.top - (17 : ℕ)) := by
    calc (x.shortest.digits : ℚ) * 10 ^ (x.top - (17 : ℕ)) ≤ x.shortest.value := by
          unfold Decimal.value
          gcongr
      _ < 2 * 10 ^ 18 * 10 ^ (x.top - (17 : ℕ)) := by
          rw [hsplit] at htop
          linarith
  exact_mod_cast lt_of_mul_lt_mul_right hlt hten.le

theorem scale_le (hfin : x.isFinite = true) : x.scale ≤ 971 := by
  have hfield : x.exponentField < 2047 := by simpa [isFinite] using hfin
  unfold scale
  split <;> omega

theorem exponent_lt (hfin : x.isFinite = true) (hpos : 0 < x.significand) :
    x.shortest.exponent < 400 := by
  have hvalue := (near_shortest hpos).lt hpos
  have hone : (1 : ℚ) ≤ x.shortest.digits := by exact_mod_cast digits_pos hpos
  have hten := ten_zpow_pos x.shortest.exponent
  have hmax : (2 : ℚ) * (2 ^ 53 * 2 ^ 971) < 10 ^ 400 := by
    exact_mod_cast (by decide +kernel : 2 * (2 ^ 53 * 2 ^ 971) < 10 ^ 400)
  have hlt : (10 : ℚ) ^ x.shortest.exponent < 10 ^ (400 : ℤ) := by
    calc (10 : ℚ) ^ x.shortest.exponent ≤ x.shortest.value := le_mul_of_one_le_left hten.le hone
      _ < 2 * (2 ^ 53 * 2 ^ x.scale) := by linarith [x.value_lt]
      _ ≤ 2 * (2 ^ 53 * 2 ^ (971 : ℤ)) := by
          gcongr
          · norm_num
          · exact scale_le hfin
      _ < 10 ^ (400 : ℤ) := hmax
  exact (zpow_lt_zpow_iff_right₀ (by norm_num)).1 hlt

theorem lt_exponent (hpos : 0 < x.significand) : -400 < x.shortest.exponent := by
  have hexponent := (shortest_spec hpos (by decide) (dense hpos)).2
  have htop := (top_spec hpos).2
  have hone : (1 : ℚ) ≤ x.significand := by exact_mod_cast hpos
  have hmin : (2 : ℚ) ^ 1074 < 10 ^ 350 := by
    exact_mod_cast (by decide +kernel : 2 ^ 1074 < 10 ^ 350)
  have hlt : (10 : ℚ) ^ (-350 : ℤ) < 10 ^ (x.top + 1) := by
    calc (10 : ℚ) ^ (-350 : ℤ) < 2 ^ (-1074 : ℤ) := inv_strictAnti₀ (pow_pos (by norm_num) _) hmin
      _ ≤ 2 ^ x.scale := two_zpow_le x.le_scale
      _ ≤ x.value := le_mul_of_one_le_left (two_zpow_pos _).le hone
      _ < 10 ^ (x.top + 1) := htop
  have := (zpow_lt_zpow_iff_right₀ (by norm_num : (1 : ℚ) < 10)).1 hlt
  push_cast at hexponent
  omega

theorem scale_pos (hbig : 2 ^ 53 ≤ x.value) : 0 < x.scale := by
  by_contra hle
  have : (2 : ℚ) ^ x.scale ≤ 2 ^ (0 : ℤ) := two_zpow_le (by omega)
  rw [zpow_zero] at this
  linarith [x.value_lt]

theorem significand_pos (hvalue : 0 < x.value) : 0 < x.significand := by
  rw [Nat.pos_iff_ne_zero]
  intro hzero
  rw [value, hzero, Nat.cast_zero, zero_mul] at hvalue
  exact lt_irrefl _ hvalue

/-- The fewest digits of a large number have no point. -/
theorem exponent_nonneg (hbig : 2 ^ 53 ≤ x.value) : 0 ≤ x.shortest.exponent := by
  have hpos := significand_pos (lt_of_lt_of_le (by norm_num) hbig)
  have hscale := scale_pos hbig
  have htop : 0 ≤ x.top := by
    have hlt : (10 : ℚ) ^ (0 : ℤ) < 10 ^ (x.top + 1) := by
      rw [zpow_zero]
      linarith [(top_spec hpos).2]
    have := (zpow_lt_zpow_iff_right₀ (by norm_num : (1 : ℚ) < 10)).1 hlt
    omega
  by_cases hsmall : x.top < 18
  · obtain ⟨n, hn⟩ := Int.eq_ofNat_of_zero_le htop
    have hgrid : (10 : ℚ) ^ (x.top - n) ≤ 2 ^ x.scale / 2 := by
      have : (2 : ℚ) ^ (1 : ℤ) ≤ 2 ^ x.scale := two_zpow_le (by omega)
      rw [hn, sub_self, zpow_zero]
      rw [zpow_one] at this
      linarith
    have := (shortest_spec hpos (by omega) hgrid).2
    omega
  · have := (shortest_spec hpos (by decide) (dense hpos)).2
    push_cast at this
    omega

/-- No step of words goes beyond a power of two. -/
theorem shortest_le (hbig : 2 ^ 53 ≤ x.value) (hlt : x.value < 2 ^ 63) :
    x.shortest.digits * 10 ^ x.shortest.exponent.toNat ≤ 2 ^ 63 := by
  have hpos := significand_pos (lt_of_lt_of_le (by norm_num) hbig)
  have hhigh := (near_shortest hpos).high
  obtain ⟨e, he⟩ := Int.eq_ofNat_of_zero_le (exponent_nonneg hbig)
  obtain ⟨k, hk⟩ := Int.eq_ofNat_of_zero_le (scale_pos hbig).le
  rw [value, hk, zpow_natCast] at hlt
  rw [Decimal.value, he, hk, zpow_natCast, zpow_natCast] at hhigh
  rw [he, Int.toNat_natCast]
  have hvalue : x.significand * 2 ^ k < 2 ^ 63 := by exact_mod_cast hlt
  have hsmall : k < 63 := by
    rw [← Nat.pow_lt_pow_iff_right (by decide : 1 < 2)]
    exact Nat.lt_of_le_of_lt (Nat.le_mul_of_pos_left _ hpos) hvalue
  have hnext : (x.significand + 1) * 2 ^ k ≤ 2 ^ 63 := by
    have hsplit : 2 ^ 63 = 2 ^ (63 - k) * 2 ^ k := by
      rw [← Nat.pow_add, Nat.sub_add_cancel hsmall.le]
    rw [hsplit] at hvalue ⊢
    exact Nat.mul_le_mul_right _ (Nat.lt_of_mul_lt_mul_right hvalue)
  have hle : (x.shortest.digits * 10 ^ e : ℚ) ≤ (x.significand + 1) * 2 ^ k := by
    refine hhigh.trans ?_
    gcongr
    norm_num
  exact Nat.le_trans (by exact_mod_cast hle) hnext

/-! ## Whole numbers -/

theorem isZero_iff (x : Double) : x.isZero = true ↔ x.significand = 0 := by
  have hmagnitude := x.magnitude_eq
  have hscale := x.le_scale
  unfold isZero
  rw [beq_iff_eq]
  constructor
  · omega
  · intro hzero
    have hleast : x.scale = -1074 := by
      by_contra hne
      have := le_significand (show -1074 < x.scale by omega)
      omega
    rw [hmagnitude, hzero, hleast]
    rfl

theorem ratio_value (x : Double) : (x.ratio.1 : ℚ) / x.ratio.2 = x.value ∧ x.ratio.2 ≠ 0 := by
  unfold ratio value
  cases x.scale with
  | ofNat k =>
    refine ⟨?_, one_ne_zero⟩
    simp
  | negSucc k =>
    refine ⟨?_, (Nat.two_pow_pos _).ne'⟩
    simp [zpow_negSucc, div_eq_mul_inv]

/-- A word that is a whole number stands for it, and has its sign. -/
theorem toInt?_spec {i : ℤ} (h : x.toInt? = some i) : x.isFinite = true ∧ x.value = i.natAbs ∧
    (i ≠ 0 → x.isNegative = decide (i < 0)) := by
  obtain ⟨hvalue, hden⟩ := x.ratio_value
  unfold toInt? at h
  dsimp only at h
  split at h
  · rename_i hfin
    split at h
    · rename_i hwhole
      have hquotient : x.value = (x.ratio.1 / x.ratio.2 : ℕ) := by
        rw [← hvalue, div_eq_iff (by exact_mod_cast hden)]
        exact_mod_cast (Nat.div_mul_cancel (Nat.dvd_of_mod_eq_zero hwhole)).symm
      obtain rfl := Option.some.inj h
      generalize x.ratio.1 / x.ratio.2 = n at hquotient ⊢
      refine ⟨hfin, ?_, fun hne => ?_⟩
      · rw [hquotient]
        cases x.isNegative with
        | false => rw [if_neg Bool.false_ne_true, Int.natAbs_natCast]
        | true => rw [if_pos rfl, Int.natAbs_neg, Int.natAbs_natCast]
      · cases hneg : x.isNegative with
        | false =>
          symm
          rw [if_neg Bool.false_ne_true, decide_eq_false_iff_not]
          omega
        | true =>
          rw [hneg, if_pos rfl] at hne
          symm
          rw [if_pos rfl, decide_eq_true_eq]
          omega
    · cases h
  · cases h

/-- A whole number of at most 53 bits is one word only, but for zero. -/
theorem eq_ofInt {i : ℤ} (h : x.toInt? = some i) (h0 : i ≠ 0) : x = ofInt i := by
  obtain ⟨hfin, hvalue, hsign⟩ := toInt?_spec h
  have hpos : 0 < x.significand := by
    rw [Nat.pos_iff_ne_zero]
    intro hzero
    rw [value, hzero, Nat.cast_zero, zero_mul] at hvalue
    exact h0 (Int.natAbs_eq_zero.1 (by exact_mod_cast hvalue.symm))
  have hnear : x.Near ((i.natAbs : ℕ) / (1 : ℕ) : ℚ) := by
    rw [Nat.cast_one, div_one, ← hvalue]
    exact x.near_value
  rw [ofInt, ofRatio_of_near hfin hpos one_ne_zero hnear, ← hsign h0, withSign_isNegative]

end ScriptSandbox.Double
