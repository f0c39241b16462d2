import Mathlib.Order.Monotone.Basic
import Mathlib.Tactic.Common
import ScriptSandbox.World.Moment

/-!
# Moments in names of files

A day has one date and no other day has it (`civil_injective`). So what a moment puts into the name
of a file is its second and nothing else: two moments are written alike exactly if they lie in the
same second (`stamp_eq_iff`).
-/

namespace ScriptSandbox.Moment

/-! ## Years -/

/-- The year of a cycle of 400 in which a day of the cycle lies. -/
def yearOfCycle (day : Nat) : Nat := (day - day / 1460 + day / 36524 - day / 146096) / 365

/-- The day of a cycle on which a year begins. -/
def yearStart (year : Nat) : Nat := 365 * year + year / 4 - year / 100

theorem yearOfCycle_mono : Monotone yearOfCycle := by
  refine monotone_nat_of_le_succ fun day => Nat.div_le_div_right ?_
  omega

theorem yearOfCycle_ends : ∀ year < 400, yearOfCycle (yearStart year) = year ∧
    yearOfCycle (yearStart (year + 1) - 1) = year := by
  decide +kernel

/-- A day lies in its year. -/
theorem yearOfCycle_spec {day : Nat} (h : day < 146097) : yearOfCycle day < 400 ∧
    yearStart (yearOfCycle day) ≤ day ∧ day ≤ yearStart (yearOfCycle day) + 365 := by
  have hlt : yearOfCycle day < 400 := by
    have hmono := yearOfCycle_mono (Nat.le_of_lt_succ h)
    have hlast : yearOfCycle 146096 = 399 := by decide
    omega
  generalize hyear : yearOfCycle day = year at hlt ⊢
  refine ⟨hlt, ?_, ?_⟩
  · -- a day before the start of the year is no later than the end of the year before
    by_contra hbefore
    cases year with
    | zero => exact hbefore (Nat.zero_le _)
    | succ year =>
      have hmono := yearOfCycle_mono (show day ≤ yearStart (year + 1) - 1 by omega)
      rw [(yearOfCycle_ends year (by omega)).2, hyear] at hmono
      omega
  · by_contra hbehind
    by_cases hnext : year + 1 < 400
    · have hstart : yearStart (year + 1) ≤ yearStart year + 366 := by
        unfold yearStart
        omega
      have hmono := yearOfCycle_mono (show yearStart (year + 1) ≤ day by omega)
      rw [(yearOfCycle_ends (year + 1) hnext).1] at hmono
      omega
    · obtain rfl : year = 399 := by omega
      have hstart : yearStart 399 = 145731 := by decide
      omega

/-! ## Dates -/

/-- The month of a day of a year that begins in March. -/
def monthOf (dayOfYear : Nat) : Nat :=
  if (5 * dayOfYear + 2) / 153 < 10 then (5 * dayOfYear + 2) / 153 + 3
  else (5 * dayOfYear + 2) / 153 - 9

/-- A date is made of the cycle, the year in it and the day in the year. -/
theorem civil_spec (days : Nat) : ∃ cycle year dayOfYear, year < 400 ∧ dayOfYear ≤ 365 ∧
    days + 719468 = 146097 * cycle + yearStart year + dayOfYear ∧
    civil days = (400 * cycle + year + (if monthOf dayOfYear ≤ 2 then 1 else 0), monthOf dayOfYear,
      dayOfYear - (153 * ((5 * dayOfYear + 2) / 153) + 2) / 5 + 1) := by
  have hday := Nat.mod_lt (days + 719468) (show 146097 > 0 by decide)
  obtain ⟨hyear, hstart, hend⟩ := yearOfCycle_spec hday
  refine ⟨(days + 719468) / 146097, yearOfCycle ((days + 719468) % 146097),
    (days + 719468) % 146097 - yearStart (yearOfCycle ((days + 719468) % 146097)), hyear,
    by omega, by omega, rfl⟩

/-- The number of a day by its date, counted from March of the year zero on. -/
def dayOf (date : Nat × Nat × Nat) : Nat :=
  let (year, month, day) := date
  let shiftedYear := if month ≤ 2 then year - 1 else year
  let shiftedMonth := if month ≤ 2 then month + 9 else month - 3
  146097 * (shiftedYear / 400) + yearStart (shiftedYear % 400) + (153 * shiftedMonth + 2) / 5 +
    (day - 1)

theorem dayOf_civil (days : Nat) : dayOf (civil days) = days + 719468 := by
  obtain ⟨cycle, year, dayOfYear, hyear, hday, hdays, hcivil⟩ := civil_spec days
  rw [hcivil, hdays]
  unfold dayOf monthOf
  dsimp only
  by_cases hmonth : (5 * dayOfYear + 2) / 153 < 10
  · rw [if_pos hmonth, if_neg (by omega), if_neg (by omega), if_neg (by omega), Nat.add_zero,
      show (400 * cycle + year) / 400 = cycle by omega,
      show (400 * cycle + year) % 400 = year by omega]
    omega
  · rw [if_neg hmonth, if_pos (by omega), if_pos (by omega), if_pos (by omega), Nat.add_sub_cancel,
      show (400 * cycle + year) / 400 = cycle by omega,
      show (400 * cycle + year) % 400 = year by omega]
    omega

theorem civil_injective : Function.Injective civil := by
  intro days days' h
  have hday := dayOf_civil days
  rw [h, dayOf_civil] at hday
  omega

/-- Months and days have two digits at most. -/
theorem civil_lt (days : Nat) : (civil days).2.1 < 100 ∧ (civil days).2.2 < 100 := by
  obtain ⟨cycle, year, dayOfYear, -, hday, -, hcivil⟩ := civil_spec days
  rw [hcivil]
  unfold monthOf
  refine ⟨?_, ?_⟩
  · dsimp only
    split <;> omega
  · dsimp only
    omega

/-! ## Numbers with zeros before them -/

theorem toList_padded (width n : Nat) : (padded width n).toList =
    List.replicate (width - (Nat.toDigits 10 n).length) '0' ++ Nat.toDigits 10 n := by
  unfold padded
  dsimp only
  rw [Nat.toString_eq_repr, String.toList_append, String.toList_ofList, Nat.toList_repr,
    ← String.length_toList, Nat.toList_repr]

theorem padded_injective (width : Nat) : Function.Injective (padded width) := by
  have hvalue (n : Nat) : Nat.ofDigitChars 10 (padded width n).toList 0 = n := by
    rw [toList_padded, Nat.ofDigitChars_append, Nat.ofDigitChars_replicate_zero, Nat.mul_zero,
      Nat.ofDigitChars_ten_toDigits]
  intro n n' h
  rw [← hvalue n, h, hvalue]

theorem isDigit_of_mem_padded {width n : Nat} {c : Char} (h : c ∈ (padded width n).toList) :
    c.isDigit = true := by
  rw [toList_padded, List.mem_append] at h
  rcases h with h | h
  · rw [List.eq_of_mem_replicate h]
    rfl
  · exact Nat.isDigit_of_mem_toDigits (by decide) (by decide) h

theorem length_padded_two {n : Nat} (h : n < 100) : (padded 2 n).toList.length = 2 := by
  have hdigits : (Nat.toDigits 10 n).length ≤ 2 :=
    (Nat.length_toDigits_le_iff (by decide) (by decide)).2 h
  rw [toList_padded, List.length_append, List.length_replicate]
  omega

/-- Two digits at the end of a text are read off it. -/
theorem append_padded_inj {s s' : String} {n n' : Nat} (hn : n < 100) (hn' : n' < 100)
    (h : s ++ padded 2 n = s' ++ padded 2 n') : s = s' ∧ n = n' := by
  have hchars := congrArg String.toList h
  rw [String.toList_append, String.toList_append] at hchars
  obtain ⟨hs, hpadded⟩ := List.append_inj' hchars
    ((length_padded_two hn).trans (length_padded_two hn').symm)
  exact ⟨String.toList_inj.1 hs, padded_injective 2 (String.toList_inj.1 hpadded)⟩

/-! ## Stamps -/

theorem clock_lt (m : Moment) : m.clock.1 < 100 ∧ m.clock.2.1 < 100 ∧ m.clock.2.2 < 100 := by
  unfold clock
  dsimp only
  omega

/-- Two moments have one stamp exactly if they lie in one second. -/
theorem stamp_eq_iff {m m' : Moment} : m.stamp = m'.stamp ↔ m.seconds = m'.seconds := by
  constructor
  · intro h
    obtain ⟨hmonth, hday⟩ := civil_lt (m.seconds / 86400)
    obtain ⟨hmonth', hday'⟩ := civil_lt (m'.seconds / 86400)
    obtain ⟨hhour, hminute, hsecond⟩ := clock_lt m
    obtain ⟨hhour', hminute', hsecond'⟩ := clock_lt m'
    unfold stamp at h
    dsimp only at h
    obtain ⟨h, hs⟩ := append_padded_inj hsecond hsecond' h
    obtain ⟨h, hm⟩ := append_padded_inj hminute hminute' h
    obtain ⟨h, hh⟩ := append_padded_inj hhour hhour' h
    obtain ⟨h, hd⟩ := append_padded_inj hday hday' (String.append_left_inj _ |>.1 h)
    obtain ⟨h, hmo⟩ := append_padded_inj hmonth hmonth' h
    have hy := padded_injective 4 h
    have hdays : m.seconds / 86400 = m'.seconds / 86400 :=
      civil_injective (Prod.ext hy (Prod.ext hmo hd))
    unfold clock at hh hm hs
    dsimp only at hh hm hs
    omega
  · intro h
    unfold stamp date clock
    rw [h]

theorem noSlash_stamp (m : Moment) : '/' ∉ m.stamp.toList := by
  have hpadded (width n : Nat) : '/' ∉ (padded width n).toList := fun h =>
    absurd (isDigit_of_mem_padded h) (by decide)
  unfold stamp
  dsimp only
  simp [hpadded]

end ScriptSandbox.Moment
