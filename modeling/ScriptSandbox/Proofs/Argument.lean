import Mathlib.Algebra.Order.Floor.Semifield
import Mathlib.Data.Rat.Floor
import ScriptSandbox.Argument
import ScriptSandbox.Proofs.Number.Fewest

/-!
# What arguments mean

A value means a text, a count or nothing at all. A reader gives what a value means, and an error of
usage where it means nothing (`Reads`); readers one after the other do the same (`Reads.bind`).
-/

namespace ScriptSandbox

/-- The word stands for a number that is not below zero. -/
def Double.IsNonneg (x : Double) : Prop := x.isNegative = true → x.isZero = true

instance (x : Double) : Decidable x.IsNonneg := by unfold Double.IsNonneg; infer_instance

/-- The whole part of a number that is not below zero. -/
theorem Double.truncate_toNat {x : Double} (h : x.IsNonneg) : x.truncate.toNat = ⌊x.value⌋₊ := by
  have hfloor : ⌊x.value⌋₊ = x.ratio.1 / x.ratio.2 := by
    rw [← x.ratio_value.1, Nat.floor_div_eq_div]
  rw [hfloor]
  unfold truncate
  dsimp only
  split
  · rename_i hnegative
    have hzero : x.value = 0 := by
      rw [value, (isZero_iff x).1 (h hnegative)]
      simp
    rw [← hfloor, hzero]
    simp
  · exact Int.toNat_natCast _

namespace Arguments

variable {α β : Type} {means : α → Prop} {x : Except Failure α} {value : Json}

/-- A reader gives what a value means, and an error of usage where the value means nothing. -/
def Reads (means : α → Prop) : Except Failure α → Prop
  | .ok a => means a
  | .error f => (∀ a, ¬ means a) ∧ ∃ message, f = .invalidInput message

/-- One reader after another. What they read together is there only if the first has something to
read. -/
theorem Reads.bind {meaning : β → Prop} {f : α → Except Failure β} (hx : Reads means x)
    (hf : ∀ a, means a → Reads meaning (f a)) (hfirst : ∀ b, meaning b → ∃ a, means a) :
    Reads meaning (x >>= f) := by
  cases x with
  | ok a => exact hf a hx
  | error e =>
    refine ⟨fun b hb => ?_, hx.2⟩
    obtain ⟨a, ha⟩ := hfirst b hb
    exact hx.1 a ha

/-- What is read, and the error where nothing is. -/
theorem Reads.cases (hx : Reads means x) :
    (∃ a, x = .ok a ∧ means a) ∨ ∃ f, x = .error f ∧ f.code = .invalidInput ∧ ∀ a, ¬ means a := by
  cases x with
  | ok a => exact .inl ⟨a, rfl, hx⟩
  | error f =>
    obtain ⟨hnone, message, rfl⟩ := hx
    exact .inr ⟨_, rfl, rfl, hnone⟩

/-! ## Single arguments -/

/-- The value is this text, and the text has something other than blanks. -/
def IsText (value : Json) (s : String) : Prop := value = .str s ∧ Text.isBlankText s = false

/-- The value is this text, which may be empty as null is. -/
def IsAnyText (value : Json) (s : String) : Prop := value = .str s ∨ value = .null ∧ s = ""

/-- The value is this text with something other than blanks, or null. -/
def IsOptionalText (value : Json) (o : Option String) : Prop :=
  value = .null ∧ o = none ∨ ∃ s, IsText value s ∧ o = some s

/-- The value is null, or a number that is not below zero. What counts is its whole part, as far as
a word of 64 bits can hold it. -/
def IsCount (value : Json) (o : Option Nat) : Prop :=
  value = .null ∧ o = none ∨
    ∃ n, value = .num n ∧ n.toDouble.IsNonneg ∧
      o = some (min ⌊n.toDouble.value⌋₊ 0xffffffffffffffff)

theorem IsText.unique {s s' : String} (h : IsText value s) (h' : IsText value s') : s = s' :=
  Json.str.inj (h.1.symm.trans h'.1)

theorem IsAnyText.unique {s s' : String} (h : IsAnyText value s) (h' : IsAnyText value s') :
    s = s' := by
  rcases h with rfl | ⟨rfl, rfl⟩ <;> rcases h' with h' | ⟨h', rfl⟩
  · exact Json.str.inj h'
  · cases h'
  · cases h'
  · rfl

theorem IsOptionalText.unique {o o' : Option String} (h : IsOptionalText value o)
    (h' : IsOptionalText value o') : o = o' := by
  rcases h with ⟨rfl, rfl⟩ | ⟨s, hs, rfl⟩ <;> rcases h' with ⟨h', rfl⟩ | ⟨s', hs', rfl⟩
  · rfl
  · cases hs'.1
  · cases hs.1.symm.trans h'
  · rw [hs.unique hs']

theorem IsCount.unique {o o' : Option Nat} (h : IsCount value o) (h' : IsCount value o') :
    o = o' := by
  rcases h with ⟨rfl, rfl⟩ | ⟨n, rfl, -, rfl⟩ <;> rcases h' with ⟨h', rfl⟩ | ⟨n', h', -, rfl⟩
  · rfl
  · cases h'
  · cases h'
  · rw [Json.num.inj h']

theorem textOf?_eq_some_iff {s : String} : textOf? value = some s ↔ IsText value s := by
  unfold textOf? IsText
  cases value with
  | str t =>
    constructor
    · intro h
      dsimp only at h
      split at h
      · exact nomatch h
      · rename_i hblank
        obtain rfl := Option.some.inj h
        exact ⟨rfl, eq_false_of_ne_true hblank⟩
    · rintro ⟨ht, hblank⟩
      obtain rfl := Json.str.inj ht
      simp only [hblank, Bool.false_eq_true, if_false]
  | null | bool | num | arr | obj => simp

theorem reads_requireText (args : Arguments) (index : Nat) (name : String) :
    Reads (IsText (args.get index)) (args.requireText index name) := by
  unfold requireText
  cases h : textOf? (args.get index) with
  | some s => exact textOf?_eq_some_iff.1 h
  | none =>
    refine ⟨fun s hs => ?_, _, rfl⟩
    rw [textOf?_eq_some_iff.2 hs] at h
    exact nomatch h

theorem reads_requireAnyText (args : Arguments) (index : Nat) (name : String) :
    Reads (IsAnyText (args.get index)) (args.requireAnyText index name) := by
  unfold requireAnyText
  cases args.get index with
  | str s => exact .inl rfl
  | null => exact .inr ⟨rfl, rfl⟩
  | bool | num | arr | obj => exact ⟨by simp [IsAnyText], _, rfl⟩

theorem reads_countOf (value : Json) (name : String) :
    Reads (IsCount value) (countOf value name) := by
  cases value with
  | null => exact .inl ⟨rfl, rfl⟩
  | num n =>
    unfold countOf
    dsimp only
    split
    · rename_i hnegative
      refine ⟨?_, _, rfl⟩
      rintro o (⟨h, -⟩ | ⟨m, h, hnonneg, -⟩)
      · cases h
      · obtain rfl := Json.num.inj h
        obtain ⟨hneg, hzero⟩ : n.toDouble.isNegative = true ∧ n.toDouble.isZero = false := by
          simpa using hnegative
        rw [hnonneg hneg] at hzero
        cases hzero
    · rename_i hnonneg
      have hnonneg : n.toDouble.IsNonneg := fun hneg => by simpa [hneg] using hnonneg
      exact .inr ⟨n, rfl, hnonneg, by rw [clampWord, Double.truncate_toNat hnonneg]⟩
  | bool | str | arr | obj => exact ⟨by simp [IsCount], _, rfl⟩

/-- An optional text is what the value means, or the value means none and counts as missing. -/
theorem isOptionalText_or (args : Arguments) (index : Nat) :
    IsOptionalText (args.get index) (args.optionalText index) ∨
      args.optionalText index = none ∧ ∀ o, ¬ IsOptionalText (args.get index) o := by
  unfold optionalText
  cases h : textOf? (args.get index) with
  | some s => exact .inl (.inr ⟨s, textOf?_eq_some_iff.1 h, rfl⟩)
  | none =>
    by_cases hnull : args.get index = .null
    · exact .inl (.inl ⟨hnull, rfl⟩)
    · refine .inr ⟨rfl, ?_⟩
      rintro o (⟨hnull', -⟩ | ⟨s, hs, -⟩)
      · exact hnull hnull'
      · rw [textOf?_eq_some_iff.2 hs] at h
        exact nomatch h

end Arguments

end ScriptSandbox
