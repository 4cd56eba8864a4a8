import Mathlib
import HeapKit.Container.HashMap.LoadFactor

/-!
# Table sizes within a machine word

`LoadFactor.slots` computes with 64-bit words. `SlotsFit` says that none of its
products, sums or shifts leaves a word; under it, `slots_toInt` equates the
computed pair with `exactSlots`, the same formulas on unbounded integers, and
`slots_spec` reads off what a table of that size is: a power of two of at most
2^62 slots, at least the inline count, with a usable count that holds the
requested entries and stays below the total, so some slot is always empty.
-/

namespace HeapKit

namespace LoadFactor

/-- An integer that a machine word holds without wrapping. -/
def InWord (value : ℤ) : Prop := -2 ^ 63 ≤ value ∧ value < 2 ^ 63

/-- The smallest power of two at least `value`, one for values up to one, on unbounded
integers. -/
def ceilPowerOfTwo (value : ℤ) : ℤ :=
  if value ≤ 1 then 1 else 2 ^ (Nat.log2 (value - 1).toNat + 1)

/-- The slots that `minUsable` entries need at the load factor, rounded up. -/
def slotsNeeded (factor : LoadFactor) (minUsable : ℤ) : ℤ :=
  (minUsable * factor.denominator.toInt + factor.numerator.toInt - 1).tdiv factor.numerator.toInt

/-- `slots` on unbounded integers: the total and usable slot counts. -/
def exactSlots (factor : LoadFactor) (minTotal minUsable : ℤ) : ℤ × ℤ :=
  let total := max minTotal (ceilPowerOfTwo (factor.slotsNeeded minUsable))
  (total, (total * factor.numerator.toInt).tdiv factor.denominator.toInt)

/-- The arithmetic of `slots` stays within a machine word: every product and sum it forms,
and the power of two it shifts to, is a word as computed. -/
def SlotsFit (factor : LoadFactor) (minTotal minUsable : Int64) : Prop :=
  InWord (minUsable.toInt * factor.denominator.toInt) ∧
  InWord (minUsable.toInt * factor.denominator.toInt + factor.numerator.toInt) ∧
  InWord (minUsable.toInt * factor.denominator.toInt + factor.numerator.toInt - 1) ∧
  ceilPowerOfTwo (factor.slotsNeeded minUsable.toInt) < 2 ^ 63 ∧
  InWord ((factor.exactSlots minTotal.toInt minUsable.toInt).1 * factor.numerator.toInt)

theorem toInt_of_inWord {value : ℤ} (fits : InWord value) : value.bmod (2 ^ 64) = value := by
  apply Int.bmod_eq_of_le <;> (unfold InWord at fits; omega)

theorem shiftLeft_toInt_table :
    ∀ bits : Fin 63, ((1 : Int64) <<< (bits.val).toInt64).toInt = 2 ^ bits.val := by
  decide

theorem bitLength_eq {value : UInt64} (positive : value ≠ 0) :
    bitLength value = Nat.log2 value.toNat + 1 := by
  simp [bitLength, positive]

theorem powerOfTwoAbove_toInt (value : Int64) (fits : ceilPowerOfTwo value.toInt < 2 ^ 63) :
    (powerOfTwoAbove value).toInt = ceilPowerOfTwo value.toInt := by
  unfold powerOfTwoAbove ceilPowerOfTwo
  by_cases small : value ≤ 1
  · have : value.toInt ≤ 1 := by rw [Int64.le_iff_toInt_le] at small; exact small
    simp [small, this]
  · have large : ¬value.toInt ≤ 1 := by rw [Int64.le_iff_toInt_le] at small; exact small
    unfold ceilPowerOfTwo at fits
    simp only [small, large, if_false] at fits ⊢
    have decremented : (value - 1).toInt = value.toInt - 1 := by
      have := value.toInt_lt
      have one : (1 : Int64).toInt = 1 := rfl
      rw [Int64.toInt_sub, one, Int.bmod_eq_of_le] <;> omega
    have lower : ((value - 1).toUInt64).toNat = (value.toInt - 1).toNat := by
      rw [Int64.toNat_toUInt64_of_le (by rw [Int64.le_iff_toInt_le, decremented]; simp; omega),
        ← Int64.toNat_toInt, decremented]
    have nonzero : (value - 1).toUInt64 ≠ 0 := by
      intro zero
      have := congrArg UInt64.toNat zero
      rw [lower, UInt64.toNat_zero] at this
      omega
    rw [bitLength_eq nonzero, lower]
    have bits : Nat.log2 (value.toInt - 1).toNat + 1 < 63 := by
      by_contra tooMany
      have : (2 : ℤ) ^ 63 ≤ 2 ^ (Nat.log2 (value.toInt - 1).toNat + 1) :=
        pow_le_pow_right₀ (by norm_num) (by omega)
      omega
    rw [if_neg (by omega)]
    exact shiftLeft_toInt_table ⟨_, bits⟩

theorem toInt_max (first second : Int64) :
    (max first second).toInt = max first.toInt second.toInt := by
  change (if first ≤ second then second else first).toInt = _
  by_cases ordered : first ≤ second
  · rw [if_pos ordered, max_eq_right (Int64.le_iff_toInt_le.mp ordered)]
  · rw [if_neg ordered, max_eq_left (le_of_lt (Int64.lt_iff_toInt_lt.mp (Int64.not_le.mp ordered)))]

/-- Without overflow, `slots` computes the integers of `exactSlots`. -/
theorem slots_toInt (factor : LoadFactor) (valid : factor.isValid) (minTotal minUsable : Int64)
    (fit : factor.SlotsFit minTotal minUsable) :
    (factor.slots minTotal minUsable).1.toInt = (factor.exactSlots minTotal.toInt minUsable.toInt).1 ∧
      (factor.slots minTotal minUsable).2.toInt =
        (factor.exactSlots minTotal.toInt minUsable.toInt).2 := by
  obtain ⟨scaledFits, sumFits, decrementedFits, powerFits, productFits⟩ := fit
  have numeratorPositive : 0 < factor.numerator.toInt := by
    unfold isValid at valid
    simp only [Bool.and_eq_true, decide_eq_true_eq] at valid
    exact Int64.lt_iff_toInt_lt.mp valid.1
  have one : (1 : Int64).toInt = 1 := rfl
  have need : ((minUsable * factor.denominator + factor.numerator - 1) / factor.numerator).toInt =
      factor.slotsNeeded minUsable.toInt := by
    rw [Int64.toInt_div_of_ne_right _ _ (fun equal => by
        rw [equal] at numeratorPositive; exact absurd numeratorPositive (by decide)),
      Int64.toInt_sub, Int64.toInt_add, Int64.toInt_mul, toInt_of_inWord scaledFits, one,
      toInt_of_inWord sumFits, toInt_of_inWord decrementedFits]
    rfl
  have total : (max minTotal (powerOfTwoAbove
      ((minUsable * factor.denominator + factor.numerator - 1) / factor.numerator))).toInt =
      (factor.exactSlots minTotal.toInt minUsable.toInt).1 := by
    rw [toInt_max, powerOfTwoAbove_toInt _ (by rw [need]; exact powerFits), need]
    rfl
  refine ⟨total, ?_⟩
  have denominatorPositive : 0 < factor.denominator.toInt := by
    unfold isValid at valid
    simp only [Bool.and_eq_true, decide_eq_true_eq] at valid
    have := Int64.lt_iff_toInt_lt.mp valid.2
    omega
  unfold slots
  simp only
  rw [Int64.toInt_div_of_ne_right _ _ (fun equal => by
      rw [equal] at denominatorPositive; exact absurd denominatorPositive (by decide)),
    Int64.toInt_mul, total, toInt_of_inWord productFits]
  rfl

theorem ceilPowerOfTwo_isPowerOfTwo (value : ℤ) : ∃ bits : ℕ, ceilPowerOfTwo value = 2 ^ bits := by
  unfold ceilPowerOfTwo
  split
  · exact ⟨0, rfl⟩
  · exact ⟨_, rfl⟩

theorem le_ceilPowerOfTwo (value : ℤ) : value ≤ ceilPowerOfTwo value := by
  unfold ceilPowerOfTwo
  split
  · assumption
  · have below := Nat.lt_pow_succ_log_self (b := 2) (by norm_num) (value - 1).toNat
    rw [← Nat.log2_eq_log_two] at below
    have cast : ((value - 1).toNat : ℤ) < ((2 ^ (Nat.log2 (value - 1).toNat + 1) : ℕ) : ℤ) :=
      Nat.cast_lt.mpr below
    push_cast at cast
    omega

/-- The total is a power of two. -/
theorem exactSlots_total_isPowerOfTwo (factor : LoadFactor) {minTotal : ℤ} (minUsable : ℤ)
    (minTotal_cases : minTotal = 0 ∨ ∃ bits : ℕ, minTotal = 2 ^ bits) :
    ∃ bits : ℕ, (factor.exactSlots minTotal minUsable).1 = 2 ^ bits := by
  obtain ⟨bits, power⟩ := ceilPowerOfTwo_isPowerOfTwo (factor.slotsNeeded minUsable)
  unfold exactSlots
  simp only
  rw [power]
  rcases minTotal_cases with rfl | ⟨other, rfl⟩
  · exact ⟨bits, max_eq_right (by positivity)⟩
  · rcases le_total (2 ^ other : ℤ) (2 ^ bits) with ordered | ordered
    · exact ⟨bits, max_eq_right ordered⟩
    · exact ⟨other, max_eq_left ordered⟩

theorem le_exactSlots_total (factor : LoadFactor) (minTotal minUsable : ℤ) :
    minTotal ≤ (factor.exactSlots minTotal minUsable).1 :=
  le_max_left _ _

theorem exactSlots_total_pos (factor : LoadFactor) (minTotal minUsable : ℤ) :
    0 < (factor.exactSlots minTotal minUsable).1 := by
  obtain ⟨bits, power⟩ := ceilPowerOfTwo_isPowerOfTwo (factor.slotsNeeded minUsable)
  have : (0 : ℤ) < ceilPowerOfTwo (factor.slotsNeeded minUsable) := by rw [power]; positivity
  exact lt_of_lt_of_le this (le_max_right _ _)

section Valid

variable (factor : LoadFactor) (valid : factor.isValid)
include valid

theorem numerator_pos : 0 < factor.numerator.toInt := by
  unfold isValid at valid
  simp only [Bool.and_eq_true, decide_eq_true_eq] at valid
  exact Int64.lt_iff_toInt_lt.mp valid.1

theorem numerator_lt_denominator : factor.numerator.toInt < factor.denominator.toInt := by
  unfold isValid at valid
  simp only [Bool.and_eq_true, decide_eq_true_eq] at valid
  exact Int64.lt_iff_toInt_lt.mp valid.2

/-- The rounded-up slot count covers `minUsable` entries at the load factor. -/
theorem mul_le_slotsNeeded_mul {minUsable : ℤ} (positive : 0 < minUsable) :
    minUsable * factor.denominator.toInt ≤ factor.slotsNeeded minUsable * factor.numerator.toInt := by
  have numerator := numerator_pos factor valid
  have denominator := numerator_lt_denominator factor valid
  unfold slotsNeeded
  rw [Int.tdiv_eq_ediv_of_nonneg (by nlinarith)]
  have := Int.lt_ediv_add_one_mul_self
    (minUsable * factor.denominator.toInt + factor.numerator.toInt - 1) numerator
  nlinarith

variable {minTotal minUsable : ℤ}

/-- The usable count holds `minUsable` entries. -/
theorem le_exactSlots_usable (positive : 0 < minUsable) :
    minUsable ≤ (factor.exactSlots minTotal minUsable).2 := by
  have numerator := numerator_pos factor valid
  have denominator := numerator_lt_denominator factor valid
  have covers := mul_le_slotsNeeded_mul factor valid positive
  have total : factor.slotsNeeded minUsable ≤ (factor.exactSlots minTotal minUsable).1 :=
    (le_ceilPowerOfTwo _).trans (le_max_right _ _)
  have totalPositive := exactSlots_total_pos factor minTotal minUsable
  unfold exactSlots at total totalPositive ⊢
  simp only at total totalPositive ⊢
  rw [Int.tdiv_eq_ediv_of_nonneg (by positivity), Int.le_ediv_iff_mul_le (by omega)]
  nlinarith

/-- Some slot always stays empty: the usable count is below the total. -/
theorem exactSlots_usable_lt_total :
    (factor.exactSlots minTotal minUsable).2 < (factor.exactSlots minTotal minUsable).1 := by
  have numerator := numerator_pos factor valid
  have denominator := numerator_lt_denominator factor valid
  have totalPositive := exactSlots_total_pos factor minTotal minUsable
  unfold exactSlots at totalPositive ⊢
  simp only at totalPositive ⊢
  rw [Int.tdiv_eq_ediv_of_nonneg (by positivity), Int.ediv_lt_iff_lt_mul (by omega)]
  nlinarith

/-- What a table built by `slots` looks like when its arithmetic stays within a word: a total
of `2 ^ bits` slots for some `bits < 63`, at least `minTotal`, and a usable count of at least
`minUsable` and below the total. -/
theorem slots_spec {minTotal minUsable : Int64}
    (minTotal_cases : minTotal.toInt = 0 ∨ ∃ bits : ℕ, minTotal.toInt = 2 ^ bits)
    (positive : 0 < minUsable.toInt) (fit : factor.SlotsFit minTotal minUsable) :
    (∃ bits < 63, (factor.slots minTotal minUsable).1.toInt = 2 ^ bits) ∧
      minTotal.toInt ≤ (factor.slots minTotal minUsable).1.toInt ∧
      minUsable.toInt ≤ (factor.slots minTotal minUsable).2.toInt ∧
      (factor.slots minTotal minUsable).2.toInt < (factor.slots minTotal minUsable).1.toInt := by
  obtain ⟨totalExact, usableExact⟩ := slots_toInt factor valid minTotal minUsable fit
  rw [totalExact, usableExact]
  obtain ⟨bits, power⟩ := exactSlots_total_isPowerOfTwo factor minUsable.toInt minTotal_cases
  refine ⟨⟨bits, ?_, power⟩, le_exactSlots_total factor _ _,
    le_exactSlots_usable factor valid positive, exactSlots_usable_lt_total factor valid⟩
  have productFits := fit.2.2.2.2.2
  have numerator := numerator_pos factor valid
  rw [power] at productFits
  by_contra tooMany
  have : (2 : ℤ) ^ 63 ≤ 2 ^ bits := pow_le_pow_right₀ (by norm_num) (by omega)
  nlinarith

end Valid

end LoadFactor

end HeapKit
