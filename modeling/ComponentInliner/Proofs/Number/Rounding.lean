import ComponentInliner.Number.Shortest
import Mathlib

/-!
# Rounding to doubles

A double is rounded from a mantissa in units of a power of two and from what has been cut off
below it. Which double comes out depends on nothing but the rational that was cut off, as long as
enough of its mantissa is there (`Rounds.unique`). Products and quotients of doubles, and numbers
that a double holds exactly, are rounded in this way.
-/

namespace ComponentInliner.Number

open Float.Model
open Float.Model.UnpackedFloat

/-- A mantissa with its residual bits, in units of a power of two, is a rational cut off. -/
def Truncates (value : Rat) (cut : ExtendedMantissa) (exponent : Int) : Prop :=
  ∃ rest : Rat, 0 ≤ rest ∧ rest < 1 ∧ (cut.stickyBit = true ↔ rest ≠ 0) ∧
    2 * value = ((2 * cut.mantissa + cut.roundBit.toNat : Nat) + rest) * 2 ^ exponent

namespace Truncates

variable {value : Rat} {cut other : ExtendedMantissa} {exponent : Int}

theorem unique (first : Truncates value cut exponent) (second : Truncates value other exponent) :
    cut = other := by
  rcases first with ⟨rest, nonneg, small, sticky, split⟩
  rcases second with ⟨rest', nonneg', small', sticky', split'⟩
  have power : (2 : Rat) ^ exponent ≠ 0 := by positivity
  have same := mul_right_cancel₀ power (split.symm.trans split')
  have halves : 2 * cut.mantissa + cut.roundBit.toNat =
      2 * other.mantissa + other.roundBit.toNat := by
    generalize 2 * cut.mantissa + cut.roundBit.toNat = half at same
    generalize 2 * other.mantissa + other.roundBit.toNat = half' at same
    have below : (half : Rat) < half' + 1 := by linarith
    have above : (half' : Rat) < half + 1 := by linarith
    norm_cast at below above
    omega
  have rests : rest = rest' := by
    rw [halves] at same
    linarith
  have sameSticky : cut.stickyBit = other.stickyBit := by
    rw [Bool.eq_iff_iff, sticky, sticky', rests]
  have bit := cut.roundBit.toNat_lt
  have bit' := other.roundBit.toNat_lt
  rcases cut with ⟨mantissa, round, sticks⟩
  rcases other with ⟨mantissa', round', sticks'⟩
  simp only at halves bit bit' sameSticky
  have mantissas : mantissa = mantissa' := by omega
  have rounds : round = round' := by
    rw [Bool.eq_iff_iff, ← Bool.toNat_eq_one, ← Bool.toNat_eq_one]
    omega
  rw [mantissas, rounds, sameSticky]

theorem shiftRightOne (truncates : Truncates value cut exponent) :
    Truncates value cut.shiftRightOne (exponent + 1) := by
  rcases truncates with ⟨rest, nonneg, small, sticky, split⟩
  rcases cut with ⟨mantissa, round, sticks⟩
  have parity : (mantissa % 2 != 0).toNat = mantissa % 2 := by
    rcases Nat.mod_two_eq_zero_or_one mantissa with even | odd
    · simp [even]
    · simp [odd]
  have whole : 2 * (mantissa / 2) + mantissa % 2 = mantissa := Nat.div_add_mod mantissa 2
  refine ⟨(round.toNat + rest) / 2, by positivity, ?_, ?_, ?_⟩
  · cases round <;> simp <;> linarith
  · cases round
    · simp [ExtendedMantissa.shiftRightOne, sticky]
    · simp [ExtendedMantissa.shiftRightOne]
      linarith
  · simp only [ExtendedMantissa.shiftRightOne, parity, whole] at split ⊢
    rw [split, zpow_add₀ (by norm_num)]
    push_cast
    ring

theorem shiftRight (truncates : Truncates value cut exponent) (count : Nat) :
    Truncates value (cut >>> count) (exponent + count) := by
  induction count with
  | zero => simpa [HShiftRight.hShiftRight, Nat.repeat] using truncates
  | succ count ih =>
      have next := ih.shiftRightOne
      rw [add_assoc] at next
      exact_mod_cast next

theorem bounds (truncates : Truncates value cut exponent) :
    cut.mantissa * (2 : Rat) ^ exponent ≤ value ∧
      value < (cut.mantissa + 1) * (2 : Rat) ^ exponent := by
  rcases truncates with ⟨rest, nonneg, small, -, split⟩
  have power : 0 < (2 : Rat) ^ exponent := by positivity
  have bit : (cut.roundBit.toNat : Rat) ≤ 1 := by exact_mod_cast cut.roundBit.toNat_le
  have bitNonneg : 0 ≤ (cut.roundBit.toNat : Rat) := Nat.cast_nonneg _
  push_cast at split
  constructor
  · nlinarith
  · nlinarith

end Truncates

theorem truncates_exact (mantissa : Nat) (exponent : Int) :
    Truncates (mantissa * 2 ^ exponent) (.ofMantissaAndAccuracy mantissa .exact) exponent := by
  refine ⟨0, le_rfl, one_pos, by simp [ExtendedMantissa.ofMantissaAndAccuracy], ?_⟩
  simp only [ExtendedMantissa.ofMantissaAndAccuracy, Bool.toNat_false]
  push_cast
  ring

theorem truncates_fraction (mantissa : Nat) {numerator denominator : Nat}
    (proper : numerator < denominator) (exponent : Int) :
    Truncates ((mantissa + numerator / denominator) * 2 ^ exponent)
      (.ofMantissaAndAccuracy mantissa (accuracyOfFraction numerator denominator)) exponent := by
  have positive : (0 : Rat) < denominator := by exact_mod_cast Nat.zero_lt_of_lt proper
  unfold accuracyOfFraction
  by_cases whole : numerator = 0
  · simpa [whole] using truncates_exact mantissa exponent
  rw [if_neg whole]
  rcases lt_trichotomy (2 * numerator) denominator with below | half | above
  · rw [Nat.compare_eq_lt.mpr below]
    refine ⟨2 * numerator / denominator, by positivity, ?_, ?_, ?_⟩
    · rw [div_lt_one positive]
      exact_mod_cast below
    · simp [ExtendedMantissa.ofMantissaAndAccuracy, whole, positive.ne']
    · simp only [ExtendedMantissa.ofMantissaAndAccuracy, Bool.toNat_false]
      push_cast
      ring
  · rw [Nat.compare_eq_eq.mpr half]
    refine ⟨0, le_rfl, one_pos, by simp [ExtendedMantissa.ofMantissaAndAccuracy], ?_⟩
    have doubled : 2 * (numerator : Rat) = denominator := by exact_mod_cast half
    simp only [ExtendedMantissa.ofMantissaAndAccuracy, Bool.toNat_true]
    push_cast
    field_simp
    linear_combination doubled
  · rw [Nat.compare_eq_gt.mpr above]
    have below : (numerator : Rat) < denominator := by exact_mod_cast proper
    have beyond : (denominator : Rat) < 2 * numerator := by exact_mod_cast above
    refine ⟨2 * numerator / denominator - 1, ?_, ?_, ?_, ?_⟩
    · rw [sub_nonneg, one_le_div positive]
      exact beyond.le
    · rw [sub_lt_iff_lt_add, div_lt_iff₀ positive]
      linarith
    · simp only [ExtendedMantissa.ofMantissaAndAccuracy, true_iff, sub_ne_zero]
      rw [ne_eq, div_eq_one_iff_eq positive.ne']
      exact beyond.ne'
    · simp only [ExtendedMantissa.ofMantissaAndAccuracy, Bool.toNat_true]
      push_cast
      ring

theorem target_eq (mantissa : Nat) (exponent : Int) :
    Format.binary64.targetExponent (totalExponent mantissa exponent) =
      max (mantissa.log2 + exponent - 52) (-1074) := by
  simp only [Format.targetExponent, totalExponent, Format.mantissaBits, Format.minExponent]
  norm_num
  omega

/-- A mantissa is long enough to be rounded: none of the bits that are kept is missing. -/
def Suffices (mantissa : Nat) (exponent : Int) : Prop :=
  exponent ≤ Format.binary64.targetExponent (totalExponent mantissa exponent)

theorem shiftToTargetExponent_eq {mantissa : Nat} {exponent : Int} (accuracy : Accuracy)
    (enough : Suffices mantissa exponent) :
    let target := Format.binary64.targetExponent (totalExponent mantissa exponent)
    shiftToTargetExponent .binary64 mantissa exponent accuracy =
      (ExtendedMantissa.ofMantissaAndAccuracy mantissa accuracy >>> (target - exponent).toNat,
        target) := by
  intro target
  have reach : ((target - exponent).toNat : Int) = target - exponent :=
    Int.toNat_of_nonneg (Int.sub_nonneg_of_le enough)
  simp only [shiftToTargetExponent, shiftToExponent]
  rw [reach, add_sub_cancel]

@[simp] theorem mantissa_ofMantissaAndAccuracy (mantissa : Nat) (accuracy : Accuracy) :
    (ExtendedMantissa.ofMantissaAndAccuracy mantissa accuracy).mantissa = mantissa := by
  rcases accuracy with _ | _ | _ | _ <;> rfl

/-- A positive rational is rounded to a double. -/
def Rounds (value : Rat) (result : UnpackedFloat) : Prop :=
  ∃ mantissa exponent accuracy,
    Truncates value (.ofMantissaAndAccuracy mantissa accuracy) exponent ∧
      Suffices mantissa exponent ∧
      result = roundWithAccuracy .binary64 .positive mantissa exponent accuracy

section Uniqueness

variable {value : Rat} {mantissa mantissa' : Nat} {exponent exponent' : Int}
  {accuracy accuracy' : Accuracy}

theorem log_le_of_truncates
    (first : Truncates value (.ofMantissaAndAccuracy mantissa accuracy) exponent)
    (second : Truncates value (.ofMantissaAndAccuracy mantissa' accuracy') exponent')
    (positive : mantissa ≠ 0) : mantissa.log2 + exponent ≤ mantissa'.log2 + exponent' := by
  have lower := first.bounds.1
  have upper := second.bounds.2
  simp only [mantissa_ofMantissaAndAccuracy] at lower upper
  have powerLe : (2 : Rat) ^ mantissa.log2 ≤ mantissa := by
    exact_mod_cast Nat.log2_self_le positive
  have ltPower : (mantissa' + 1 : Rat) ≤ 2 ^ (mantissa'.log2 + 1) := by
    exact_mod_cast Nat.lt_log2_self
  have chain : (2 : Rat) ^ (mantissa.log2 + exponent) < 2 ^ (mantissa'.log2 + 1 + exponent') := by
    calc (2 : Rat) ^ (mantissa.log2 + exponent)
        = 2 ^ mantissa.log2 * 2 ^ exponent := by rw [zpow_add₀ (by norm_num), zpow_natCast]
      _ ≤ mantissa * 2 ^ exponent := by gcongr
      _ < (mantissa' + 1) * 2 ^ exponent' := lower.trans_lt upper
      _ ≤ 2 ^ (mantissa'.log2 + 1) * 2 ^ exponent' := by gcongr
      _ = 2 ^ (mantissa'.log2 + 1 + exponent') := by
        rw [zpow_add₀ (by norm_num)]
        norm_cast
  have exponents := (zpow_lt_zpow_iff_right₀ (by norm_num : (1 : Rat) < 2)).mp chain
  omega

theorem target_le_of_truncates
    (first : Truncates value (.ofMantissaAndAccuracy mantissa accuracy) exponent)
    (second : Truncates value (.ofMantissaAndAccuracy mantissa' accuracy') exponent')
    (enough : Suffices mantissa exponent) :
    Format.binary64.targetExponent (totalExponent mantissa exponent) ≤
      Format.binary64.targetExponent (totalExponent mantissa' exponent') := by
  unfold Suffices at enough
  rw [target_eq] at enough ⊢
  rw [target_eq]
  by_cases zero : mantissa = 0
  · simp only [zero, Nat.log2_zero] at enough ⊢
    omega
  · have logs := log_le_of_truncates first second zero
    omega

theorem roundWithAccuracy_eq
    (first : Truncates value (.ofMantissaAndAccuracy mantissa accuracy) exponent)
    (second : Truncates value (.ofMantissaAndAccuracy mantissa' accuracy') exponent')
    (enough : Suffices mantissa exponent) (enough' : Suffices mantissa' exponent') (sign : Sign) :
    roundWithAccuracy .binary64 sign mantissa exponent accuracy =
      roundWithAccuracy .binary64 sign mantissa' exponent' accuracy' := by
  have targets := le_antisymm (target_le_of_truncates first second enough)
    (target_le_of_truncates second first enough')
  have reach := Int.toNat_of_nonneg (Int.sub_nonneg_of_le enough)
  have reach' := Int.toNat_of_nonneg (Int.sub_nonneg_of_le enough')
  have shifts : shiftToTargetExponent .binary64 mantissa exponent accuracy =
      shiftToTargetExponent .binary64 mantissa' exponent' accuracy' := by
    rw [shiftToTargetExponent_eq accuracy enough, shiftToTargetExponent_eq accuracy' enough']
    have shifted := first.shiftRight (Format.binary64.targetExponent
      (totalExponent mantissa exponent) - exponent).toNat
    have shifted' := second.shiftRight (Format.binary64.targetExponent
      (totalExponent mantissa' exponent') - exponent').toNat
    rw [reach, add_sub_cancel] at shifted
    rw [reach', add_sub_cancel, ← targets] at shifted'
    rw [shifted.unique shifted', targets]
  unfold roundWithAccuracy
  rw [shifts]

end Uniqueness

/-- What a rational is rounded to does not depend on how it was cut off. -/
theorem Rounds.unique {value : Rat} {result other : UnpackedFloat} (first : Rounds value result)
    (second : Rounds value other) : result = other := by
  rcases first with ⟨mantissa, exponent, accuracy, truncates, enough, rfl⟩
  rcases second with ⟨mantissa', exponent', accuracy', truncates', enough', rfl⟩
  exact roundWithAccuracy_eq truncates truncates' enough enough' _

section Operations

variable {first second : Nat} {exponent exponent' : Int}

theorem log2_mul_ge (positive : first ≠ 0) (positive' : second ≠ 0) :
    first.log2 + second.log2 ≤ (first * second).log2 := by
  rw [Nat.le_log2 (Nat.mul_ne_zero positive positive'), pow_add]
  exact Nat.mul_le_mul (Nat.log2_self_le positive) (Nat.log2_self_le positive')

theorem rounds_mul (positive : 0 < first) (positive' : 0 < second)
    (enough : Suffices (first * second) (exponent + exponent')) :
    Rounds (first * 2 ^ exponent * (second * 2 ^ exponent'))
      (UnpackedFloat.mul .binary64 (.finite .positive first exponent positive)
        (.finite .positive second exponent' positive')) := by
  refine ⟨first * second, exponent + exponent', .exact, ?_, enough, rfl⟩
  have exact := truncates_exact (first * second) (exponent + exponent')
  rw [zpow_add₀ (by norm_num)] at exact
  convert exact using 1
  push_cast
  ring

theorem enough_quotient (positive : first ≠ 0) (positive' : second ≠ 0) {target : Int}
    (low : target ≤ Format.binary64.targetExponent
      (totalExponent first exponent - totalExponent second exponent'))
    (reaches : target ≤ exponent - exponent') :
    Suffices (first <<< (exponent - exponent' - target).toNat / second) target := by
  unfold Suffices
  rw [target_eq]
  by_cases deep : target ≤ -1074
  · exact le_max_of_le_right deep
  apply le_max_of_le_left
  have shift := Int.toNat_of_nonneg (Int.sub_nonneg_of_le reaches)
  generalize (exponent - exponent' - target).toNat = count at shift
  have room : second.log2 + 53 ≤ first.log2 + count := by
    simp only [Format.targetExponent, totalExponent, Format.mantissaBits, Format.minExponent] at low
    norm_num at low
    omega
  have long : 2 ^ 52 ≤ first <<< count / second := by
    rw [Nat.le_div_iff_mul_le (Nat.pos_of_ne_zero positive'), Nat.shiftLeft_eq]
    calc 2 ^ 52 * second
        ≤ 2 ^ 52 * 2 ^ (second.log2 + 1) := Nat.mul_le_mul_left _ Nat.lt_log2_self.le
      _ = 2 ^ (second.log2 + 53) := by rw [← pow_add, Nat.add_comm]
      _ ≤ 2 ^ (first.log2 + count) := Nat.pow_le_pow_right (by norm_num) room
      _ = 2 ^ first.log2 * 2 ^ count := pow_add ..
      _ ≤ first * 2 ^ count := Nat.mul_le_mul_right _ (Nat.log2_self_le positive)
  have log : 52 ≤ (first <<< count / second).log2 := by
    rw [Nat.le_log2]
    · exact long
    · have : 0 < 2 ^ 52 := by norm_num
      omega
  omega

theorem rounds_div (positive : 0 < first) (positive' : 0 < second) :
    Rounds (first * 2 ^ exponent / (second * 2 ^ exponent'))
      (UnpackedFloat.div .binary64 (.finite .positive first exponent positive)
        (.finite .positive second exponent' positive')) := by
  let target := min (exponent - exponent') (Format.binary64.targetExponent
    (totalExponent first exponent - totalExponent second exponent'))
  let shifted := first <<< (exponent - exponent' - target).toNat
  refine ⟨shifted / second, target, accuracyOfFraction (shifted % second) second, ?_,
    enough_quotient positive.ne' positive'.ne' (min_le_right ..) (min_le_left ..), rfl⟩
  have cut := truncates_fraction (shifted / second) (Nat.mod_lt shifted positive') target
  convert cut using 1
  have nonzero : (second : Rat) ≠ 0 := by exact_mod_cast positive'.ne'
  have division :
      (second * (shifted / second : Nat) + (shifted % second : Nat) : Rat) = shifted := by
    exact_mod_cast Nat.div_add_mod shifted second
  have scaled : (shifted : Rat) * 2 ^ target = first * 2 ^ (exponent - exponent') := by
    have shift : ((exponent - exponent' - target).toNat : Int) = exponent - exponent' - target :=
      Int.toNat_of_nonneg (Int.sub_nonneg_of_le (min_le_left ..))
    simp only [shifted, Nat.shiftLeft_eq]
    push_cast
    rw [mul_assoc, ← zpow_natCast, shift, ← zpow_add₀ (by norm_num), sub_add_cancel]
  have quotient : ((shifted / second : Nat) + (shifted % second : Nat) / second : Rat) =
      shifted / second := by
    rw [← division]
    field_simp
  rw [quotient, div_mul_eq_mul_div, scaled, zpow_sub₀ (by norm_num)]
  field_simp

/-- A mantissa and an exponent that a finite double has. -/
structure IsCanonical (mantissa : Nat) (exponent : Int) : Prop where
  short : mantissa < 2 ^ 53
  lowest : -1074 ≤ exponent
  highest : exponent ≤ 971
  full : 2 ^ 52 ≤ mantissa ∨ exponent = -1074

theorem IsCanonical.target (canonical : IsCanonical first exponent) (positive : first ≠ 0) :
    Format.binary64.targetExponent (totalExponent first exponent) = exponent := by
  have lowest := canonical.lowest
  have short : first.log2 < 53 := (Nat.log2_lt positive).mpr canonical.short
  rw [target_eq]
  rcases canonical.full with normal | subnormal
  · have long : 52 ≤ first.log2 := (Nat.le_log2 positive).mpr normal
    omega
  · omega

/-- A rational that is a double is rounded to itself. -/
theorem rounds_exact (canonical : IsCanonical first exponent) (positive : 0 < first) :
    Rounds (first * 2 ^ exponent) (.finite .positive first exponent positive) := by
  have target := canonical.target positive.ne'
  have enough : Suffices first exponent := target.ge
  refine ⟨first, exponent, .exact, truncates_exact first exponent, enough, ?_⟩
  have stays : shiftToTargetExponent .binary64 first exponent .exact =
      (⟨first, false, false⟩, exponent) := by
    rw [shiftToTargetExponent_eq .exact enough, target, sub_self]
    rfl
  have rounded : ExtendedMantissa.roundedMantissa ⟨first, false, false⟩ = first := rfl
  simp only [roundWithAccuracy, stays, rounded, positive.ne', dite_false]

end Operations

end ComponentInliner.Number
