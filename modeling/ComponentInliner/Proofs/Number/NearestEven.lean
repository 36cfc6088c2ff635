import ComponentInliner.Proofs.Number.Nearest

/-!
# Rounding to nearest

The number for a rational is the double that is nearest to it, and of two equally near ones the
one with an even mantissa; beyond the finite doubles the next power of two counts as infinity
(`IsNearest`). At most one double is nearest (`IsNearest.unique`).

What a rational is rounded to is nearest to it: a cut-off mantissa lies between two neighbours on a
grid, every double that is not finer lies on that grid, and every finer one lies below. So decimals
and integers are read as the doubles nearest to them (`ofDecimal_isNearest`).
-/

namespace ComponentInliner.Number

open Float.Model
open Float.Model.UnpackedFloat

/-- The mantissa and the exponent of a double that is not negative. Infinity stands for the first
power of two that is too large for a double. -/
def HasSize (number : Float) (mantissa : Nat) (exponent : Int) : Prop :=
  parts? number = some ⟨false, mantissa, exponent⟩ ∨
    number = 1.0 / 0.0 ∧ mantissa = 2 ^ 53 ∧ exponent = 971

/-- No double is nearer to a rational, and one that is as near has an odd mantissa where this one
has an even one. -/
def IsNearest (value : Rat) (number : Float) : Prop :=
  ∃ mantissa exponent, HasSize number mantissa exponent ∧
    ∀ other mantissa' exponent', HasSize other mantissa' exponent' → other ≠ number →
      |value - mantissa * 2 ^ exponent| < |value - mantissa' * 2 ^ exponent'| ∨
        |value - mantissa * 2 ^ exponent| = |value - mantissa' * 2 ^ exponent'| ∧
          Even mantissa ∧ Odd mantissa'

theorem IsNearest.unique {value : Rat} {first second : Float} (nearest : IsNearest value first)
    (nearest' : IsNearest value second) : first = second := by
  rcases nearest with ⟨mantissa, exponent, size, least⟩
  rcases nearest' with ⟨mantissa', exponent', size', least'⟩
  by_contra differ
  rcases least second mantissa' exponent' size' (Ne.symm differ) with less | ⟨same, even, -⟩
  · rcases least' first mantissa exponent size differ with less' | ⟨same', -, -⟩
    · exact lt_asymm less less'
    · exact less.ne' same'
  · rcases least' first mantissa exponent size differ with less' | ⟨-, -, odd⟩
    · exact less'.ne' same
    · exact Nat.not_even_iff_odd.mpr odd even

section Sizes

variable {number : Float} {parts : Parts} {mantissa : Nat} {exponent : Int}

theorem isCanonical_of_parts (found : parts? number = some parts) :
    IsCanonical parts.significand parts.exponent := by
  have lessExponent := biasedExponent_lt number.toModel
  have lessFraction := fractionBits_lt number.toModel
  rw [parts?_eq] at found
  split at found
  · cases found
  split at found
  · cases found
    exact ⟨by dsimp only; omega, le_rfl, by norm_num, .inr rfl⟩
  · cases found
    exact ⟨by dsimp only; omega, by dsimp only; omega, by dsimp only; omega,
      .inl (by dsimp only; omega)⟩

theorem hasSize_of_finite {positive : 0 < mantissa}
    (unpacked : number.toModel.unpack = .finite .positive mantissa exponent positive) :
    HasSize number mantissa exponent :=
  .inl (@parts?_of_finite _ false _ _ _ unpacked)

/-- Every size of a double is a canonical one, or it is the first one beyond. -/
theorem HasSize.bounds (size : HasSize number mantissa exponent) :
    IsCanonical mantissa exponent ∨
      number = 1.0 / 0.0 ∧ mantissa = 2 ^ 53 ∧ exponent = 971 := by
  rcases size with found | infinite
  · exact .inl (isCanonical_of_parts found)
  · exact .inr infinite

end Sizes

section Grid

variable {value : Rat} {cut : ExtendedMantissa} {exponent : Int}

/-- On which side of the middle between two neighbours a number lies, and which one is taken. -/
def TakesNeighbour (kept rounded : Nat) (rest : Rat) : Prop :=
  rounded = kept ∧ rest < 1 / 2 ∨ rounded = kept + 1 ∧ 1 / 2 < rest ∨
    rounded = kept + kept % 2 ∧ rest = 1 / 2

theorem TakesNeighbour.nearest {kept rounded step : Nat} {rest : Rat} (nonneg : 0 ≤ rest)
    (small : rest < 1) (takes : TakesNeighbour kept rounded rest) (differs : step ≠ rounded) :
    |kept + rest - rounded| < |kept + rest - step| ∨
      |kept + rest - rounded| = |kept + rest - step| ∧ Even rounded ∧ Odd step := by
  have below {number : Nat} (reached : number ≤ kept) :
      |kept + rest - number| = kept - number + rest := by
    have : (number : Rat) ≤ kept := by exact_mod_cast reached
    rw [abs_of_nonneg (by linarith)]
    ring
  have above {number : Nat} (passed : kept < number) :
      |kept + rest - number| = number - kept - rest := by
    have : (kept : Rat) + 1 ≤ number := by exact_mod_cast passed
    rw [abs_of_nonpos (by linarith)]
    ring
  have lower {number : Nat} (less : number < kept) : (number : Rat) + 1 ≤ kept := by
    exact_mod_cast less
  have upper {number : Nat} (more : kept + 1 < number) : (kept : Rat) + 2 ≤ number := by
    exact_mod_cast more
  rcases takes with ⟨rfl, half⟩ | ⟨rfl, half⟩ | ⟨taken, rfl⟩
  · left
    rw [below le_rfl]
    rcases lt_or_gt_of_ne differs with less | more
    · rw [below less.le]
      linarith [lower less]
    · rw [above more]
      have : (rounded : Rat) + 1 ≤ step := by exact_mod_cast more
      linarith
  · left
    rw [above kept.lt_succ_self]
    push_cast
    rcases lt_or_gt_of_ne differs with less | more
    · rw [below (Nat.le_of_lt_succ less)]
      have : (step : Rat) ≤ kept := by exact_mod_cast Nat.le_of_lt_succ less
      linarith
    · rw [above (by omega)]
      linarith [upper more]
  · have isNear : |kept + 1 / 2 - (rounded : Rat)| = 1 / 2 := by
      rcases Nat.mod_two_eq_zero_or_one kept with even | odd
      · rw [taken, even, Nat.add_zero, below le_rfl]
        ring
      · rw [taken, odd, above kept.lt_succ_self]
        push_cast
        ring
    have isEven : Even rounded := by
      rw [Nat.even_iff]
      omega
    rw [isNear]
    rcases lt_trichotomy step kept with less | rfl | more
    · left
      rw [below less.le]
      linarith [lower less]
    · refine .inr ⟨?_, isEven, ?_⟩
      · rw [below le_rfl]
        ring
      · rw [Nat.odd_iff]
        omega
    · rcases Nat.eq_or_lt_of_le (Nat.succ_le_of_lt more) with rfl | beyond
      · refine .inr ⟨?_, isEven, ?_⟩
        · rw [above more]
          push_cast
          ring
        · rw [Nat.odd_iff]
          omega
      · left
        rw [above more]
        linarith [upper beyond]

theorem takesNeighbour_roundedMantissa (rest : Rat) (nonneg : 0 ≤ rest) (small : rest < 1)
    (sticky : cut.stickyBit = true ↔ rest ≠ 0) :
    TakesNeighbour cut.mantissa cut.roundedMantissa ((cut.roundBit.toNat + rest) / 2) := by
  rcases cut with ⟨mantissa, _ | _, _ | _⟩
  all_goals simp only [Bool.false_eq_true, false_iff, not_not, true_iff] at sticky
  · exact .inl ⟨rfl, by rw [sticky]; norm_num⟩
  · exact .inl ⟨rfl, by simp only [Bool.toNat_false]; push_cast; linarith⟩
  · exact .inr (.inr ⟨rfl, by rw [sticky]; norm_num⟩)
  · have positive : 0 < rest := lt_of_le_of_ne nonneg (Ne.symm sticky)
    exact .inr (.inl ⟨rfl, by simp only [Bool.toNat_true]; push_cast; linarith⟩)

/-- The rounded mantissa is nearest on the grid of what has been cut off. -/
theorem Truncates.nearest (truncates : Truncates value cut exponent) {step : Nat}
    (differs : step ≠ cut.roundedMantissa) :
    |value - cut.roundedMantissa * 2 ^ exponent| < |value - step * 2 ^ exponent| ∨
      |value - cut.roundedMantissa * 2 ^ exponent| = |value - step * 2 ^ exponent| ∧
        Even cut.roundedMantissa ∧ Odd step := by
  rcases truncates with ⟨rest, nonneg, small, sticky, split⟩
  have power : 0 < (2 : Rat) ^ exponent := by positivity
  have bit : (cut.roundBit.toNat : Rat) ≤ 1 := by exact_mod_cast cut.roundBit.toNat_le
  have bitNonneg : 0 ≤ (cut.roundBit.toNat : Rat) := Nat.cast_nonneg _
  have scaled (number : Nat) : |value - number * 2 ^ exponent| =
      |cut.mantissa + (cut.roundBit.toNat + rest) / 2 - number| * 2 ^ exponent := by
    rw [← abs_of_pos power, ← abs_mul, abs_of_pos power]
    congr 1
    push_cast at split
    linarith
  have takes := takesNeighbour_roundedMantissa rest nonneg small sticky
  rw [scaled, scaled, mul_lt_mul_iff_of_pos_right power, mul_left_inj' power.ne']
  exact takes.nearest (by positivity) (by linarith) differs

end Grid

section Injectivity

variable {first second : Float} {mantissa mantissa' : Nat} {exponent exponent' : Int}

theorem IsCanonical.value_lt (canonical : IsCanonical mantissa exponent) :
    mantissa * (2 : Rat) ^ exponent < 2 ^ (1024 : Int) := by
  have mantissas : (mantissa : Rat) < 2 ^ (53 : Int) := by exact_mod_cast canonical.short
  calc mantissa * (2 : Rat) ^ exponent < 2 ^ (53 : Int) * 2 ^ exponent := by gcongr
    _ ≤ 2 ^ (53 : Int) * 2 ^ (971 : Int) := mul_le_mul_of_nonneg_left
        (zpow_le_zpow_right₀ (by norm_num) canonical.highest) (by positivity)
    _ = 2 ^ (1024 : Int) := by rw [← zpow_add₀ (by norm_num)]; norm_num

theorem top_value : ((2 ^ 53 : Nat) : Rat) * 2 ^ (971 : Int) = 2 ^ (1024 : Int) := by
  rw [Nat.cast_pow, Nat.cast_ofNat, ← zpow_natCast, ← zpow_add₀ (by norm_num)]
  norm_num

theorem signOf_of_parts {parts : Parts} (found : parts? first = some parts) :
    signOf first.toModel = if parts.negative then .negative else .positive := by
  rw [parts?_eq] at found
  rw [signOf_of_bits]
  split at found
  · cases found
  split at found <;>
    · cases found
      rfl

theorem HasSize.eq_zero (size : HasSize first 0 exponent) : first = 0.0 := by
  rcases size with found | ⟨-, none, -⟩
  · apply ext_unpack
    rw [unpack_of_zero_parts found rfl, signOf_of_parts found]
    rfl
  · exact absurd none (by norm_num)

theorem HasSize.unpack (size : HasSize first mantissa exponent)
    (canonical : IsCanonical mantissa exponent) (positive : 0 < mantissa) :
    first.toModel.unpack = .finite .positive mantissa exponent positive := by
  rcases size with found | ⟨-, rfl, -⟩
  · exact unpack_of_parts found positive
  · exact absurd canonical.short (lt_irrefl _)

/-- Doubles of the same size are the same. -/
theorem HasSize.eq_of_value (size : HasSize first mantissa exponent)
    (size' : HasSize second mantissa' exponent')
    (same : mantissa * (2 : Rat) ^ exponent = mantissa' * 2 ^ exponent') : first = second := by
  have scaled (number : Nat) (power : Int) : (number : Rat) * 2 ^ power = 0 ↔ number = 0 := by
    rw [mul_eq_zero_iff_right (by positivity), Nat.cast_eq_zero]
  have isZero : mantissa = 0 ↔ mantissa' = 0 := by
    rw [← scaled mantissa exponent, ← scaled mantissa' exponent', same]
  rcases Nat.eq_zero_or_pos mantissa with zero | positive
  · obtain rfl := zero
    obtain rfl := isZero.mp rfl
    rw [size.eq_zero, size'.eq_zero]
  have positive' := Nat.pos_of_ne_zero fun zero' => positive.ne' (isZero.mpr zero')
  rcases size.bounds with canonical | ⟨infinite, rfl, rfl⟩
  · rcases size'.bounds with canonical' | ⟨-, rfl, rfl⟩
    · have rounds := rounds_exact canonical positive
      rw [same] at rounds
      apply ext_unpack
      rw [size.unpack canonical positive, size'.unpack canonical' positive']
      exact rounds.unique (rounds_exact canonical' positive')
    · rw [top_value] at same
      exact absurd same canonical.value_lt.ne
  · rcases size'.bounds with canonical' | ⟨infinite', -, -⟩
    · rw [top_value] at same
      exact absurd same.symm canonical'.value_lt.ne
    · rw [infinite, infinite']

end Injectivity

section Rounding

variable {value : Rat} {kept : Nat} {target : Int} {cut : ExtendedMantissa}

/-- Every size of a double that is not finer than a grid lies on it. -/
theorem exists_step (mantissa : Nat) {exponent : Int} (coarse : target ≤ exponent) :
    ∃ step : Nat, (mantissa : Rat) * 2 ^ exponent = step * 2 ^ target ∧
      (Odd step → Odd mantissa) := by
  refine ⟨mantissa * 2 ^ (exponent - target).toNat, ?_, fun odd => (Nat.odd_mul.mp odd).1⟩
  have reach := Int.toNat_of_nonneg (Int.sub_nonneg_of_le coarse)
  push_cast
  rw [mul_assoc, ← zpow_natCast, reach, ← zpow_add₀ (by norm_num), sub_add_cancel]

/-- Every size of a double that is finer than a grid lies below what is rounded on it. -/
theorem HasSize.lt_of_finer {number : Float} {mantissa : Nat} {exponent : Int}
    (size : HasSize number mantissa exponent) (finer : exponent < target) (high : target ≤ 971)
    (full : 2 ^ 52 ≤ kept) : (mantissa : Rat) * 2 ^ exponent < kept * 2 ^ target := by
  have short : mantissa < 2 ^ 53 := by
    rcases size.bounds with canonical | ⟨-, -, rfl⟩
    · exact canonical.short
    · omega
  have mantissas : (mantissa : Rat) < 2 ^ (53 : Int) := by exact_mod_cast short
  have keeps : (2 : Rat) ^ (52 : Int) ≤ kept := by exact_mod_cast full
  calc (mantissa : Rat) * 2 ^ exponent < 2 ^ (53 : Int) * 2 ^ exponent := by gcongr
    _ = 2 ^ (53 + exponent) := (zpow_add₀ (by norm_num) ..).symm
    _ ≤ 2 ^ (52 + target) := zpow_le_zpow_right₀ (by norm_num) (by omega)
    _ = 2 ^ (52 : Int) * 2 ^ target := zpow_add₀ (by norm_num) ..
    _ ≤ kept * 2 ^ target := by gcongr

/-- A double is nearest to a rational if it is nearest on a grid that the rational was cut off to,
and no bit of a mantissa is missing there. -/
theorem isNearest_of_truncates (truncates : Truncates value cut target) (high : target ≤ 971)
    (full : 2 ^ 52 ≤ cut.mantissa ∨ target = -1074) {number : Float} {mantissa : Nat}
    {exponent : Int} (size : HasSize number mantissa exponent)
    (same : mantissa * (2 : Rat) ^ exponent = cut.roundedMantissa * 2 ^ target)
    (even : Even cut.roundedMantissa → Even mantissa) : IsNearest value number := by
  refine ⟨mantissa, exponent, size, fun other mantissa' exponent' size' differs => ?_⟩
  rw [same]
  by_cases coarse : target ≤ exponent'
  · obtain ⟨step, onGrid, odd⟩ := exists_step mantissa' coarse
    have differs' : step ≠ cut.roundedMantissa := by
      rintro rfl
      exact differs (size'.eq_of_value size (onGrid.trans same.symm))
    rw [onGrid]
    exact (truncates.nearest differs').imp_right fun ⟨tie, isEven, isOdd⟩ =>
      ⟨tie, even isEven, odd isOdd⟩
  · left
    have lowest : -1074 ≤ exponent' := by
      rcases size'.bounds with canonical' | ⟨-, -, rfl⟩
      · exact canonical'.lowest
      · norm_num
    have less := size'.lt_of_finer (not_le.mp coarse) high (full.resolve_right (by omega))
    have lower := truncates.bounds.1
    have nearer : |value - cut.roundedMantissa * 2 ^ target| ≤
        |value - cut.mantissa * 2 ^ target| := by
      by_cases down : cut.mantissa = cut.roundedMantissa
      · rw [down]
      · rcases truncates.nearest down with nearer | ⟨tie, -⟩
        · exact nearer.le
        · exact tie.le
    rw [abs_of_nonneg (by linarith : 0 ≤ value - cut.mantissa * 2 ^ target)] at nearer
    rw [abs_of_nonneg (by linarith : 0 ≤ value - mantissa' * 2 ^ exponent')]
    linarith

theorem isNearest_infinity (huge : 2 ^ (1024 : Int) ≤ value) : IsNearest value (1.0 / 0.0) := by
  refine ⟨2 ^ 53, 971, .inr ⟨rfl, rfl, rfl⟩, fun other mantissa exponent size differs => ?_⟩
  have canonical := size.bounds.resolve_right fun infinite => differs infinite.1
  have less := canonical.value_lt
  left
  rw [top_value, abs_of_nonneg (by linarith), abs_of_nonneg (by linarith)]
  linarith

end Rounding

section Results

variable {value : Rat} {mantissa : Nat} {exponent target : Int} {accuracy : Accuracy}
  {cut : ExtendedMantissa}

/-- What a mantissa with enough bits is cut off to is short, and no bit is missing. -/
theorem Truncates.mantissa_bounds
    (truncates : Truncates value (.ofMantissaAndAccuracy mantissa accuracy) exponent)
    (enough : Suffices mantissa exponent) (cuts : Truncates value cut target)
    (isTarget : target = max (mantissa.log2 + exponent - 52) (-1074)) :
    cut.mantissa < 2 ^ 53 ∧ (2 ^ 52 ≤ cut.mantissa ∨ target = -1074) := by
  have power : 0 < (2 : Rat) ^ target := by positivity
  obtain ⟨lower, upper⟩ := truncates.bounds
  obtain ⟨lower', upper'⟩ := cuts.bounds
  rw [mantissa_ofMantissaAndAccuracy] at lower upper
  constructor
  · have less : (cut.mantissa : Rat) * 2 ^ target < 2 ^ (53 : Int) * 2 ^ target := by
      have ltPower : (mantissa + 1 : Rat) ≤ 2 ^ (mantissa.log2 + 1) := by
        exact_mod_cast Nat.lt_log2_self
      calc (cut.mantissa : Rat) * 2 ^ target < (mantissa + 1) * 2 ^ exponent :=
            lower'.trans_lt upper
        _ ≤ 2 ^ (mantissa.log2 + 1) * 2 ^ exponent := by gcongr
        _ = 2 ^ (mantissa.log2 + 1 + exponent : Int) := by
            rw [zpow_add₀ (by norm_num)]
            norm_cast
        _ ≤ 2 ^ (53 + target) := zpow_le_zpow_right₀ (by norm_num) (by omega)
        _ = 2 ^ (53 : Int) * 2 ^ target := zpow_add₀ (by norm_num) ..
    have short := lt_of_mul_lt_mul_right less power.le
    exact_mod_cast short
  · by_cases subnormal : target = -1074
    · exact .inr subnormal
    have nonzero : mantissa ≠ 0 := by
      rintro rfl
      unfold Suffices at enough
      rw [target_eq] at enough
      simp only [Nat.log2_zero] at enough isTarget
      omega
    left
    have more : (2 : Rat) ^ (52 : Int) * 2 ^ target < (cut.mantissa + 1) * 2 ^ target := by
      have powerLe : (2 : Rat) ^ mantissa.log2 ≤ mantissa := by
        exact_mod_cast Nat.log2_self_le nonzero
      calc (2 : Rat) ^ (52 : Int) * 2 ^ target = 2 ^ (mantissa.log2 + exponent : Int) := by
            rw [← zpow_add₀ (by norm_num)]
            congr 1
            omega
        _ = 2 ^ mantissa.log2 * 2 ^ exponent := by
            rw [zpow_add₀ (by norm_num), zpow_natCast]
        _ ≤ mantissa * 2 ^ exponent := by gcongr
        _ < (cut.mantissa + 1) * 2 ^ target := lower.trans_lt upper'
    have full := lt_of_mul_lt_mul_right more power.le
    norm_cast at full
    exact Nat.le_of_lt_succ full

/-- Rounding may make a mantissa too long by one bit, and then this bit moves into the exponent. -/
theorem shift_rounded {rounded : Nat} (short : rounded ≤ 2 ^ 53)
    (full : 2 ^ 52 ≤ rounded ∨ target = -1074) (lowest : -1074 ≤ target) :
    ∃ cut power, shiftToTargetExponent .binary64 rounded target .exact = (cut, power) ∧
      cut.mantissa * (2 : Rat) ^ power = rounded * 2 ^ target ∧ cut.mantissa < 2 ^ 53 ∧
      (2 ^ 52 ≤ cut.mantissa ∨ power = -1074) ∧ target ≤ power ∧
      (Even rounded → Even cut.mantissa) := by
  rcases Nat.eq_or_lt_of_le short with rfl | less
  · have isTarget :
        Format.binary64.targetExponent (totalExponent (2 ^ 53) target) = target + 1 := by
      rw [target_eq, Nat.log2_two_pow]
      omega
    have enough : Suffices (2 ^ 53) target := by
      unfold Suffices
      omega
    have shifted := shiftToTargetExponent_eq .exact enough
    simp only [isTarget, add_sub_cancel_left] at shifted
    refine ⟨_, _, shifted, ?_, ?_, ?_, ?_, ?_⟩
    · change ((2 ^ 52 : Nat) : Rat) * _ = _
      rw [zpow_add₀ (by norm_num)]
      push_cast
      ring
    · change 2 ^ 52 < 2 ^ 53
      norm_num
    · exact .inl le_rfl
    · omega
    · exact fun _ => ⟨2 ^ 51, rfl⟩
  · have isTarget : Format.binary64.targetExponent (totalExponent rounded target) = target := by
      rw [target_eq]
      rcases Nat.eq_zero_or_pos rounded with rfl | positive
      · rw [Nat.log2_zero]
        omega
      · have log : rounded.log2 < 53 := (Nat.log2_lt positive.ne').mpr less
        rcases full with normal | subnormal
        · have long : 52 ≤ rounded.log2 := (Nat.le_log2 positive.ne').mpr normal
          omega
        · omega
    have shifted := shiftToTargetExponent_eq .exact isTarget.ge
    simp only [isTarget, sub_self] at shifted
    exact ⟨_, _, shifted, rfl, less, full, le_rfl, id⟩

theorem roundedMantissa_bounds (cut : ExtendedMantissa) :
    cut.mantissa ≤ cut.roundedMantissa ∧ cut.roundedMantissa ≤ cut.mantissa + 1 := by
  rcases cut with ⟨mantissa, _ | _, _ | _⟩
  all_goals
    simp only [ExtendedMantissa.roundedMantissa, ExtendedMantissa.accuracy,
      Accuracy.roundToNearestEven]
    omega

theorem eq_infinity_of_pack {number : Float} {positive : 0 < mantissa} (beyond : 971 < exponent)
    (packed : number.toModel = .pack (.finite .positive mantissa exponent positive)) :
    number = 1.0 / 0.0 := by
  have large : 2 ^ Format.binary64.exponentBits ≤ (exponent + Format.binary64.exponentBias +
      Format.binary64.mantissaBitsWithoutImplicit).toNat + 1 := by
    simp only [Format.exponentBias]
    omega
  have isInfinite : Float.Model.pack (.finite .positive mantissa exponent positive) =
      Float.Model.pack (.infinity .positive) := by
    unfold Float.Model.pack UnpackedFloat.pack
    simp only [if_pos large]
  rw [isInfinite] at packed
  exact congrArg Float.ofModel packed

theorem hasSize_zero : HasSize 0.0 0 (-1074) :=
  .inl rfl

/-- The rational that a mantissa and an exponent stand for is packed to a double of this size, or
to infinity if the exponent is too large. -/
theorem hasSize_of_pack {number : Float} (short : mantissa < 2 ^ 53)
    (full : 2 ^ 52 ≤ mantissa ∨ exponent = -1074) (lowest : -1074 ≤ exponent)
    (packed : number.toModel = .pack (if nonzero : mantissa = 0 then .zero .positive
      else .finite .positive mantissa exponent (Nat.pos_of_ne_zero nonzero))) :
    if exponent ≤ 971 then HasSize number mantissa exponent else number = 1.0 / 0.0 := by
  by_cases zero : mantissa = 0
  · have isZero : number = 0.0 := by
      rw [dif_pos zero] at packed
      exact congrArg Float.ofModel packed
    obtain rfl : exponent = -1074 := full.resolve_left (by omega)
    rw [if_pos (by norm_num), isZero, zero]
    exact hasSize_zero
  rw [dif_neg zero] at packed
  split
  · next highest =>
      apply hasSize_of_finite
      rw [packed]
      exact unpack_pack ⟨short, lowest, highest, full⟩
  · next beyond => exact eq_infinity_of_pack (not_le.mp beyond) packed

theorem roundWithAccuracy_of_shifts {final : ExtendedMantissa} {power : Int}
    (cuts : shiftToTargetExponent .binary64 mantissa exponent accuracy = (cut, target))
    (shifts : shiftToTargetExponent .binary64 cut.roundedMantissa target .exact = (final, power)) :
    roundWithAccuracy .binary64 .positive mantissa exponent accuracy =
      if nonzero : final.mantissa = 0 then .zero .positive
      else .finite .positive final.mantissa power (Nat.pos_of_ne_zero nonzero) := by
  simp only [roundWithAccuracy, cuts, shifts]

/-- A full mantissa with a power that is too large for a double is beyond all doubles. -/
theorem top_le {mantissa : Nat} {power : Int} (full : 2 ^ 52 ≤ mantissa) (high : 971 < power) :
    (2 : Rat) ^ (1024 : Int) ≤ mantissa * 2 ^ power := by
  have long : (2 : Rat) ^ (52 : Int) ≤ mantissa := by exact_mod_cast full
  calc (2 : Rat) ^ (1024 : Int) ≤ 2 ^ (52 + power) :=
        zpow_le_zpow_right₀ (by norm_num) (by omega)
    _ = 2 ^ (52 : Int) * 2 ^ power := zpow_add₀ (by norm_num) ..
    _ ≤ mantissa * 2 ^ power := by gcongr

/-- What is rounded beyond all doubles is infinite. -/
theorem isNearest_of_overflow {cut : ExtendedMantissa} (cuts : Truncates value cut target)
    (full : 2 ^ 52 ≤ cut.mantissa ∨ target = -1074) (short : cut.roundedMantissa ≤ 2 ^ 53)
    (large : (2 : Rat) ^ (1024 : Int) ≤ cut.roundedMantissa * 2 ^ target) :
    IsNearest value (1.0 / 0.0) := by
  by_cases high : target ≤ 971
  · have rounded : (cut.roundedMantissa : Rat) ≤ (2 ^ 53 : Nat) := by exact_mod_cast short
    have most : (cut.roundedMantissa : Rat) * 2 ^ target ≤ 2 ^ (1024 : Int) := by
      calc (cut.roundedMantissa : Rat) * 2 ^ target ≤ (2 ^ 53 : Nat) * 2 ^ (971 : Int) :=
            mul_le_mul rounded (zpow_le_zpow_right₀ (by norm_num) high) (by positivity)
              (by positivity)
        _ = 2 ^ (1024 : Int) := top_value
    apply isNearest_of_truncates cuts high full (.inr ⟨rfl, rfl, rfl⟩)
    · rw [top_value]
      exact le_antisymm large most
    · exact fun _ => ⟨2 ^ 52, by norm_num⟩
  · apply isNearest_infinity
    calc (2 : Rat) ^ (1024 : Int) ≤ cut.mantissa * 2 ^ target :=
          top_le (full.resolve_right (by omega)) (not_le.mp high)
      _ ≤ value := cuts.bounds.1

/-- What a rational is rounded to is the double nearest to it. -/
theorem Rounds.isNearest {result : UnpackedFloat} (rounds : Rounds value result) {number : Float}
    (packed : number.toModel = .pack result) : IsNearest value number := by
  rcases rounds with ⟨mantissa, exponent, accuracy, truncates, enough, rfl⟩
  let target := Format.binary64.targetExponent (totalExponent mantissa exponent)
  have isTarget : target = max (mantissa.log2 + exponent - 52) (-1074) := target_eq ..
  have reach : ((target - exponent).toNat : Int) = target - exponent :=
    Int.toNat_of_nonneg (Int.sub_nonneg_of_le enough)
  let cut := ExtendedMantissa.ofMantissaAndAccuracy mantissa accuracy >>> (target - exponent).toNat
  have cuts : Truncates value cut target := by
    have shifted := truncates.shiftRight (target - exponent).toNat
    rw [reach, add_sub_cancel] at shifted
    exact shifted
  obtain ⟨short, full⟩ := truncates.mantissa_bounds enough cuts isTarget
  obtain ⟨up, down⟩ := roundedMantissa_bounds cut
  have short' : cut.roundedMantissa ≤ 2 ^ 53 := by omega
  have full' : 2 ^ 52 ≤ cut.roundedMantissa ∨ target = -1074 := by omega
  obtain ⟨final, power, shifted, same, less, normal, reaches, even⟩ :=
    shift_rounded short' full' (by omega)
  rw [roundWithAccuracy_of_shifts (shiftToTargetExponent_eq accuracy enough) shifted] at packed
  have sized := hasSize_of_pack less normal (by omega) packed
  by_cases highest : power ≤ 971
  · rw [if_pos highest] at sized
    exact isNearest_of_truncates cuts (by omega) full sized same even
  · rw [if_neg highest] at sized
    rw [sized]
    apply isNearest_of_overflow cuts full short'
    rw [← same]
    exact top_le (normal.resolve_right (by omega)) (not_le.mp highest)

end Results

section Reading

variable {value : Rat}

theorem isNearest_zero (nonneg : 0 ≤ value) (tiny : 2 * value < 2 ^ (-1074 : Int)) :
    IsNearest value 0.0 := by
  refine ⟨0, -1074, hasSize_zero, fun other mantissa exponent size differs => ?_⟩
  have one : (1 : Rat) ≤ mantissa := by
    have positive : 0 < mantissa := by
      apply Nat.pos_of_ne_zero
      rintro rfl
      exact differs size.eq_zero
    exact_mod_cast positive
  have lowest : -1074 ≤ exponent := by
    rcases size.bounds with canonical | ⟨-, -, rfl⟩
    · exact canonical.lowest
    · norm_num
  have least : (2 : Rat) ^ (-1074 : Int) ≤ mantissa * 2 ^ exponent :=
    calc (2 : Rat) ^ (-1074 : Int) ≤ 2 ^ exponent := zpow_le_zpow_right₀ (by norm_num) lowest
      _ ≤ mantissa * 2 ^ exponent := le_mul_of_one_le_left (by positivity) one
  left
  rw [Nat.cast_zero, zero_mul, sub_zero, abs_of_nonneg nonneg, abs_of_nonpos (by linarith)]
  linarith

theorem binary_le_decimal : (2 : Rat) ^ (1024 : Int) ≤ 10 ^ (400 : Int) := by
  calc (2 : Rat) ^ 1024 ≤ 2 ^ (93 * 12) := pow_le_pow_right₀ (by norm_num) (by norm_num)
    _ ≤ 10 ^ (28 * 12) := pow_two_le_pow_ten 12
    _ ≤ 10 ^ 400 := pow_le_pow_right₀ (by norm_num) (by norm_num)

theorem decimal_lt_binary : (10 : Rat) ^ (-400 : Int) < 2 ^ (-1075 : Int) := by
  have powers : (2 : Rat) ^ 1075 < 10 ^ 400 := by
    calc (2 : Rat) ^ 1075 ≤ 2 ^ (93 * 12) := pow_le_pow_right₀ (by norm_num) (by norm_num)
      _ ≤ 10 ^ (28 * 12) := pow_two_le_pow_ten 12
      _ < 10 ^ 400 := pow_lt_pow_right₀ (by norm_num) (by norm_num)
  rw [zpow_neg, zpow_neg]
  exact inv_strictAnti₀ (by positivity) powers

/-- A decimal number is read as the double nearest to it. -/
theorem ofDecimal_isNearest (digits : Nat) (exponent : Int) :
    IsNearest (digits * (10 : Rat) ^ exponent) (ofDecimal digits exponent) := by
  rcases Nat.eq_zero_or_pos digits with rfl | positive
  · rw [Nat.cast_zero, zero_mul]
    exact isNearest_zero le_rfl (by rw [mul_zero]; positivity)
  by_cases high : 400 < digitCount digits + exponent
  · rw [ofDecimal_of_high positive high]
    apply isNearest_infinity
    calc (2 : Rat) ^ (1024 : Int) ≤ 10 ^ (400 : Int) := binary_le_decimal
      _ ≤ 10 ^ (digitCount digits - 1 + exponent) :=
          zpow_le_zpow_right₀ (by norm_num) (by omega)
      _ ≤ digits * 10 ^ exponent := pow_le_of_digits positive exponent
  by_cases low : digitCount digits + exponent < -400
  · rw [ofDecimal_of_low positive low]
    apply isNearest_zero (by positivity)
    calc 2 * (digits * (10 : Rat) ^ exponent)
        ≤ 2 * 10 ^ (digitCount digits + exponent) := by
          gcongr
          exact (lt_pow_of_digits digits exponent).le
      _ ≤ 2 * 10 ^ (-400 : Int) := by
          gcongr
          norm_num
      _ < 2 * 2 ^ (-1075 : Int) := by
          gcongr
          exact decimal_lt_binary
      _ = 2 ^ (-1074 : Int) := (zpow_one_add₀ (by norm_num) _).symm
  obtain ⟨result, rounds, packed⟩ :=
    ofDecimal_rounds positive exponent (not_lt.mp high) (not_lt.mp low)
  exact rounds.isNearest packed

/-- A natural number is read as the double nearest to it. -/
theorem ofInteger_isNearest (number : Nat) : IsNearest number (ofInteger number) := by
  have nearest := ofDecimal_isNearest number 0
  rw [zpow_zero, mul_one] at nearest
  have nonneg : ¬(number : Int) < 0 := by omega
  unfold ofInteger
  rw [if_neg nonneg]
  exact nearest

end Reading

end ComponentInliner.Number
