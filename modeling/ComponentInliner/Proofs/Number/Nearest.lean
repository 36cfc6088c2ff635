import ComponentInliner.Proofs.Number.Binary64

/-!
# The doubles nearest to decimal numbers

A decimal number is read by one multiplication or one division, of two doubles where both are held
exactly and of long mantissas elsewhere. Either way the rational that it denotes is rounded once
(`ofDecimal_rounds`). So zeros at the end of the digits may move into the exponent
(`ofDecimal_mul_pow`), and a rational that is a double reads as that double (`ofDecimal_exact`).
-/

namespace ComponentInliner.Number

open Float.Model
open Float.Model.UnpackedFloat

theorem log2_shiftLeft {number : Nat} (positive : number ≠ 0) (count : Nat) :
    (number <<< count).log2 = number.log2 + count := by
  rw [Nat.shiftLeft_eq, Nat.log2_eq_iff (Nat.mul_ne_zero positive (by positivity))]
  constructor
  · rw [pow_add]
    exact Nat.mul_le_mul_right _ (Nat.log2_self_le positive)
  · rw [Nat.add_right_comm, pow_add]
    exact Nat.mul_lt_mul_of_pos_right Nat.lt_log2_self (by positivity)

theorem tenPow_of_nonneg {exponent : Int} (nonneg : 0 ≤ exponent) :
    (10 : Rat) ^ exponent = (10 ^ exponent.toNat : Nat) := by
  push_cast
  rw [← zpow_natCast, Int.toNat_of_nonneg nonneg]

theorem tenPow_of_nonpos {exponent : Int} (nonpos : exponent ≤ 0) :
    (10 : Rat) ^ exponent = ((10 ^ (-exponent).toNat : Nat) : Rat)⁻¹ := by
  push_cast
  rw [← zpow_natCast, ← zpow_neg, Int.toNat_of_nonneg (by omega), neg_neg]

/-- A positive double with a long mantissa holds a rational exactly. -/
def Holds (double : Float.Model) (value : Rat) : Prop :=
  ∃ mantissa exponent positive,
    double.unpack = .finite .positive mantissa exponent positive ∧ 2 ^ 52 ≤ mantissa ∧
      value = mantissa * 2 ^ exponent

section Naturals

variable {number : Nat}

theorem rounds_natCast (positive : 0 < number) :
    Rounds number (UnpackedFloat.ofNat .binary64 number) := by
  let target := Format.binary64.targetExponent (totalExponent number 0)
  let count := (0 - target).toNat
  have reach : target = number.log2 - 52 := by
    simp only [target]
    rw [target_eq]
    omega
  have isRound : UnpackedFloat.ofNat .binary64 number =
      roundWithAccuracy .binary64 .positive (number <<< count) (0 - count) .exact := by
    unfold UnpackedFloat.ofNat UnpackedFloat.ofInt UnpackedFloat.normalize
    rw [Int.compare_eq_gt.mpr (by omega)]
    rfl
  refine ⟨number <<< count, 0 - count, .exact, ?_, ?_, isRound⟩
  · convert truncates_exact (number <<< count) (0 - count) using 1
    rw [Nat.shiftLeft_eq, zero_sub, zpow_neg, zpow_natCast]
    push_cast
    field_simp
  · unfold Suffices
    rw [target_eq, log2_shiftLeft positive.ne']
    simp only [count]
    omega

/-- A natural number with few bits besides zeros at its end is a double. -/
theorem holds_ofNat {odd : Nat} (positive : 0 < odd) (short : odd < 2 ^ 53) (shift : Nat)
    (bounded : shift ≤ 900) : Holds (.ofNat (odd * 2 ^ shift)) (odd * 2 ^ shift : Nat) := by
  have log : odd.log2 < 53 := (Nat.log2_lt positive.ne').mpr short
  let mantissa := odd <<< (52 - odd.log2)
  let exponent : Int := odd.log2 - 52 + shift
  have full : mantissa.log2 = 52 := by
    simp only [mantissa]
    rw [log2_shiftLeft positive.ne']
    omega
  have nonzero : 0 < mantissa := Nat.shiftLeft_pos_iff.mpr positive
  obtain ⟨normal, less⟩ := (Nat.log2_eq_iff nonzero.ne').mp full
  have canonical : IsCanonical mantissa exponent :=
    ⟨less, by simp only [exponent]; omega, by simp only [exponent]; omega, .inl normal⟩
  have value : ((odd * 2 ^ shift : Nat) : Rat) = mantissa * 2 ^ exponent := by
    have split : (52 - odd.log2 : Nat) + exponent = shift := by
      simp only [exponent]
      omega
    simp only [mantissa, Nat.shiftLeft_eq]
    push_cast
    rw [mul_assoc, ← zpow_natCast, ← zpow_natCast, ← zpow_add₀ (by norm_num), split]
  have rounds : Rounds (odd * 2 ^ shift : Nat) (.finite .positive mantissa exponent nonzero) := by
    rw [value]
    exact rounds_exact canonical nonzero
  have same := (rounds_natCast (by positivity)).unique rounds
  refine ⟨mantissa, exponent, nonzero, ?_, normal, value⟩
  change (Float.Model.pack (UnpackedFloat.ofNat _ _)).unpack = _
  rw [same]
  exact unpack_pack canonical

theorem holds_toFloat (positive : 0 < number) (short : number < 2 ^ 53) :
    Holds number.toUInt64.toFloat.toModel number := by
  have holds := holds_ofNat positive short 0 (by norm_num)
  have size : number.toUInt64.toNat = number := by
    rw [Nat.toUInt64, UInt64.toNat_ofNat']
    exact Nat.mod_eq_of_lt (by omega)
  rw [pow_zero, mul_one] at holds
  change Holds (.ofNat number.toUInt64.toNat) _
  rw [size]
  exact holds

theorem powersOfTen_eq : ∀ index : Fin Float.exactlyRepresentablePowersOfTen.size,
    Float.exactlyRepresentablePowersOfTen[index].toModel = Float.Model.ofNat (10 ^ index.val) := by
  decide

theorem holds_powerOfTen {index : Nat}
    (small : index < Float.exactlyRepresentablePowersOfTen.size) :
    Holds Float.exactlyRepresentablePowersOfTen[index].toModel ((10 : Rat) ^ index) := by
  have bound : index < 23 := small
  -- The odd part of a power of ten is a power of five, and `5 ^ 22` still fits a mantissa.
  have positive : 0 < 5 ^ index := Nat.pow_pos (by norm_num)
  have short : 5 ^ index < 2 ^ 53 :=
    (Nat.pow_le_pow_right (by norm_num) (by omega : index ≤ 22)).trans_lt (by norm_num)
  have holds := holds_ofNat positive short index (by omega)
  have entry := powersOfTen_eq ⟨index, small⟩
  rw [← Nat.mul_pow] at holds
  rw [Fin.getElem_fin] at entry
  rw [entry]
  exact_mod_cast holds

end Naturals

section Products

variable {first second : Float.Model} {value value' : Rat}

theorem Holds.mul (holds : Holds first value) (holds' : Holds second value') :
    ∃ result, Rounds (value * value') result ∧ first * second = .pack result := by
  rcases holds with ⟨mantissa, exponent, positive, unpacked, long, rfl⟩
  rcases holds' with ⟨mantissa', exponent', positive', unpacked', long', rfl⟩
  have logs := log2_mul_ge positive.ne' positive'.ne'
  have log : 52 ≤ mantissa.log2 := (Nat.le_log2 positive.ne').mpr long
  have log' : 52 ≤ mantissa'.log2 := (Nat.le_log2 positive'.ne').mpr long'
  have enough : Suffices (mantissa * mantissa') (exponent + exponent') := by
    unfold Suffices
    rw [target_eq]
    omega
  refine ⟨_, rounds_mul positive positive' enough, ?_⟩
  rw [← unpacked, ← unpacked']
  rfl

theorem Holds.div (holds : Holds first value) (holds' : Holds second value') :
    ∃ result, Rounds (value / value') result ∧ first / second = .pack result := by
  rcases holds with ⟨mantissa, exponent, positive, unpacked, -, rfl⟩
  rcases holds' with ⟨mantissa', exponent', positive', unpacked', -, rfl⟩
  refine ⟨_, rounds_div positive positive', ?_⟩
  rw [← unpacked, ← unpacked']
  rfl

end Products

section Scientific

variable {digits : Nat} {exponent : Int}

theorem short_rounds (positive : 0 < digits) (short : digits < 2 ^ 53 ∧ exponent.natAbs ≤ 22) :
    ∃ result, Rounds (digits * (10 : Rat) ^ exponent) result ∧
      (Float.ofScientific digits (decide (exponent < 0)) exponent.natAbs).toModel =
        .pack result := by
  have holds := holds_toFloat positive short.1
  have power := holds_powerOfTen (Nat.lt_succ_of_le short.2)
  unfold Float.ofScientific
  rw [dif_pos short]
  by_cases below : exponent < 0
  · obtain ⟨result, rounds, packed⟩ := holds.div power
    refine ⟨result, ?_, ?_⟩
    · have size : (-exponent).toNat = exponent.natAbs := by omega
      rw [tenPow_of_nonpos below.le, size, ← div_eq_mul_inv, Nat.cast_pow]
      exact rounds
    · rw [if_pos (by simpa using below)]
      exact packed
  · obtain ⟨result, rounds, packed⟩ := holds.mul power
    refine ⟨result, ?_, ?_⟩
    · have size : exponent.toNat = exponent.natAbs := by omega
      rw [tenPow_of_nonneg (not_lt.mp below), size, Nat.cast_pow]
      exact rounds
    · rw [if_neg (by simpa using below)]
      exact packed

theorem long_rounds (positive : 0 < digits) (high : exponent ≤ 2048)
    (low : -(2048 + digits.log2) ≤ exponent) :
    ∃ result, Rounds (digits * (10 : Rat) ^ exponent) result ∧
      Float.Model.ofScientific digits exponent = .pack result := by
  have bound : (2 : Int) ^ Format.binary64.exponentBits = 2048 := by norm_num
  refine ⟨UnpackedFloat.ofScientific .binary64 digits exponent, ?_, rfl⟩
  unfold UnpackedFloat.ofScientific
  rw [dif_neg positive.ne', if_neg (by omega), if_neg (by omega)]
  by_cases above : 0 ≤ exponent
  · rw [if_pos above]
    have tens : 0 < 10 ^ exponent.toNat := Nat.pow_pos (by norm_num)
    have shifted : 0 < digits <<< 53 := Nat.shiftLeft_pos_iff.mpr positive
    have logs := log2_mul_ge shifted.ne' tens.ne'
    rw [log2_shiftLeft positive.ne'] at logs
    have enough : Suffices (digits <<< 53 * 10 ^ exponent.toNat) (-53 + 0) := by
      unfold Suffices
      rw [target_eq]
      omega
    have rounds := rounds_mul shifted tens enough
    have restored : (digits : Rat) = (digits <<< 53 : Nat) * 2 ^ (-53 : Int) := by
      rw [Nat.shiftLeft_eq]
      push_cast
      norm_num
      ring
    rw [← restored, ← tenPow_of_nonneg above, zpow_zero, mul_one] at rounds
    exact rounds
  · rw [if_neg above]
    have tens : 0 < 10 ^ (-exponent).toNat := Nat.pow_pos (by norm_num)
    have rounds := @rounds_div digits _ 0 0 positive tens
    rw [zpow_zero, mul_one, mul_one, div_eq_mul_inv, ← tenPow_of_nonpos (by omega)] at rounds
    exact rounds

theorem ofScientific_rounds (positive : 0 < digits) (exponent : Int) (high : exponent ≤ 2048)
    (low : -(2048 + digits.log2) ≤ exponent) :
    ∃ result, Rounds (digits * (10 : Rat) ^ exponent) result ∧
      (Float.ofScientific digits (decide (exponent < 0)) exponent.natAbs).toModel =
        .pack result := by
  by_cases short : digits < 2 ^ 53 ∧ exponent.natAbs ≤ 22
  · exact short_rounds positive short
  · have signed : (if decide (exponent < 0) = true then Int.negOfNat exponent.natAbs
        else Int.ofNat exponent.natAbs) = exponent := by
      simp only [decide_eq_true_eq, Int.negOfNat_eq, Int.ofNat_eq_natCast]
      omega
    obtain ⟨result, rounds, packed⟩ := long_rounds positive high low
    refine ⟨result, rounds, ?_⟩
    unfold Float.ofScientific
    rw [dif_neg short]
    simp only [signed]
    exact packed

end Scientific

section Digits

variable {number count : Nat}

theorem digitCount_le_iff (positive : 0 < count) :
    digitCount number ≤ count ↔ number < 10 ^ count := by
  unfold digitCount
  rw [Nat.repr_eq_ofList_toDigits, String.length_ofList]
  exact Nat.length_toDigits_le_iff (by norm_num) positive

theorem digitCount_pos (number : Nat) : 0 < digitCount number := by
  unfold digitCount
  rw [Nat.repr_eq_ofList_toDigits, String.length_ofList]
  exact Nat.length_toDigits_pos

theorem lt_pow_digitCount (number : Nat) : number < 10 ^ digitCount number :=
  (digitCount_le_iff (digitCount_pos number)).mp le_rfl

theorem pow_digitCount_le (positive : 0 < number) : 10 ^ (digitCount number - 1) ≤ number := by
  by_cases single : digitCount number = 1
  · rw [single]
    exact positive
  · have several := digitCount_pos number
    apply Nat.le_of_not_lt
    rw [← digitCount_le_iff (by omega)]
    omega

theorem digitCount_eq (low : 10 ^ count ≤ number) (high : number < 10 ^ (count + 1)) :
    digitCount number = count + 1 := by
  apply le_antisymm ((digitCount_le_iff count.succ_pos).mpr high)
  apply Nat.lt_of_not_le
  intro less
  rcases Nat.eq_zero_or_pos count with rfl | positive
  · exact absurd (digitCount_pos number) (by omega)
  · exact absurd ((digitCount_le_iff positive).mp less) (by omega)

theorem digitCount_mul_pow (positive : 0 < number) (count : Nat) :
    digitCount (number * 10 ^ count) = digitCount number + count := by
  have several := digitCount_pos number
  have split : digitCount number + count = (digitCount number - 1 + count) + 1 := by omega
  rw [split]
  apply digitCount_eq
  · rw [pow_add]
    exact Nat.mul_le_mul_right _ (pow_digitCount_le positive)
  · rw [← split, pow_add]
    exact Nat.mul_lt_mul_of_pos_right (lt_pow_digitCount number) (by positivity)

end Digits

section Decimals

variable {digits : Nat} {exponent : Int}

theorem ofDecimal_of_high (positive : 0 < digits) (high : 400 < digitCount digits + exponent) :
    ofDecimal digits exponent = 1.0 / 0.0 := by
  unfold ofDecimal
  rw [if_neg positive.ne']
  exact if_pos high

theorem ofDecimal_of_low (positive : 0 < digits) (low : digitCount digits + exponent < -400) :
    ofDecimal digits exponent = 0.0 := by
  have bounded : ¬ (digitCount digits + exponent > 400) := by omega
  unfold ofDecimal
  rw [if_neg positive.ne']
  exact (if_neg bounded).trans (if_pos low)

theorem ofDecimal_rounds (positive : 0 < digits) (exponent : Int)
    (high : digitCount digits + exponent ≤ 400) (low : -400 ≤ digitCount digits + exponent) :
    ∃ result, Rounds (digits * (10 : Rat) ^ exponent) result ∧
      (ofDecimal digits exponent).toModel = .pack result := by
  have log : digitCount digits - 1 ≤ digits.log2 := by
    rw [Nat.le_log2 positive.ne']
    exact (Nat.pow_le_pow_left (by norm_num) _).trans (pow_digitCount_le positive)
  have several := digitCount_pos digits
  obtain ⟨result, rounds, packed⟩ :=
    ofScientific_rounds positive exponent (by omega) (by omega)
  have within : ofDecimal digits exponent =
      Float.ofScientific digits (decide (exponent < 0)) exponent.natAbs := by
    unfold ofDecimal
    rw [if_neg positive.ne']
    exact (if_neg (not_lt_of_ge high)).trans (if_neg (not_lt_of_ge low))
  exact ⟨result, rounds, within ▸ packed⟩

theorem ofDecimal_mul_pow (digits zeros : Nat) (exponent : Int) :
    ofDecimal (digits * 10 ^ zeros) exponent = ofDecimal digits (exponent + zeros) := by
  rcases Nat.eq_zero_or_pos digits with rfl | positive
  · rw [Nat.zero_mul]
    rfl
  have scaled : 0 < digits * 10 ^ zeros := by positivity
  have count := digitCount_mul_pow positive zeros
  -- Where powers of ten are cut short, only the sum of digits and exponent matters.
  by_cases high : 400 < digitCount digits + (exponent + zeros)
  · rw [ofDecimal_of_high positive high, ofDecimal_of_high scaled (by omega)]
  by_cases low : digitCount digits + (exponent + zeros) < -400
  · rw [ofDecimal_of_low positive low, ofDecimal_of_low scaled (by omega)]
  obtain ⟨result, rounds, packed⟩ :=
    ofDecimal_rounds scaled exponent (by omega) (by omega)
  obtain ⟨result', rounds', packed'⟩ :=
    ofDecimal_rounds positive (exponent + zeros) (by omega) (by omega)
  have same : ((digits * 10 ^ zeros : Nat) : Rat) * 10 ^ exponent =
      digits * 10 ^ (exponent + zeros) := by
    push_cast
    rw [zpow_add₀ (by norm_num), zpow_natCast]
    ring
  rw [same] at rounds
  have models : (ofDecimal (digits * 10 ^ zeros) exponent).toModel =
      (ofDecimal digits (exponent + zeros)).toModel := by
    rw [packed, packed', rounds.unique rounds']
  exact congrArg Float.ofModel models

theorem lt_pow_of_digits (digits : Nat) (exponent : Int) :
    digits * (10 : Rat) ^ exponent < 10 ^ (digitCount digits + exponent) := by
  rw [zpow_add₀ (by norm_num), zpow_natCast]
  gcongr
  exact_mod_cast lt_pow_digitCount digits

theorem pow_le_of_digits (positive : 0 < digits) (exponent : Int) :
    (10 : Rat) ^ (digitCount digits - 1 + exponent) ≤ digits * 10 ^ exponent := by
  have several := digitCount_pos digits
  have natural : (digitCount digits - 1 : Int) = (digitCount digits - 1 : Nat) := by omega
  rw [natural, zpow_add₀ (by norm_num), zpow_natCast]
  gcongr
  exact_mod_cast pow_digitCount_le positive

/-- Ninety-three binary digits say no more than twenty-eight decimal ones. -/
theorem pow_two_le_pow_ten (count : Nat) : (2 : Rat) ^ (93 * count) ≤ 10 ^ (28 * count) := by
  rw [pow_mul, pow_mul]
  exact pow_le_pow_left₀ (by positivity) (by norm_num) count

theorem IsCanonical.least {mantissa : Nat} {power : Int} (canonical : IsCanonical mantissa power)
    (positive : 0 < mantissa) : (10 : Rat) ^ (-324 : Int) < mantissa * 2 ^ power := by
  have tiny : (10 : Rat) ^ (-324 : Int) < 2 ^ (-1074 : Int) := by
    have powers : (2 : Rat) ^ 1074 < 10 ^ 324 := by
      calc (2 : Rat) ^ 1074 = 2 ^ (93 * 11) * 2 ^ 51 := by rw [← pow_add]
        _ ≤ 10 ^ (28 * 11) * 2 ^ 51 :=
            mul_le_mul_of_nonneg_right (pow_two_le_pow_ten 11) (by positivity)
        _ < 10 ^ (28 * 11) * 10 ^ 16 := mul_lt_mul_of_pos_left (by norm_num) (by positivity)
        _ = 10 ^ 324 := by rw [← pow_add]
    rw [zpow_neg, zpow_neg]
    exact inv_strictAnti₀ (by positivity) powers
  have one : (1 : Rat) ≤ mantissa := by exact_mod_cast positive
  calc (10 : Rat) ^ (-324 : Int) < 2 ^ (-1074 : Int) := tiny
    _ ≤ 2 ^ power := zpow_le_zpow_right₀ (by norm_num) canonical.lowest
    _ ≤ mantissa * 2 ^ power := le_mul_of_one_le_left (by positivity) one

theorem IsCanonical.greatest {mantissa : Nat} {power : Int}
    (canonical : IsCanonical mantissa power) :
    (mantissa : Rat) * 2 ^ power < 10 ^ (309 : Int) := by
  have short : (mantissa : Rat) < 2 ^ (53 : Int) := by exact_mod_cast canonical.short
  have huge : (2 : Rat) ^ (53 + 971 : Int) < 10 ^ (309 : Int) := by
    calc (2 : Rat) ^ 1024 = 2 ^ (93 * 11) * 2 := by rw [← pow_succ]
      _ ≤ 10 ^ (28 * 11) * 2 :=
          mul_le_mul_of_nonneg_right (pow_two_le_pow_ten 11) (by norm_num)
      _ < 10 ^ (28 * 11) * 10 := mul_lt_mul_of_pos_left (by norm_num) (by positivity)
      _ = 10 ^ 309 := by rw [← pow_succ]
  calc (mantissa : Rat) * 2 ^ power < 2 ^ (53 : Int) * 2 ^ power := by gcongr
    _ ≤ 2 ^ (53 : Int) * 2 ^ (971 : Int) := mul_le_mul_of_nonneg_left
        (zpow_le_zpow_right₀ (by norm_num) canonical.highest) (by positivity)
    _ = 2 ^ (53 + 971 : Int) := (zpow_add₀ (by norm_num) ..).symm
    _ < 10 ^ (309 : Int) := huge

/-- A decimal number that denotes exactly what a double holds is read as the double. -/
theorem ofDecimal_exact {double : Float} {mantissa : Nat} {power : Int} {nonzero : 0 < mantissa}
    (unpacked : double.toModel.unpack = .finite .positive mantissa power nonzero)
    (exact : digits * (10 : Rat) ^ exponent = mantissa * 2 ^ power) :
    ofDecimal digits exponent = double := by
  have canonical := isCanonical_of_unpack unpacked
  have least := canonical.least nonzero
  have greatest := canonical.greatest
  rw [← exact] at least greatest
  have positive : 0 < digits := by
    rcases Nat.eq_zero_or_pos digits with rfl | positive
    · have tiny : 0 < (10 : Rat) ^ (-324 : Int) := by positivity
      rw [Nat.cast_zero, zero_mul] at least
      exact absurd least tiny.le.not_gt
    · exact positive
  have low := (zpow_lt_zpow_iff_right₀ (by norm_num)).mp
    (least.trans (lt_pow_of_digits digits exponent))
  have high := (zpow_lt_zpow_iff_right₀ (by norm_num)).mp
    ((pow_le_of_digits positive exponent).trans_lt greatest)
  obtain ⟨result, rounds, packed⟩ :=
    ofDecimal_rounds positive exponent (by omega) (by omega)
  rw [exact] at rounds
  apply ext_unpack
  rw [packed, rounds.unique (rounds_exact canonical nonzero), unpacked]
  exact unpack_pack canonical

end Decimals

end ComponentInliner.Number
