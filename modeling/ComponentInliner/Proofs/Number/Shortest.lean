import ComponentInliner.Proofs.Number.Nearest

/-!
# Shortest texts read back

The search for the shortest digits of a double tests finer and finer decimal grids. It ends with
digits that read back as the double, because the last grid that it comes to holds every double
exactly (`ofDecimal_shortest`). Zeros at the end of the digits may be dropped, since they move into
the exponent (`shortestDigits_spec`).
-/

namespace ComponentInliner.Number

open Float.Model
open Float.Model.UnpackedFloat

section Grids

variable {numerator denominator : Nat}

theorem reaches_iff (numerator denominator : Nat) (guess : Int) :
    (if guess ≥ 0 then numerator ≥ denominator * Nat.pow 10 guess.toNat
      else numerator * Nat.pow 10 (-guess).toNat ≥ denominator) ↔
      (10 : Rat) ^ guess * denominator ≤ numerator := by
  by_cases nonneg : guess ≥ 0
  · rw [if_pos nonneg, tenPow_of_nonneg nonneg, mul_comm]
    exact_mod_cast Iff.rfl
  · rw [if_neg nonneg, tenPow_of_nonpos (by omega), inv_mul_le_iff₀ (by positivity), mul_comm]
    exact_mod_cast Iff.rfl

theorem pow_decimalPoint_le (positive : 0 < numerator) (positive' : 0 < denominator) :
    (10 : Rat) ^ (decimalPoint numerator denominator - 1) ≤ numerator / denominator := by
  have divides : (0 : Rat) < denominator := by exact_mod_cast positive'
  rw [le_div_iff₀ divides]
  simp only [decimalPoint, reaches_iff]
  split
  · next reaches =>
      rw [add_sub_cancel_right]
      exact reaches
  · have low := pow_digitCount_le positive
    have high := lt_pow_digitCount denominator
    have several := digitCount_pos numerator
    have split : (digitCount numerator - digitCount denominator - 1 : Int) +
        digitCount denominator = (digitCount numerator - 1 : Nat) := by omega
    calc (10 : Rat) ^ (digitCount numerator - digitCount denominator - 1 : Int) * denominator
        ≤ 10 ^ (digitCount numerator - digitCount denominator - 1 : Int) *
          10 ^ (digitCount denominator : Int) := by
          gcongr
          exact_mod_cast high.le
      _ = 10 ^ (digitCount numerator - 1) := by
          rw [← zpow_add₀ (by norm_num), split, zpow_natCast]
      _ ≤ numerator := by exact_mod_cast low

/-- On a fine grid nothing of a binary fraction is lost. -/
theorem gridNeighbours_exact (numerator : Nat) {shift : Nat} {exponent : Int}
    (fine : exponent ≤ -shift) :
    (gridNeighbours numerator (2 ^ shift) exponent).1 * (10 : Rat) ^ exponent =
      numerator / 2 ^ shift := by
  by_cases nonneg : exponent ≥ 0
  · obtain rfl : exponent = 0 := by omega
    obtain rfl : shift = 0 := by omega
    simp [gridNeighbours, Nat.mod_one]
  · have reach : shift ≤ (-exponent).toNat := by omega
    have power : 2 ^ shift ∣ 10 ^ (-exponent).toNat :=
      (Nat.pow_dvd_pow 2 reach).trans (pow_dvd_pow_of_dvd (by norm_num) _)
    have divides : 2 ^ shift ∣ numerator * 10 ^ (-exponent).toNat :=
      power.mul_left numerator
    have whole : 2 * (numerator * 10 ^ (-exponent).toNat % 2 ^ shift) < 2 ^ shift := by
      rw [Nat.mod_eq_zero_of_dvd divides]
      positivity
    simp only [gridNeighbours, if_neg nonneg, Nat.pow_eq]
    rw [if_pos (.inl whole), tenPow_of_nonpos (by omega), Nat.cast_div divides (by positivity)]
    push_cast
    field_simp

end Grids

section Search

variable {double : Float} {mantissa : Nat} {exponent : Int} {positive : 0 < mantissa}

/-- The search ends with digits that read back as the double if the last grid is fine enough. -/
theorem ofDecimal_searchShortest
    (unpacked : double.toModel.unpack = .finite .positive mantissa exponent positive)
    {numerator shift : Nat} (value : (numerator / 2 ^ shift : Rat) = mantissa * 2 ^ exponent)
    {point : Int} (attempts count : Nat) (fine : point - (count + attempts : Nat) ≤ -shift) :
    let scaled := searchShortest double numerator (2 ^ shift) point attempts count
    ofDecimal scaled.digits scaled.exponent = double := by
  -- Each attempt moves from `attempts` to `count`, so the last grid stays the same.
  induction attempts generalizing count with
  | zero =>
      exact ofDecimal_exact unpacked ((gridNeighbours_exact numerator fine).trans value)
  | succ attempts ih =>
      simp only [searchShortest]
      split
      · next reads => exact eq_of_beq_finite unpacked reads
      split
      · next reads => exact eq_of_beq_finite unpacked reads
      apply ih
      omega

theorem binary_le_quinary : (2 : Rat) ^ (-748 : Int) ≤ 5 ^ (-273 : Int) := by
  have powers : (5 : Rat) ^ 273 ≤ 2 ^ 748 := by
    calc (5 : Rat) ^ 273 = (5 ^ 3) ^ 91 := by rw [← pow_mul]
      _ ≤ (2 ^ 7) ^ 91 := pow_le_pow_left₀ (by norm_num) (by norm_num) 91
      _ = 2 ^ 637 := by rw [← pow_mul]
      _ ≤ 2 ^ 748 := pow_le_pow_right₀ (by norm_num) (by norm_num)
  rw [zpow_neg, zpow_neg]
  exact inv_anti₀ (by positivity) powers

theorem fraction_lt_tenPow (canonical : IsCanonical mantissa exponent) :
    mantissa * (2 : Rat) ^ exponent < 10 ^ (801 + exponent) := by
  have short : (mantissa : Rat) < 2 ^ (53 : Int) := by exact_mod_cast canonical.short
  have small : (2 : Rat) ^ (-748 : Int) ≤ 5 ^ (801 + exponent) := by
    have lowest := canonical.lowest
    calc (2 : Rat) ^ (-748 : Int) ≤ 5 ^ (-273 : Int) := binary_le_quinary
      _ ≤ 5 ^ (801 + exponent) := zpow_le_zpow_right₀ (by norm_num) (by omega)
  calc mantissa * (2 : Rat) ^ exponent < 2 ^ (53 : Int) * 2 ^ exponent := by gcongr
    _ = 2 ^ (801 + exponent) * 2 ^ (-748 : Int) := by
        rw [← zpow_add₀ (by norm_num), ← zpow_add₀ (by norm_num)]
        congr 1
        omega
    _ ≤ 2 ^ (801 + exponent) * 5 ^ (801 + exponent) := by gcongr
    _ = 10 ^ (801 + exponent) := by
        rw [← mul_zpow]
        norm_num

/-- The grid with 801 digits is fine enough for every double. -/
theorem decimalPoint_le (canonical : IsCanonical mantissa exponent) (positive : 0 < mantissa)
    {numerator shift : Nat} (value : (numerator / 2 ^ shift : Rat) = mantissa * 2 ^ exponent)
    (least : shift = 0 ∨ exponent = -shift) :
    decimalPoint numerator (2 ^ shift) ≤ 801 - shift := by
  have nonzero : 0 < numerator := by
    apply Nat.pos_of_ne_zero
    rintro rfl
    have zero : (mantissa : Rat) * 2 ^ exponent = 0 := by rw [← value, Nat.cast_zero, zero_div]
    have above : 0 < (mantissa : Rat) * 2 ^ exponent := by positivity
    exact above.ne' zero
  have divides : 0 < 2 ^ shift := by positivity
  have reaches := pow_decimalPoint_le nonzero divides
  rw [Nat.cast_pow, Nat.cast_ofNat, value] at reaches
  apply Int.le_of_sub_one_lt
  rw [← zpow_lt_zpow_iff_right₀ (by norm_num : (1 : Rat) < 10)]
  apply reaches.trans_lt
  rcases least with rfl | rfl
  · apply canonical.greatest.trans
    rw [Nat.cast_zero, sub_zero]
    exact zpow_lt_zpow_right₀ (by norm_num) (by norm_num)
  · rw [sub_eq_add_neg]
    exact fraction_lt_tenPow canonical

theorem ofDecimal_shortest {parts : Parts} {positive : 0 < parts.significand}
    (unpacked : double.toModel.unpack =
      .finite .positive parts.significand parts.exponent positive) :
    ofDecimal (shortest double parts).digits (shortest double parts).exponent = double := by
  have canonical := isCanonical_of_unpack unpacked
  rcases parts with ⟨negative, significand, exponent⟩
  rcases exponent with count | count
  · have value : ((significand * 2 ^ count : Nat) / 2 ^ 0 : Rat) =
        significand * 2 ^ (Int.ofNat count) := by
      push_cast
      simp
    have point := decimalPoint_le canonical positive value (.inl rfl)
    have fine : decimalPoint (significand * 2 ^ count) (2 ^ 0) - (1 + 800 : Nat) ≤ -(0 : Nat) := by
      omega
    have reads := ofDecimal_searchShortest unpacked value 800 1 fine
    rw [pow_zero] at reads
    exact reads
  · have value : ((significand : Nat) / 2 ^ (count + 1) : Rat) =
        significand * 2 ^ (Int.negSucc count) := by
      rw [zpow_negSucc, div_eq_mul_inv]
    have point := decimalPoint_le canonical positive value (.inr rfl)
    have fine : decimalPoint significand (2 ^ (count + 1)) - (1 + 800 : Nat) ≤
        -(count + 1 : Nat) := by
      omega
    simp only [shortest, Nat.pow_eq]
    exact ofDecimal_searchShortest unpacked value 800 1 fine

end Search

section TrailingZeros

theorem ofNat_of_lt {number : Nat} (single : number < 10) :
    Text.ofNat number = [CodePoint.ofChar number.digitChar] := by
  rw [Text.ofNat, Text.ofString, Nat.repr_eq_ofList_toDigits, String.toList_ofList,
    Nat.toDigits_of_lt_base single]
  rfl

theorem ofNat_of_le {number : Nat} (several : 10 ≤ number) :
    Text.ofNat number =
      Text.ofNat (number / 10) ++ [CodePoint.ofChar (number % 10).digitChar] := by
  simp only [Text.ofNat, Text.ofString, Nat.repr_eq_ofList_toDigits, String.toList_ofList]
  rw [Nat.toDigits_of_base_le (by norm_num) several, List.map_append]
  rfl

theorem dropTrailingZeros_append_zero (digits : Text) :
    dropTrailingZeros (digits ++ [CodePoint.ofChar '0']) = dropTrailingZeros digits := by
  simp [dropTrailingZeros]

theorem dropTrailingZeros_append {point : CodePoint} (digits : Text)
    (nonzero : point ≠ CodePoint.ofChar '0') :
    dropTrailingZeros (digits ++ [point]) = digits ++ [point] := by
  simp [dropTrailingZeros, nonzero]

theorem digitChar_ne_zero : ∀ digit < 10, digit ≠ 0 →
    CodePoint.ofChar digit.digitChar ≠ CodePoint.ofChar '0' := by
  decide

theorem exists_dropTrailingZeros {number : Nat} (positive : 0 < number) :
    ∃ trimmed zeros, trimmed % 10 ≠ 0 ∧ number = trimmed * 10 ^ zeros ∧
      dropTrailingZeros (Text.ofNat number) = Text.ofNat trimmed := by
  induction number using Nat.strong_induction_on with
  | _ number ih =>
    by_cases last : number % 10 = 0
    · obtain ⟨trimmed, zeros, kept, split, dropped⟩ :=
        ih (number / 10) (by omega) (by omega)
      refine ⟨trimmed, zeros + 1, kept, ?_, ?_⟩
      · rw [pow_succ, ← mul_assoc, ← split]
        omega
      · rw [ofNat_of_le (by omega), last, ← dropped]
        exact dropTrailingZeros_append_zero _
    · have digit := digitChar_ne_zero (number % 10) (Nat.mod_lt _ (by norm_num)) last
      refine ⟨number, 0, last, by rw [pow_zero, mul_one], ?_⟩
      by_cases single : number < 10
      · rw [Nat.mod_eq_of_lt single] at digit
        rw [ofNat_of_lt single]
        exact dropTrailingZeros_append [] digit
      · rw [ofNat_of_le (by omega)]
        exact dropTrailingZeros_append _ digit

theorem length_ofNat (number : Nat) : (Text.ofNat number).length = digitCount number := by
  rw [Text.ofNat, Text.ofString, List.length_map]
  rfl

/-- The digits of a positive double neither begin nor end with a zero, and read back. -/
theorem shortestDigits_spec {double : Float} {parts : Parts} {positive : 0 < parts.significand}
    (unpacked : double.toModel.unpack =
      .finite .positive parts.significand parts.exponent positive) :
    ∃ digits exponent, digits % 10 ≠ 0 ∧ ofDecimal digits exponent = double ∧
      shortestDigits double parts = (Text.ofNat digits, digitCount digits + exponent) := by
  have reads := ofDecimal_shortest unpacked
  let scaled := shortest double parts
  have nonzero : 0 < scaled.digits := by
    apply Nat.pos_of_ne_zero
    intro zero
    have isZero : double = 0.0 := by
      rw [← reads]
      simp only [scaled] at zero
      rw [zero]
      rfl
    rw [isZero] at unpacked
    cases unpacked
  obtain ⟨digits, zeros, last, split, dropped⟩ := exists_dropTrailingZeros nonzero
  have leading : 0 < digits := Nat.pos_of_ne_zero fun zero => last (by rw [zero])
  refine ⟨digits, scaled.exponent + zeros, last, ?_, ?_⟩
  · rw [← ofDecimal_mul_pow, ← split]
    exact reads
  · have point : scaled.exponent + (digitCount scaled.digits : Nat) =
        digitCount digits + (scaled.exponent + zeros) := by
      rw [split, digitCount_mul_pow leading zeros]
      push_cast
      ring
    simp only [shortestDigits, length_ofNat]
    rw [dropped, point]

end TrailingZeros

end ComponentInliner.Number
