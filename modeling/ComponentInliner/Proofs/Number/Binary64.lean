import ComponentInliner.Proofs.Number.Rounding

/-!
# The bits of doubles

A double is packed into a sign, an exponent and a mantissa, and `parts?` reads the same three
fields off its bits. So unpacking comes out in terms of the fields (`unpack_eq`), and what `parts?`
finds is what the double is unpacked to (`unpack_of_parts`). Packing and unpacking undo each other
on what a double can hold (`isCanonical_of_unpack`, `unpack_pack`).
-/

namespace ComponentInliner.Number

open Float.Model
open Float.Model.UnpackedFloat

section Bits

variable (bits : BitVec 64) (mantissa : BitVec 52)

theorem unpackMantissa_toNat :
    (@unpackMantissa .binary64 bits).toNat = bits.toNat % 2 ^ 52 := by
  simp [unpackMantissa]

theorem unpackExponent_toNat :
    (@unpackExponent .binary64 bits).toNat = bits.toNat / 2 ^ 52 % 2 ^ 11 := by
  simp [unpackExponent, Nat.shiftRight_eq_div_pow]

theorem unpackSign_toNat :
    (@unpackSign .binary64 bits).toNat = bits.toNat / 2 ^ 63 := by
  have bounded : bits.toNat / 2 ^ 63 < 2 := by
    have := bits.isLt
    omega
  simp only [unpackSign, BitVec.toNat_cast, BitVec.extractLsb_toNat, Nat.shiftRight_eq_div_pow]
  exact Nat.mod_eq_of_lt bounded

theorem implicit_toNat : (1#1 ++ mantissa).toNat = 2 ^ 52 + mantissa.toNat := by
  rw [BitVec.toNat_append, ← Nat.shiftLeft_add_eq_or_of_lt mantissa.isLt]
  simp [Nat.shiftLeft_eq]

end Bits

section Fields

variable (double : Float.Model)

def signOf : Sign :=
  if double.toBits.toNat / 2 ^ 63 = 1 then .negative else .positive

def biasedExponent : Nat :=
  double.toBits.toNat / 2 ^ 52 % 2 ^ 11

def fractionBits : Nat :=
  double.toBits.toNat % 2 ^ 52

theorem biasedExponent_lt : biasedExponent double < 2 ^ 11 :=
  Nat.mod_lt _ (by norm_num)

theorem fractionBits_lt : fractionBits double < 2 ^ 52 :=
  Nat.mod_lt _ (by norm_num)

theorem signOf_eq :
    Sign.ofBitVec (@unpackSign .binary64 double.toBits.toBitVec) = signOf double := by
  have value := unpackSign_toNat double.toBits.toBitVec
  rw [UInt64.toNat_toBitVec] at value
  unfold signOf
  rcases BitVec.eq_zero_or_eq_one (@unpackSign .binary64 double.toBits.toBitVec) with bit | bit
  all_goals
    rw [bit] at value ⊢
    rw [← value]
    rfl

theorem unpackExponent_eq :
    @unpackExponent .binary64 double.toBits.toBitVec =
      BitVec.ofNat 11 (biasedExponent double) := by
  apply BitVec.eq_of_toNat_eq
  rw [unpackExponent_toNat, UInt64.toNat_toBitVec, BitVec.toNat_ofNat]
  simp [biasedExponent]

theorem unpackMantissa_eq :
    @unpackMantissa .binary64 double.toBits.toBitVec =
      BitVec.ofNat 52 (fractionBits double) := by
  apply BitVec.eq_of_toNat_eq
  rw [unpackMantissa_toNat, UInt64.toNat_toBitVec, BitVec.toNat_ofNat]
  simp [fractionBits]

theorem unpack_eq : double.unpack =
    if biasedExponent double = 2047 then
      if fractionBits double = 0 then .infinity (signOf double) else .notANumber
    else if biasedExponent double = 0 then
      if positive : 0 < fractionBits double then
        .finite (signOf double) (fractionBits double) (-1074) positive
      else .zero (signOf double)
    else
      .finite (signOf double) (2 ^ 52 + fractionBits double) (biasedExponent double - 1075)
        (Nat.add_pos_left (Nat.two_pow_pos 52) _) := by
  have lessExponent := biasedExponent_lt double
  have lessFraction := fractionBits_lt double
  have isTop : BitVec.ofNat 11 (biasedExponent double) = -1#11 ↔ biasedExponent double = 2047 := by
    rw [← BitVec.toNat_inj, BitVec.toNat_ofNat, Nat.mod_eq_of_lt lessExponent]
    rfl
  have isBottom : BitVec.ofNat 11 (biasedExponent double) = 0#11 ↔ biasedExponent double = 0 := by
    rw [← BitVec.toNat_inj, BitVec.toNat_ofNat, Nat.mod_eq_of_lt lessExponent]
    rfl
  have isEmpty : BitVec.ofNat 52 (fractionBits double) = 0#52 ↔ fractionBits double = 0 := by
    rw [← BitVec.toNat_inj, BitVec.toNat_ofNat, Nat.mod_eq_of_lt lessFraction]
    rfl
  unfold Float.Model.unpack UnpackedFloat.unpack
  simp only [unpackExponent_eq, unpackMantissa_eq, signOf_eq, isTop, isBottom, isEmpty]
  by_cases top : biasedExponent double = 2047
  · simp only [top, if_true]
  by_cases bottom : biasedExponent double = 0
  · by_cases empty : fractionBits double = 0
    · simp [bottom, empty]
    · simp only [bottom, empty, if_false, if_true, dite_false]
      rw [dif_pos (Nat.pos_of_ne_zero empty)]
      simp only [BitVec.toNat_ofNat, Nat.mod_eq_of_lt lessFraction]
      rfl
  · simp only [top, bottom, if_false, implicit_toNat, BitVec.toNat_ofNat,
      Nat.mod_eq_of_lt lessFraction, Nat.mod_eq_of_lt lessExponent]
    rfl

variable {double} in
theorem fields_of_bits {sign : Sign} {biased : BitVec 11} {fraction : BitVec 52}
    (bits : double.toBits.toBitVec = packComponents .binary64 sign biased fraction) :
    signOf double = sign ∧ biasedExponent double = biased.toNat ∧
      fractionBits double = fraction.toNat := by
  have signs := signOf_eq double
  have exponents := congrArg BitVec.toNat (unpackExponent_eq double)
  have fractions := congrArg BitVec.toNat (unpackMantissa_eq double)
  rw [bits, unpackSign_packComponents, Sign.ofBitVec_toBitVec] at signs
  rw [bits, unpackExponent_packComponents, BitVec.toNat_ofNat] at exponents
  rw [bits, unpackMantissa_packComponents, BitVec.toNat_ofNat] at fractions
  have lessExponent := biasedExponent_lt double
  have lessFraction := fractionBits_lt double
  rw [Nat.mod_eq_of_lt lessExponent] at exponents
  rw [Nat.mod_eq_of_lt lessFraction] at fractions
  exact ⟨signs.symm, exponents.symm, fractions.symm⟩

end Fields

section Unpacked

variable {double : Float.Model} {sign : Sign} {mantissa : Nat} {exponent : Int}
  {positive : 0 < mantissa}

theorem isCanonical_of_unpack (unpacked : double.unpack = .finite sign mantissa exponent positive) :
    IsCanonical mantissa exponent := by
  have lessExponent := biasedExponent_lt double
  have lessFraction := fractionBits_lt double
  rw [unpack_eq] at unpacked
  split at unpacked
  · split at unpacked <;> cases unpacked
  split at unpacked
  · split at unpacked
    · cases unpacked
      exact ⟨by omega, le_rfl, by norm_num, .inr rfl⟩
    · cases unpacked
  · cases unpacked
    exact ⟨by omega, by omega, by omega, .inl (by omega)⟩

theorem unpack_pack (canonical : IsCanonical mantissa exponent) :
    (Float.Model.pack (.finite sign mantissa exponent positive)).unpack =
      .finite sign mantissa exponent positive := by
  have short := canonical.short
  have lowest := canonical.lowest
  have highest := canonical.highest
  let biased := (exponent + 1075).toNat
  have biased_eq : (exponent + Format.binary64.exponentBias +
      Format.binary64.mantissaBitsWithoutImplicit).toNat = biased := by
    simp only [Format.exponentBias, biased]
    omega
  -- A normal double leaves out the first bit of its mantissa, a subnormal one keeps all of them.
  by_cases normal : 2 ^ 52 ≤ mantissa
  · have long : mantissa.log2 = 52 := (Nat.log2_eq_iff positive.ne').mpr ⟨normal, short⟩
    have bits : (Float.Model.pack (.finite sign mantissa exponent positive)).toBits.toBitVec =
        packComponents .binary64 sign (BitVec.ofNat 11 biased) (BitVec.ofNat 52 mantissa) := by
      simp only [Float.Model.pack, UnpackedFloat.pack, biased_eq]
      rw [if_neg (by omega), if_pos (by rw [long]; rfl)]
    obtain ⟨signs, exponents, fractions⟩ := fields_of_bits bits
    rw [BitVec.toNat_ofNat] at exponents fractions
    rw [unpack_eq]
    simp only [signs, exponents, fractions]
    rw [if_neg (by omega), if_neg (by omega)]
    congr 1 <;> omega
  · obtain rfl : exponent = -1074 := canonical.full.resolve_left normal
    have less : mantissa.log2 < 52 := (Nat.log2_lt positive.ne').mpr (by omega)
    have bits : (Float.Model.pack (.finite sign mantissa (-1074) positive)).toBits.toBitVec =
        packComponents .binary64 sign 0#11 (BitVec.ofNat 52 mantissa) := by
      simp only [Float.Model.pack, UnpackedFloat.pack, biased_eq]
      rw [if_neg (by omega), if_neg (by simp only [Format.mantissaBits]; omega)]
    obtain ⟨signs, exponents, fractions⟩ := fields_of_bits bits
    rw [BitVec.toNat_ofNat, Nat.mod_eq_of_lt (by omega)] at fractions
    rw [unpack_eq]
    simp only [signs, exponents, fractions]
    rw [if_neg (by decide), if_pos (by decide), dif_pos positive]

end Unpacked

section Doubles

variable {double other : Float} {sign : Sign} {mantissa : Nat} {exponent : Int}
  {positive : 0 < mantissa}

theorem ext_unpack (same : double.toModel.unpack = other.toModel.unpack) : double = other := by
  apply Float.toBits_inj.mp
  apply UInt64.toBitVec_inj.mp
  exact (unpack_inj_of_valid double.toModel.valid other.toModel.valid).mp same

/-- Only a positive finite double is equal to one, and then it is the same. -/
theorem eq_of_beq_finite
    (unpacked : double.toModel.unpack = .finite .positive mantissa exponent positive)
    (equal : (other == double) = true) : other = double := by
  apply ext_unpack
  change other.toModel.unpack.beq double.toModel.unpack = true at equal
  rw [beq_iff_ne_notANumber_and_eq, unpacked] at equal
  rcases equal with ⟨-, -, same | ⟨-, zero⟩ | ⟨-, zero⟩⟩
  · rw [same, unpacked]
  · cases zero
  · cases zero

theorem unpack_neg (unpacked : double.toModel.unpack = .finite sign mantissa exponent positive) :
    (-double).toModel.unpack = .finite (-sign) mantissa exponent positive := by
  change (Float.Model.pack double.toModel.unpack.neg).unpack = _
  rw [unpacked]
  exact unpack_pack (isCanonical_of_unpack unpacked)

theorem unpack_abs (unpacked : double.toModel.unpack = .finite sign mantissa exponent positive) :
    double.abs.toModel.unpack = .finite .positive mantissa exponent positive := by
  change (Float.Model.pack double.toModel.unpack.abs).unpack = _
  rw [unpacked]
  exact unpack_pack (isCanonical_of_unpack unpacked)

theorem abs_of_positive
    (unpacked : double.toModel.unpack = .finite .positive mantissa exponent positive) :
    double.abs = double :=
  ext_unpack ((unpack_abs unpacked).trans unpacked.symm)

theorem neg_abs_of_negative
    (unpacked : double.toModel.unpack = .finite .negative mantissa exponent positive) :
    -double.abs = double :=
  ext_unpack ((unpack_neg (unpack_abs unpacked)).trans unpacked.symm)

end Doubles

section TakingApart

variable {double : Float} {parts : Parts}

theorem parts?_eq (double : Float) : parts? double =
    if biasedExponent double.toModel = 2047 then none
    else if biasedExponent double.toModel = 0 then
      some ⟨decide (double.toBits.toNat / 2 ^ 63 = 1), fractionBits double.toModel, -1074⟩
    else
      some ⟨decide (double.toBits.toNat / 2 ^ 63 = 1), 2 ^ 52 + fractionBits double.toModel,
        biasedExponent double.toModel - 1075⟩ := by
  rfl

theorem signOf_of_bits (double : Float) : signOf double.toModel =
    if decide (double.toBits.toNat / 2 ^ 63 = 1) = true then .negative else .positive := by
  simp only [decide_eq_true_eq]
  rfl

/-- Without parts a double is infinite or not a number. -/
theorem unpack_of_no_parts (missing : parts? double = none) :
    double.toModel.unpack = .infinity (signOf double.toModel) ∨
      double.toModel.unpack = .notANumber := by
  rw [parts?_eq] at missing
  rw [unpack_eq]
  split at missing
  · next top =>
      rw [if_pos top]
      split
      · exact .inl rfl
      · exact .inr rfl
  · split at missing <;> cases missing

theorem unpack_of_zero_parts (found : parts? double = some parts) (zero : parts.significand = 0) :
    double.toModel.unpack = .zero (signOf double.toModel) := by
  rw [parts?_eq] at found
  rw [unpack_eq]
  split at found
  · cases found
  next top =>
    rw [if_neg top]
    split at found
    · next bottom =>
        cases found
        rw [if_pos bottom, dif_neg (by simp only at zero; omega)]
    · cases found
      simp only at zero
      omega

theorem unpack_of_parts (found : parts? double = some parts) (positive : 0 < parts.significand) :
    double.toModel.unpack =
      .finite (if parts.negative then .negative else .positive) parts.significand parts.exponent
        positive := by
  rw [parts?_eq] at found
  rw [unpack_eq, signOf_of_bits]
  split at found
  · cases found
  next top =>
    rw [if_neg top]
    split at found
    · next bottom =>
        cases found
        rw [if_pos bottom, dif_pos positive]
    · next normal =>
        cases found
        rw [if_neg normal]

/-- The parts of a double that is neither zero nor infinite. -/
theorem parts?_of_finite {negative : Bool} {mantissa : Nat} {exponent : Int}
    {positive : 0 < mantissa} (unpacked : double.toModel.unpack =
      .finite (if negative then .negative else .positive) mantissa exponent positive) :
    parts? double = some ⟨negative, mantissa, exponent⟩ := by
  cases found : parts? double with
  | none =>
      rcases unpack_of_no_parts found with infinite | notANumber
      · cases unpacked.symm.trans infinite
      · cases unpacked.symm.trans notANumber
  | some parts =>
      rcases parts with ⟨negative', significand, power⟩
      rcases Nat.eq_zero_or_pos significand with zero | nonzero
      · cases unpacked.symm.trans (unpack_of_zero_parts found zero)
      · have same := unpacked.symm.trans (unpack_of_parts found nonzero)
        cases negative <;> cases negative' <;> cases same <;> rfl

end TakingApart

end ComponentInliner.Number
