import ComponentInliner.Proofs.Number.NearestEven

/-!
# Integers among the doubles

A finite double is a rational (`Parts.value`), and `truncate?` leaves out what lies behind its point
(`truncate?_eq`). An integer with few bits besides zeros at its end becomes a double without loss
(`ofInteger_isExactly`), so that it can be taken out of the double again.
-/

namespace ComponentInliner.Number

/-- The rational that a finite double is. -/
def Parts.value (parts : Parts) : Rat :=
  if parts.negative then -(parts.significand * 2 ^ parts.exponent)
  else parts.significand * 2 ^ parts.exponent

/-- A double is finite and the same number as a rational. -/
def IsExactly (number : Float) (value : Rat) : Prop :=
  ∃ parts, parts? number = some parts ∧ parts.value = value

/-- The integer part of a rational, which is not farther from zero. -/
def integerPart (value : Rat) : Int :=
  if value < 0 then ⌈value⌉ else ⌊value⌋

section Truncation

variable {number : Float}

theorem integerPart_of_nonneg {value : Rat} (nonneg : 0 ≤ value) : integerPart value = ⌊value⌋ :=
  if_neg nonneg.not_gt

theorem integerPart_neg {value : Rat} (nonneg : 0 ≤ value) : integerPart (-value) = -⌊value⌋ := by
  unfold integerPart
  split
  · exact Int.ceil_neg
  · next notNegative =>
      have zero : value = 0 := le_antisymm (by linarith) nonneg
      simp [zero]

theorem integerPart_intCast (integer : Int) : integerPart integer = integer := by
  simp [integerPart]

/-- The size of a double without its fraction. -/
theorem floor_size (significand : Nat) (exponent : Int) :
    ⌊significand * (2 : Rat) ^ exponent⌋ = (match exponent with
      | .ofNat shift => significand * Nat.pow 2 shift
      | .negSucc shift => significand / Nat.pow 2 (shift + 1) : Nat) := by
  cases exponent with
  | ofNat shift =>
      have whole : significand * (2 : Rat) ^ Int.ofNat shift = (significand * 2 ^ shift : Nat) := by
        push_cast
        rfl
      rw [whole]
      exact Int.floor_natCast _
  | negSucc shift =>
      have quotient : significand * (2 : Rat) ^ Int.negSucc shift =
          (significand : Int) / (2 ^ (shift + 1) : Nat) := by
        rw [zpow_negSucc, div_eq_mul_inv]
        push_cast
        rfl
      rw [quotient, Rat.floor_intCast_div_natCast]
      rfl

theorem truncate?_eq (number : Float) :
    truncate? number = (parts? number).map fun parts => integerPart parts.value := by
  unfold truncate?
  congr 1
  funext ⟨negative, significand, exponent⟩
  have nonneg : 0 ≤ significand * (2 : Rat) ^ exponent := by positivity
  cases negative with
  | false =>
      rw [Parts.value, if_neg Bool.false_ne_true, if_neg Bool.false_ne_true,
        integerPart_of_nonneg nonneg]
      exact (floor_size significand exponent).symm
  | true =>
      rw [Parts.value, if_pos rfl, if_pos rfl, integerPart_neg nonneg]
      exact congrArg Neg.neg (floor_size significand exponent).symm

/-- An integer is taken out of the double that is exactly this integer. -/
theorem IsExactly.truncate? {integer : Int} (exactly : IsExactly number integer) :
    truncate? number = some integer := by
  rcases exactly with ⟨parts, found, value⟩
  rw [truncate?_eq, found, Option.map_some, value, integerPart_intCast]

end Truncation

section Conversion

variable {integer : Int}

/-- An integer with few bits besides zeros at its end becomes a double without loss. -/
theorem ofInteger_isExactly {short shift : Nat} (less : short < 2 ^ 53) (bounded : shift ≤ 900)
    (size : integer.natAbs = short * 2 ^ shift) : IsExactly (ofInteger integer) integer := by
  rcases Nat.eq_zero_or_pos short with rfl | positive
  · have zero : integer = 0 := by simpa using size
    subst zero
    exact ⟨⟨false, 0, -1074⟩, rfl, by simp [Parts.value]⟩
  · rcases holds_ofNat positive less shift bounded with
      ⟨mantissa, exponent, nonzero, unpacked, -, value⟩
    rw [← size] at value
    have absolute : ofDecimal integer.natAbs 0 = .ofModel (.ofNat (short * 2 ^ shift)) := by
      apply ofDecimal_exact unpacked
      rw [zpow_zero, mul_one, value]
    unfold ofInteger
    simp only [absolute]
    split
    · next negative =>
        refine ⟨_, @parts?_of_finite _ true _ _ _ (unpack_neg unpacked), ?_⟩
        rw [Parts.value, if_pos rfl, ← value, Nat.cast_natAbs, abs_of_neg negative]
        push_cast
        ring
    · next nonneg =>
        refine ⟨_, @parts?_of_finite _ false _ _ _ unpacked, ?_⟩
        rw [Parts.value, if_neg Bool.false_ne_true, ← value, Nat.cast_natAbs,
          abs_of_nonneg (not_lt.mp nonneg)]

theorem ofInteger_isExactly_of_lt (less : integer.natAbs < 2 ^ 53) :
    IsExactly (ofInteger integer) integer :=
  ofInteger_isExactly less (Nat.zero_le 900) (by rw [pow_zero, mul_one])

end Conversion

end ComponentInliner.Number
