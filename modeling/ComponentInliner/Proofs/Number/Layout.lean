import ComponentInliner.Proofs.Number.Numerals

/-!
# The texts of doubles

The digits of a double are laid out in one of two notations: with a point between them or beside
them (`positional`), or with an exponent (`exponential`). Both denote `0.digits * 10 ^ point`
(`toFloat_positional`, `toFloat_exponential`), and `layout` takes the first one exactly for `point`
from -5 to 21 (`layout_eq`).

So both readers of numerals give the double back from its text (`ofNumericString_toText`,
`readNumber_toText`).
-/

namespace ComponentInliner.Number

open Float.Model
open Float.Model.UnpackedFloat

section Notations

/-- Positional notation: zeros fill the digits up to the point. -/
def positional (digits : List (Fin 10)) (point : Int) : Numeral :=
  let padded := zeroDigits (1 - point).toNat ++ digits ++
    zeroDigits (point - digits.length).toNat
  ⟨padded.take (max point 1).toNat, padded.drop (max point 1).toNat, none⟩

/-- Exponent notation: the point stands behind the first digit. -/
def exponential (digits : List (Fin 10)) (point : Int) : Numeral :=
  ⟨digits.take 1, digits.drop 1, some (point - 1)⟩

variable {digits : List (Fin 10)} {point : Int}

theorem started_positional (several : digits ≠ []) : (positional digits point).whole ≠ [] := by
  have length := List.length_pos_iff.mpr several
  apply List.ne_nil_of_length_pos
  simp only [positional, List.length_take, List.length_append, length_zeroDigits]
  omega

theorem started_exponential (several : digits ≠ []) : (exponential digits point).whole ≠ [] := by
  have length := List.length_pos_iff.mpr several
  apply List.ne_nil_of_length_pos
  simp only [exponential, List.length_take]
  omega

theorem ofDigits_zeroDigits (count : Nat) : ofDigits 10 (digitValues (zeroDigits count)) = 0 := by
  induction count with
  | zero => rfl
  | succ count ih =>
      rw [zeroDigits_succ]
      exact ih

theorem toFloat_positional (digits : List (Fin 10)) (point : Int) :
    (positional digits point).decimal.toFloat =
      ofDecimal (ofDigits 10 (digitValues digits)) (point - digits.length) := by
  have padded : ofDigits 10 (digitValues (zeroDigits (1 - point).toNat ++ digits ++
      zeroDigits (point - digits.length).toNat)) =
      ofDigits 10 (digitValues digits) * 10 ^ (point - digits.length).toNat := by
    have append (front back : List (Fin 10)) :
        digitValues (front ++ back) = digitValues front ++ digitValues back := List.map_append
    simp only [append, ofDigits_append, ofDigits_zeroDigits]
    simp [digitValues, zeroDigits]
  simp only [Decimal.toFloat, Numeral.decimal, positional, digitValues, ← List.map_append,
    List.take_append_drop, Option.getD_none, List.length_map, List.length_drop,
    List.length_append, length_zeroDigits] at padded ⊢
  rw [padded, ofDecimal_mul_pow]
  congr 1
  omega

theorem toFloat_exponential (several : digits ≠ []) :
    (exponential digits point).decimal.toFloat =
      ofDecimal (ofDigits 10 (digitValues digits)) (point - digits.length) := by
  have length := List.length_pos_iff.mpr several
  simp only [Decimal.toFloat, Numeral.decimal, exponential, digitValues, ← List.map_append,
    List.take_append_drop, Option.getD_some, List.length_map, List.length_drop]
  congr 1
  omega

/-- The notation that the digits of a double get. -/
def notationOf (digits : List (Fin 10)) (point : Int) : Numeral :=
  if -6 < point ∧ point ≤ 21 then positional digits point else exponential digits point

theorem positional_of_le (reaches : digits.length ≤ point) (positive : 0 < point) :
    positional digits point =
      ⟨digits ++ zeroDigits (point - digits.length).toNat, [], none⟩ := by
  have noZeros : (1 - point).toNat = 0 := by omega
  have length : (digits ++ zeroDigits (point - digits.length).toNat).length ≤
      (max point 1).toNat := by
    simp only [List.length_append, length_zeroDigits]
    omega
  simp only [positional, noZeros, zeroDigits_zero, List.nil_append]
  rw [List.take_of_length_le length, List.drop_of_length_le length]

theorem positional_of_lt (reaches : point < digits.length) (positive : 0 < point) :
    positional digits point = ⟨digits.take point.toNat, digits.drop point.toNat, none⟩ := by
  have noZeros : (1 - point).toNat = 0 := by omega
  have noZeros' : (point - digits.length).toNat = 0 := by omega
  have cut : max point 1 = point := by omega
  simp only [positional, noZeros, noZeros', cut, zeroDigits_zero, List.nil_append,
    List.append_nil]

theorem positional_of_nonpos (nonpos : point ≤ 0) :
    positional digits point = ⟨[0], zeroDigits (-point).toNat ++ digits, none⟩ := by
  have zeros : (1 - point).toNat = (-point).toNat + 1 := by omega
  have noZeros : (point - digits.length).toNat = 0 := by omega
  have cut : (max point 1).toNat = 1 := by omega
  simp only [positional, zeros, noZeros, cut, zeroDigits_succ, zeroDigits_zero,
    List.append_nil, List.cons_append, List.take_succ_cons, List.take_zero, List.drop_succ_cons,
    List.drop_zero]

theorem zeros_eq (count : Nat) : zeros count = digitText (zeroDigits count) := by
  rw [digitText, zeroDigits, List.map_replicate]
  rfl

theorem fractionText_of_ne_nil {fraction : List (Fin 10)} (several : fraction ≠ []) :
    Numeral.fractionText fraction = "." ++ digitText fraction := by
  cases fraction with
  | nil => exact absurd rfl several
  | cons digit fraction => rfl

theorem layout_eq (several : digits ≠ []) :
    layout (digitText digits) point = (notationOf digits point).text := by
  have length := List.length_pos_iff.mpr several
  have size : (digitText digits).length = digits.length := List.length_map ..
  have front (count : Nat) : (digitText digits).take count = digitText (digits.take count) :=
    List.map_take.symm
  have back (count : Nat) : (digitText digits).drop count = digitText (digits.drop count) :=
    List.map_drop.symm
  have append (first second : List (Fin 10)) :
      digitText first ++ digitText second = digitText (first ++ second) := List.map_append.symm
  simp only [layout, size, front, back, zeros_eq]
  unfold notationOf
  -- The point stands behind the digits, between them or before them; else there is an exponent.
  split
  · next reaches =>
      rw [if_pos (by omega), positional_of_le reaches.1 (by omega), append]
      simp [Numeral.text, Numeral.fractionText, Numeral.exponentText]
  split
  · next within =>
      rw [if_pos (by omega), positional_of_lt (by omega) within.1]
      have rest : digits.drop point.toNat ≠ [] := mt List.drop_eq_nil_iff.mp (by omega)
      simp [Numeral.text, fractionText_of_ne_nil rest, Numeral.exponentText]
  split
  · next small =>
      rw [if_pos (by omega), positional_of_nonpos small.2]
      have rest : zeroDigits (-point).toNat ++ digits ≠ [] :=
        List.append_ne_nil_of_right_ne_nil _ several
      simp only [Numeral.text, fractionText_of_ne_nil rest, Numeral.exponentText, ← append,
        List.append_nil]
      rfl
  · have beyond : ¬(-6 < point ∧ point ≤ 21) := by omega
    rw [if_neg beyond]
    simp only [Numeral.text, exponential, Numeral.exponentText]
    by_cases single : (digits.length : Int) > 1
    · have rest : digits.drop 1 ≠ [] := mt List.drop_eq_nil_iff.mp (by omega)
      rw [if_pos single, fractionText_of_ne_nil rest]
      simp only [List.append_assoc]
    · have none : digits.drop 1 = [] := List.drop_of_length_le (by omega)
      have all : digits.take 1 = digits := List.take_of_length_le (by omega)
      rw [if_neg single, none, all]
      simp [Numeral.fractionText]

theorem started_notationOf (point : Int) (several : digits ≠ []) :
    (notationOf digits point).whole ≠ [] := by
  unfold notationOf
  split
  · exact started_positional several
  · exact started_exponential several

theorem toFloat_notationOf (point : Int) (several : digits ≠ []) :
    (notationOf digits point).decimal.toFloat =
      ofDecimal (ofDigits 10 (digitValues digits)) (point - digits.length) := by
  unfold notationOf
  split
  · exact toFloat_positional digits point
  · exact toFloat_exponential several

/-- The text of a double begins with a zero only if a point follows. -/
theorem fractional_notationOf (several : digits ≠ []) (first : digits.head? ≠ some 0)
    (zero : (notationOf digits point).whole.head? = some 0) :
    (notationOf digits point).fraction ≠ [] := by
  have length := List.length_pos_iff.mpr several
  have front {count : Nat} (positive : 0 < count) : (digits.take count).head? = digits.head? :=
    List.head?_take.trans (if_neg positive.ne')
  unfold notationOf at zero ⊢
  split at zero
  · next within =>
      rw [if_pos within]
      by_cases nonpos : point ≤ 0
      · rw [positional_of_nonpos nonpos]
        exact List.append_ne_nil_of_right_ne_nil _ several
      by_cases reaches : digits.length ≤ point
      · rw [positional_of_le reaches (by omega)] at zero
        rw [List.head?_append_of_ne_nil _ several] at zero
        exact absurd zero first
      · rw [positional_of_lt (by omega) (by omega)] at zero
        exact absurd ((front (by omega)).symm.trans zero) first
  · exact absurd ((front one_pos).symm.trans zero) first

theorem mark_not_mem_digitText (digits : List (Fin 10)) :
    CodePoint.ofChar 'e' ∉ digitText digits := by
  intro mem
  obtain ⟨digit, -, same⟩ := List.mem_map.mp mem
  have differ : ∀ digit, digitPoint digit ≠ CodePoint.ofChar 'e' := by decide
  exact differ digit same

theorem mark_mem_text (numeral : Numeral) :
    CodePoint.ofChar 'e' ∈ numeral.text ↔ numeral.exponent ≠ none := by
  rcases numeral with ⟨whole, fraction, _ | exponent⟩
  · have notWhole := mark_not_mem_digitText whole
    have notFraction : CodePoint.ofChar 'e' ∉ Numeral.fractionText fraction := by
      cases fraction with
      | nil => exact List.not_mem_nil
      | cons digit fraction =>
          intro mem
          rcases List.mem_append.mp mem with dot | mem
          · exact absurd (List.mem_singleton.mp dot) (by decide)
          · exact mark_not_mem_digitText _ mem
    simp [Numeral.text, Numeral.exponentText, notWhole, notFraction]
  · simp [Numeral.text, Numeral.exponentText_some]

/-- Digits in positional notation have no exponent. -/
theorem positional_ne_exponential (digits : List (Fin 10)) (point : Int) :
    (positional digits point).text ≠ (exponential digits point).text := by
  intro same
  have mark : CodePoint.ofChar 'e' ∈ (exponential digits point).text :=
    (mark_mem_text _).mpr (by simp [exponential])
  rw [← same, mark_mem_text] at mark
  exact mark rfl

end Notations

section Comparisons

theorem beq_zero_eq (number : Float) :
    (number == 0) = (number.toModel.unpack.compare (.zero .positive) == some .eq) :=
  rfl

theorem lt_zero_iff (number : Float) :
    number < 0 ↔ number.toModel.unpack.lt (.zero .positive) = true :=
  decide_eq_true_iff

theorem zero_le_iff (number : Float) :
    0 ≤ number ↔ (UnpackedFloat.zero .positive).le number.toModel.unpack = true :=
  decide_eq_true_iff

theorem isNegative_iff (number : Float) :
    isNegative number = true ↔ signOf number.toModel = .negative := by
  have shifted : (number.toBits >>> 63).toNat = number.toBits.toNat / 2 ^ 63 := by
    rw [UInt64.toNat_shiftRight, Nat.shiftRight_eq_div_pow]
    rfl
  unfold isNegative
  rw [signOf_of_bits, decide_eq_true_iff, ← UInt64.toNat_inj, shifted]
  simp

end Comparisons

/-- Digits without zeros at their ends that denote the size of a double. -/
structure Spells (digits : List (Fin 10)) (point : Int) (number : Float) : Prop where
  several : digits ≠ []
  first : digits.head? ≠ some 0
  last : digits.getLast? ≠ some 0
  value : ofDecimal (ofDigits 10 (digitValues digits)) (point - digits.length) = number.abs

def signText (number : Float) : Text :=
  if number < 0 then "-" else ""

section Texts

variable {number : Float} {parts : Parts}

theorem signText_of_parts (found : parts? number = some parts) (positive : 0 < parts.significand) :
    signText number = (if parts.negative then "-" else "" : String) := by
  have isNegative : number < 0 ↔ parts.negative = true := by
    rw [lt_zero_iff, unpack_of_parts found positive]
    cases parts.negative
    · exact iff_of_false Bool.false_ne_true Bool.false_ne_true
    · exact iff_of_true rfl rfl
  simp only [signText, isNegative]
  split <;> rfl

theorem toText_of_parts (found : parts? number = some parts) (positive : 0 < parts.significand) :
    ∃ digits point, Spells digits point number ∧
      toText number = signText number ++ (notationOf digits point).text := by
  have unpacked := unpack_abs (unpack_of_parts found positive)
  obtain ⟨digits, exponent, last, reads, shortest⟩ := shortestDigits_spec unpacked
  have leading : 0 < digits := Nat.pos_of_ne_zero fun zero => last (by rw [zero])
  have several := digitsOf_ne_nil digits
  have length : (digitsOf digits).length = digitCount digits := by
    rw [← length_ofNat, ofNat_eq_digitText, digitText, List.length_map]
  refine ⟨digitsOf digits, digitCount digits + exponent, ?_, ?_⟩
  · refine ⟨several, head_digitsOf leading, getLast_digitsOf last, ?_⟩
    rw [ofDigits_digitsOf, length, add_sub_cancel_left]
    exact reads
  · unfold toText
    rw [found, signText_of_parts found positive]
    simp only [if_neg positive.ne']
    rw [shortest]
    simp only [ofNat_eq_digitText, layout_eq several]
    split <;> rfl

theorem ofNumericString_of_no_parts (missing : parts? number = none) :
    ofNumericString (toText number) = number ∧ (number == 0) = false := by
  rw [beq_zero_eq]
  rcases unpack_of_no_parts missing with infinite | notANumber
  · have isNaN : number.isNaN = false := by
      change number.toModel.unpack.isNaN = false
      rw [infinite]
      rfl
    unfold toText
    rw [missing]
    simp only [isNaN, Bool.false_eq_true, if_false]
    cases sign : signOf number.toModel with
    | negative =>
        rw [sign] at infinite
        have same : -(1.0 / 0.0) = number := ext_unpack infinite.symm
        rw [if_pos ((isNegative_iff number).mpr sign), infinite]
        exact ⟨same, rfl⟩
    | positive =>
        rw [sign] at infinite
        have nonneg : ¬ isNegative number = true := by
          rw [isNegative_iff, sign]
          exact Sign.noConfusion
        have same : 1.0 / 0.0 = number := ext_unpack infinite.symm
        rw [if_neg nonneg, infinite]
        exact ⟨same, rfl⟩
  · have isNaN : number.isNaN = true := by
      change number.toModel.unpack.isNaN = true
      rw [notANumber]
      rfl
    have same : 0.0 / 0.0 = number := ext_unpack notANumber.symm
    unfold toText
    rw [missing, notANumber]
    simp only [isNaN, if_true]
    exact ⟨same, rfl⟩

theorem beq_zero_of_parts (found : parts? number = some parts) :
    (number == 0) = decide (parts.significand = 0) := by
  rw [beq_zero_eq]
  by_cases zero : parts.significand = 0
  · rw [unpack_of_zero_parts found zero, decide_eq_true zero]
    cases signOf number.toModel <;> rfl
  · rw [unpack_of_parts found (Nat.pos_of_ne_zero zero), decide_eq_false zero]
    cases parts.negative <;> rfl

theorem toText_of_zero_parts (found : parts? number = some parts) (zero : parts.significand = 0) :
    toText number = "0" := by
  unfold toText
  rw [found]
  exact if_pos zero

theorem ofNumericString_of_parts (found : parts? number = some parts)
    (positive : 0 < parts.significand) : ofNumericString (toText number) = number := by
  obtain ⟨digits, point, spells, text⟩ := toText_of_parts found positive
  have unpacked := unpack_of_parts found positive
  have started := started_notationOf point spells.several
  have reads := (toFloat_notationOf point spells.several).trans spells.value
  rw [text, signText_of_parts found positive]
  cases negative : parts.negative with
  | false =>
      simp only [negative, Bool.false_eq_true, if_false] at unpacked ⊢
      exact (Numeral.ofNumericString_text started).trans (reads.trans (abs_of_positive unpacked))
  | true =>
      simp only [negative, if_true] at unpacked ⊢
      refine (Numeral.ofNumericString_minus started).trans ?_
      rw [reads]
      exact neg_abs_of_negative unpacked

theorem readNumber_of_parts (found : parts? number = some parts)
    (positive : 0 < parts.significand) (nonneg : 0 ≤ number) :
    Script.readNumber (toText number) = .ok (some number) := by
  obtain ⟨digits, point, spells, text⟩ := toText_of_parts found positive
  have unpacked := unpack_of_parts found positive
  have started := started_notationOf point spells.several
  have fractional := @fractional_notationOf digits point spells.several spells.first
  have reads := (toFloat_notationOf point spells.several).trans spells.value
  rw [text, signText_of_parts found positive]
  cases negative : parts.negative with
  | false =>
      simp only [negative, Bool.false_eq_true, if_false] at unpacked ⊢
      refine (Numeral.readNumber_text started fractional).trans ?_
      rw [reads, abs_of_positive unpacked]
  | true =>
      rw [zero_le_iff, unpacked, negative] at nonneg
      cases nonneg

theorem exists_parts_of_isFinite (finite : number.isFinite = true) :
    ∃ parts, parts? number = some parts := by
  cases found : parts? number with
  | some parts => exact ⟨parts, rfl⟩
  | none =>
      change number.toModel.unpack.isFinite = true at finite
      rcases unpack_of_no_parts found with infinite | notANumber
      · rw [infinite] at finite
        cases finite
      · rw [notANumber] at finite
        cases finite

theorem ofNumericString_toText (number : Float) :
    ofNumericString (toText number) = if number == 0 then 0.0 else number := by
  cases found : parts? number with
  | none =>
      obtain ⟨reads, nonzero⟩ := ofNumericString_of_no_parts found
      rw [reads, nonzero]
      rfl
  | some parts =>
      rw [beq_zero_of_parts found]
      rcases Nat.eq_zero_or_pos parts.significand with zero | positive
      · rw [toText_of_zero_parts found zero, decide_eq_true zero]
        rfl
      · rw [decide_eq_false positive.ne']
        exact ofNumericString_of_parts found positive

theorem readNumber_toText (finite : number.isFinite = true) (nonneg : 0 ≤ number) :
    Script.readNumber (toText number) = .ok (some (if number == 0 then 0.0 else number)) := by
  obtain ⟨parts, found⟩ := exists_parts_of_isFinite finite
  rw [beq_zero_of_parts found]
  rcases Nat.eq_zero_or_pos parts.significand with zero | positive
  · rw [toText_of_zero_parts found zero, decide_eq_true zero]
    rfl
  · rw [decide_eq_false positive.ne']
    exact readNumber_of_parts found positive nonneg

theorem exists_spells (finite : number.isFinite = true) (nonzero : (number == 0) = false) :
    ∃ digits point, Spells digits point number ∧
      toText number = signText number ++ (notationOf digits point).text := by
  obtain ⟨parts, found⟩ := exists_parts_of_isFinite finite
  rw [beq_zero_of_parts found, decide_eq_false_iff_not] at nonzero
  exact toText_of_parts found (Nat.pos_of_ne_zero nonzero)

/-- A double is read back from its text, and the text is in positional notation exactly if the point
stands near the digits. -/
theorem toText_reads_back (number : Float) :
    ofNumericString (toText number) = (if number == 0 then 0.0 else number) ∧
      (number.isFinite = true → 0 ≤ number →
        Script.readNumber (toText number) = .ok (some (if number == 0 then 0.0 else number))) ∧
      (number.isFinite = true → (number == 0) = false →
        ∃ digits point, Spells digits point number ∧
          (toText number = signText number ++ (positional digits point).text ↔
            -6 < point ∧ point ≤ 21) ∧
          (toText number = signText number ++ (exponential digits point).text ↔
            ¬(-6 < point ∧ point ≤ 21))) := by
  refine ⟨ofNumericString_toText number, readNumber_toText, ?_⟩
  intro finite nonzero
  obtain ⟨digits, point, spells, text⟩ := exists_spells finite nonzero
  have differ := positional_ne_exponential digits point
  refine ⟨digits, point, spells, ?_⟩
  rw [text, List.append_cancel_left_eq, List.append_cancel_left_eq]
  unfold notationOf
  by_cases near : -6 < point ∧ point ≤ 21
  · rw [if_pos near]
    exact ⟨iff_of_true rfl near, iff_of_false differ (not_not.mpr near)⟩
  · rw [if_neg near]
    exact ⟨iff_of_false differ.symm near, iff_of_true rfl near⟩

theorem toText_reads_back_tenth :
    Script.readNumber (toText 0.1) = .ok (some 0.1) ∧
      ∃ digits point, Spells digits point 0.1 ∧
        (toText 0.1 = signText 0.1 ++ (positional digits point).text ↔
          -6 < point ∧ point ≤ 21) := by
  obtain ⟨-, reads, layout⟩ := toText_reads_back 0.1
  obtain ⟨digits, point, spells, isPositional, -⟩ := layout rfl rfl
  exact ⟨reads rfl rfl, digits, point, spells, isPositional⟩

end Texts

end ComponentInliner.Number
