import ComponentInliner.Proofs.Number.NumericStrings
import ComponentInliner.Proofs.Number.Shortest
import ComponentInliner.Script.Literal

/-!
# Decimal numerals read back

A numeral is written with digits before and after a point and with an exponent, or without one.
Both readers of numerals take apart what has been written: the one of numeric strings
(`ofNumericString_text`), also behind a minus sign, and the one of literals (`readNumber_text`),
which does not take the leading zero of a fraction for an octal literal.
-/

namespace ComponentInliner.Number

section Digits

def digitPoint (digit : Fin 10) : CodePoint :=
  CodePoint.ofChar digit.val.digitChar

def digitText (digits : List (Fin 10)) : Text :=
  digits.map digitPoint

def digitValues (digits : List (Fin 10)) : List Nat :=
  digits.map Fin.val

def zeroDigits (count : Nat) : List (Fin 10) :=
  List.replicate count 0

@[simp] theorem length_zeroDigits (count : Nat) : (zeroDigits count).length = count :=
  List.length_replicate

theorem zeroDigits_zero : zeroDigits 0 = [] :=
  rfl

theorem zeroDigits_succ (count : Nat) : zeroDigits (count + 1) = 0 :: zeroDigits count :=
  rfl

/-- The decimal digits of a natural number, the first one first. -/
def digitsOf (number : Nat) : List (Fin 10) :=
  if _single : number < 10 then [Fin.ofNat 10 number]
  else digitsOf (number / 10) ++ [Fin.ofNat 10 (number % 10)]
termination_by number

theorem ofDigits_append (front back : List Nat) :
    ofDigits 10 (front ++ back) = ofDigits 10 front * 10 ^ back.length + ofDigits 10 back := by
  induction back using List.reverseRecOn with
  | nil => simp [ofDigits]
  | append_singleton back last ih =>
      simp only [ofDigits, ← List.append_assoc, List.foldl_append, List.foldl_cons,
        List.foldl_nil, List.length_append, List.length_singleton, pow_succ] at ih ⊢
      rw [ih]
      ring

theorem ofNat_eq_digitText (number : Nat) : Text.ofNat number = digitText (digitsOf number) := by
  induction number using digitsOf.induct with
  | case1 number single =>
      rw [digitsOf, dif_pos single, ofNat_of_lt single]
      simp [digitText, digitPoint, Nat.mod_eq_of_lt single]
  | case2 number several ih =>
      rw [digitsOf, dif_neg several, ofNat_of_le (by omega), ih]
      simp [digitText, digitPoint]

@[simp] theorem ofDigits_digitsOf (number : Nat) :
    ofDigits 10 (digitValues (digitsOf number)) = number := by
  induction number using digitsOf.induct with
  | case1 number single =>
      rw [digitsOf, dif_pos single]
      simp [digitValues, ofDigits, Nat.mod_eq_of_lt single]
  | case2 number several ih =>
      rw [digitsOf, dif_neg several, digitValues, List.map_append, ofDigits_append]
      simp only [digitValues] at ih
      rw [ih]
      simp [ofDigits]
      omega

theorem digitsOf_ne_nil (number : Nat) : digitsOf number ≠ [] := by
  rw [digitsOf]
  split <;> simp

theorem ofNat_ne_zero {number : Nat} (last : number % 10 ≠ 0) :
    some (Fin.ofNat 10 number) ≠ some 0 := by
  intro zero
  exact last (congrArg Fin.val (Option.some.inj zero))

theorem head_digitsOf {number : Nat} (positive : 0 < number) :
    (digitsOf number).head? ≠ some 0 := by
  induction number using digitsOf.induct with
  | case1 number single =>
      rw [digitsOf, dif_pos single, List.head?_cons]
      exact ofNat_ne_zero (by omega)
  | case2 number several ih =>
      rw [digitsOf, dif_neg several, List.head?_append_of_ne_nil _ (digitsOf_ne_nil _)]
      exact ih (by omega)

/-- Digits without a leading zero are those of the number that they denote. -/
theorem digitsOf_ofDigits {digits : List (Fin 10)} (several : digits ≠ [])
    (first : digits.head? ≠ some 0 ∨ digits.length = 1) :
    digitsOf (ofDigits 10 (digitValues digits)) = digits := by
  induction digits using List.reverseRecOn with
  | nil => exact absurd rfl several
  | append_singleton front last ih =>
      have value : ofDigits 10 (digitValues (front ++ [last])) =
          ofDigits 10 (digitValues front) * 10 + last.val := by
        rw [digitValues, List.map_append, ofDigits_append]
        simp [digitValues, ofDigits]
      rcases eq_or_ne front [] with rfl | frontSeveral
      · have single : ofDigits 10 (digitValues ([] ++ [last])) = last.val := by
          simp [digitValues, ofDigits]
        rw [single, digitsOf, dif_pos last.isLt, Fin.ofNat_val_eq_self]
        rfl
      · have frontFirst : front.head? ≠ some 0 := by
          rcases first with first | short
          · rwa [List.head?_append_of_ne_nil _ frontSeveral] at first
          · rw [List.length_append, List.length_singleton] at short
            exact absurd (List.length_eq_zero_iff.mp (by omega)) frontSeveral
        have ofFront := ih frontSeveral (.inl frontFirst)
        have positive : ofDigits 10 (digitValues front) ≠ 0 := by
          intro zero
          rw [zero, digitsOf, dif_pos (by norm_num)] at ofFront
          rw [← ofFront] at frontFirst
          exact frontFirst rfl
        have more : ¬ofDigits 10 (digitValues front) * 10 + last.val < 10 := by omega
        have tens : (ofDigits 10 (digitValues front) * 10 + last.val) / 10 =
            ofDigits 10 (digitValues front) := by omega
        have ones : (ofDigits 10 (digitValues front) * 10 + last.val) % 10 = last.val := by omega
        rw [value, digitsOf, dif_neg more, tens, ones, ofFront, Fin.ofNat_val_eq_self]

theorem getLast_digitsOf {number : Nat} (last : number % 10 ≠ 0) :
    (digitsOf number).getLast? ≠ some 0 := by
  rw [digitsOf]
  split
  · exact ofNat_ne_zero last
  · rw [List.getLast?_concat]
    exact ofNat_ne_zero (by omega)

theorem decimalDigit?_digitPoint : ∀ digit, (digitPoint digit).decimalDigit? = some digit.val := by
  decide

/-- An ASCII digit is written for its value. -/
theorem exists_digitPoint {point : CodePoint} {value : Nat} (isAscii : point.val < 128)
    (isDigit : point.decimalDigit? = some value) :
    ∃ digit : Fin 10, point = digitPoint digit ∧ value = digit.val := by
  have numbers : ∀ digit : Fin 10, (digitPoint digit).val = 48 + digit.val := by decide
  unfold CodePoint.decimalDigit? CodePoint.isAsciiDigit CodePoint.isBetween at isDigit
  rw [if_pos isAscii] at isDigit
  split at isDigit
  · next inRange =>
      rw [Bool.and_eq_true, decide_eq_true_eq, decide_eq_true_eq] at inRange
      have first : Char.toNat '0' = 48 ∧ Char.toNat '9' = 57 := ⟨rfl, rfl⟩
      cases isDigit
      refine ⟨⟨point.val - 48, by omega⟩, Fin.ext ?_, rfl⟩
      rw [numbers]
      exact (Nat.add_sub_of_le inRange.1).symm
  · cases isDigit

theorem spellsDigits_digitText (digits : List (Fin 10)) :
    SpellsDigits CodePoint.decimalDigit? (digitText digits) (digitValues digits) := by
  induction digits with
  | nil => exact .nil
  | cons digit _ ih => exact .cons (decimalDigit?_digitPoint digit) ih

end Digits

/-- A decimal numeral as it is written. -/
structure Numeral where
  whole : List (Fin 10)
  fraction : List (Fin 10)
  exponent : Option Int

namespace Numeral

def fractionText (fraction : List (Fin 10)) : Text :=
  if fraction.isEmpty then [] else "." ++ digitText fraction

def exponentText : Option Int → Text
  | none => []
  | some exponent =>
      "e" ++ (if exponent ≥ 0 then "+" else "-" : String) ++ Text.ofNat exponent.natAbs

def text (numeral : Numeral) : Text :=
  digitText numeral.whole ++ fractionText numeral.fraction ++ exponentText numeral.exponent

def decimal (numeral : Numeral) : Decimal :=
  ⟨digitValues numeral.whole, digitValues numeral.fraction, numeral.exponent.getD 0⟩

theorem exponentText_some (exponent : Int) :
    exponentText (some exponent) = CodePoint.ofChar 'e' ::
      CodePoint.ofChar (if exponent ≥ 0 then '+' else '-') :: Text.ofNat exponent.natAbs := by
  by_cases nonneg : exponent ≥ 0
  · simp only [exponentText, if_pos nonneg]
    rfl
  · simp only [exponentText, if_neg nonneg]
    rfl

theorem spellsExponent_exponentText (exponent : Option Int) :
    SpellsExponent CodePoint.decimalDigit? (exponentText exponent) (exponent.getD 0) := by
  cases exponent with
  | none => exact .absent
  | some exponent =>
      have spells := spellsDigits_digitText (digitsOf exponent.natAbs)
      have several : digitValues (digitsOf exponent.natAbs) ≠ [] := by
        simp [digitValues, digitsOf_ne_nil]
      rw [exponentText_some, ofNat_eq_digitText]
      by_cases nonneg : exponent ≥ 0
      · have signed : (exponent.natAbs : Int) = exponent := Int.natAbs_of_nonneg nonneg
        have marked := SpellsExponent.marked (.inl rfl) .plus spells several
        rw [ofDigits_digitsOf, if_neg Bool.false_ne_true, signed] at marked
        rw [if_pos nonneg]
        exact marked
      · have signed : -(exponent.natAbs : Int) = exponent := by omega
        have marked := SpellsExponent.marked (.inl rfl) .minus spells several
        rw [ofDigits_digitsOf, if_pos rfl, signed] at marked
        rw [if_neg nonneg]
        exact marked

/-- What is written for a numeral spells it. -/
theorem spellsDecimal_text {numeral : Numeral} (started : numeral.whole ≠ []) :
    SpellsDecimal CodePoint.decimalDigit? numeral.text numeral.decimal := by
  rcases numeral with ⟨whole, fraction, exponent⟩
  have several : digitValues whole ≠ [] := by simpa [digitValues] using started
  refine .intro ?_ (spellsExponent_exponentText exponent)
  cases fraction with
  | nil =>
      rw [fractionText, List.isEmpty_nil, if_pos rfl, List.append_nil]
      exact .whole (spellsDigits_digitText whole) several
  | cons digit fraction =>
      exact .pointed (spellsDigits_digitText whole) (spellsDigits_digitText (digit :: fraction))
        (.inl several)

section Alphabet

def alphabet : Text :=
  "0123456789.e+-"

theorem digitPoint_mem_alphabet : ∀ digit, digitPoint digit ∈ alphabet := by
  decide

theorem digitText_within (digits : List (Fin 10)) : digitText digits ⊆ alphabet := by
  intro point mem
  obtain ⟨digit, -, rfl⟩ := List.mem_map.mp mem
  exact digitPoint_mem_alphabet digit

theorem text_within (numeral : Numeral) : numeral.text ⊆ alphabet := by
  intro point mem
  rcases numeral with ⟨whole, fraction, exponent⟩
  rcases List.mem_append.mp mem with mem | mem
  · rcases List.mem_append.mp mem with mem | mem
    · exact digitText_within _ mem
    · cases fraction with
      | nil => cases mem
      | cons digit fraction =>
          rcases List.mem_append.mp mem with mem | mem
          · obtain rfl := List.mem_singleton.mp mem
            decide
          · exact digitText_within _ mem
  · cases exponent with
    | none => cases mem
    | some exponent =>
        rw [exponentText_some] at mem
        simp only [List.mem_cons] at mem
        rcases mem with rfl | rfl | mem
        · decide
        · split <;> decide
        · rw [ofNat_eq_digitText] at mem
          exact digitText_within _ mem

end Alphabet

section Reading

variable {numeral : Numeral} {text : Text}

theorem trimBoth_alphabet (within : text ⊆ alphabet) :
    text.trimBoth CodePoint.isScriptBlank = text := by
  have noBlank : alphabet.any CodePoint.isScriptBlank = false := by decide
  have keeps {text : Text} (within : text ⊆ alphabet) :
      text.dropWhile CodePoint.isScriptBlank = text := by
    cases text with
    | nil => rfl
    | cons point rest =>
        apply List.dropWhile_cons_of_neg
        exact List.any_eq_false.mp noBlank point (within (List.mem_cons_self ..))
  unfold Text.trimBoth
  rw [keeps within, keeps fun _ mem => within (List.mem_reverse.mp mem), List.reverse_reverse]

theorem readDecimal?_text (started : numeral.whole ≠ []) :
    readDecimal? numeral.text = some numeral.decimal := by
  have outside : CodePoint.ofChar '\n' ∉ alphabet := by decide
  have ends : numeral.text.getLast? ≠ some (CodePoint.ofChar '\n') := fun last =>
    outside (text_within numeral (List.mem_of_getLast? last))
  exact (readDecimal?_eq_some_iff ends).mpr (spellsDecimal_text started)

theorem exists_text_cons (started : numeral.whole ≠ []) :
    ∃ digit rest, numeral.whole.head? = some digit ∧ numeral.text = digitPoint digit :: rest := by
  rcases numeral with ⟨_ | ⟨digit, whole⟩, fraction, exponent⟩
  · exact absurd rfl started
  · exact ⟨digit, _, rfl, rfl⟩

theorem ofNumericString_text (started : numeral.whole ≠ []) :
    ofNumericString numeral.text = numeral.decimal.toFloat :=
  ofNumericString_decimal .absent (spellsDecimal_text started)
    (trimBoth_alphabet (text_within numeral))

theorem ofNumericString_minus (started : numeral.whole ≠ []) :
    ofNumericString ("-" ++ numeral.text) = -numeral.decimal.toFloat := by
  have signedWithin : Text.ofString "-" ++ numeral.text ⊆ alphabet := by
    intro point mem
    rcases List.mem_append.mp mem with mem | mem
    · obtain rfl := List.mem_singleton.mp mem
      decide
    · exact text_within numeral mem
  exact ofNumericString_decimal .minus (spellsDecimal_text started) (trimBoth_alphabet signedWithin)

theorem dot_mem_text (fractional : numeral.fraction ≠ []) :
    CodePoint.ofChar '.' ∈ numeral.text := by
  rcases numeral with ⟨whole, _ | ⟨digit, fraction⟩, exponent⟩
  · exact absurd rfl fractional
  · apply List.mem_append_left
    apply List.mem_append_right
    exact List.mem_cons_self ..

theorem digitPoint_ne_zero {digit : Fin 10} (nonzero : digit ≠ 0) :
    digitPoint digit ≠ CodePoint.ofChar '0' :=
  digitChar_ne_zero digit.val digit.isLt (Fin.val_ne_zero_iff.mpr nonzero)

/-- A zero is only put before a point. -/
theorem isLegacyOctal_text (started : numeral.whole ≠ [])
    (fractional : numeral.whole.head? = some 0 → numeral.fraction ≠ []) :
    Script.isLegacyOctal numeral.text = false := by
  obtain ⟨digit, rest, first, starts⟩ := exists_text_cons started
  unfold Script.isLegacyOctal
  by_cases zero : digit = 0
  · rw [zero] at first
    rw [Bool.and_eq_false_iff]
    right
    rw [List.all_eq_false]
    exact ⟨_, dot_mem_text (fractional first), by decide⟩
  · rw [Bool.and_eq_false_iff]
    left
    rw [Bool.and_eq_false_iff]
    right
    apply decide_eq_false
    intro isZero
    rw [starts] at isZero
    exact digitPoint_ne_zero zero (Option.some.inj isZero)

theorem readNumber_text (started : numeral.whole ≠ [])
    (fractional : numeral.whole.head? = some 0 → numeral.fraction ≠ []) :
    Script.readNumber numeral.text = .ok (some numeral.decimal.toFloat) := by
  have within := text_within numeral
  have kept : numeral.text.filter (fun point : CodePoint => point ≠ '_') = numeral.text := by
    have outside : CodePoint.ofChar '_' ∉ alphabet := by decide
    apply List.filter_eq_self.mpr
    intro point mem
    apply decide_eq_true
    rintro rfl
    exact outside (within mem)
  have bounded : numeral.text.getLast? ≠ some (CodePoint.ofChar 'n') := by
    have outside : CodePoint.ofChar 'n' ∉ alphabet := by decide
    intro last
    exact outside (within (List.mem_of_getLast? last))
  unfold Script.readNumber
  simp only [kept]
  refine (if_neg bounded).trans ?_
  have plain : announcedRadix? ([] ++ numeral.text) = none :=
    announcedRadix?_decimal .absent (spellsDecimal_text started)
  rw [List.nil_append] at plain
  simp only [plain, isLegacyOctal_text started fractional,
    readDecimal?_text started, Bool.false_eq_true, if_false]

end Reading

end Numeral

end ComponentInliner.Number
