import ComponentInliner.Proofs.Number.Order
import ComponentInliner.Proofs.Text.CodeUnitBytes
import ComponentInliner.Proofs.Text.Utf16
import ComponentInliner.Value.Operator
import Mathlib.Data.List.Lex

/-!
# Relational operators

The four relational operators are one order on their operands (`Relates`): the order of the code
units on strings, and the order of doubles on everything else, where nothing is related to what is
not a number. Of two canonical strings one is less, or they are the same, or the other one is less
(`relates_exact`).
-/

namespace ComponentInliner.Value

/-- An operator gives a flag, which tells whether something holds. -/
def Answers (operator : BinaryOperator) (left right : Value) (holds : Prop) : Prop :=
  ∃ flag, operator.result? left right = some (.boolean flag) ∧ (flag = true ↔ holds)

/-- What the relational operators answer if the left operand is below the right one, the same or
above it. -/
structure Relates (left right : Value) (below same above : Prop) : Prop where
  less : Answers .less left right below
  lessOrEqual : Answers .lessOrEqual left right (below ∨ same)
  greater : Answers .greater left right above
  greaterOrEqual : Answers .greaterOrEqual left right (above ∨ same)

variable {left right : Value} {leftText rightText : Text}

section Answers

variable {isLess isGreater : Bool} {below same above : Prop}

theorem relates_of_lessThan? (forward : left.lessThan? right = some isLess)
    (backward : right.lessThan? left = some isGreater) (isBelow : isLess = true ↔ below)
    (isAbove : isGreater = true ↔ above) (notAbove : ¬above ↔ below ∨ same)
    (notBelow : ¬below ↔ above ∨ same) : Relates left right below same above where
  less := ⟨isLess, by simp [BinaryOperator.result?, forward], isBelow⟩
  lessOrEqual := by
    refine ⟨!isGreater, by simp [BinaryOperator.result?, backward], ?_⟩
    rw [Bool.not_eq_true', ← Bool.not_eq_true, isAbove, notAbove]
  greater := ⟨isGreater, by simp [BinaryOperator.result?, backward], isAbove⟩
  greaterOrEqual := by
    refine ⟨!isLess, by simp [BinaryOperator.result?, forward], ?_⟩
    rw [Bool.not_eq_true', ← Bool.not_eq_true, isBelow, notBelow]

theorem relates_of_unanswered (forward : left.lessThan? right = none)
    (backward : right.lessThan? left = none) : Relates left right False False False where
  less := ⟨false, by simp [BinaryOperator.result?, forward], by simp⟩
  lessOrEqual := ⟨false, by simp [BinaryOperator.result?, backward], by simp⟩
  greater := ⟨false, by simp [BinaryOperator.result?, backward], by simp⟩
  greaterOrEqual := ⟨false, by simp [BinaryOperator.result?, forward], by simp⟩

end Answers

section Strings

theorem lessThan?_of_strings (isLeft : left.toPrimitive = .string leftText)
    (isRight : right.toPrimitive = .string rightText) :
    left.lessThan? right = some (decide (leftText.units < rightText.units)) := by
  unfold lessThan?
  rw [isLeft, isRight]
  exact congrArg some (decide_eq_decide.mpr (Text.highFirst_lt_iff leftText rightText))

theorem relates_of_strings (isLeft : left.toPrimitive = .string leftText)
    (isRight : right.toPrimitive = .string rightText) :
    Relates left right (leftText.units < rightText.units) (leftText.units = rightText.units)
      (rightText.units < leftText.units) := by
  have notLess {first second : List CodeUnit} :
      ¬first < second ↔ second < first ∨ second = first := by
    rw [not_lt, le_iff_lt_or_eq]
  refine relates_of_lessThan? (lessThan?_of_strings isLeft isRight)
    (lessThan?_of_strings isRight isLeft) decide_eq_true_iff decide_eq_true_iff notLess ?_
  rw [notLess, eq_comm]

/-- Of two canonical strings one is less, or they are the same, or the other one is less. -/
theorem existsUnique_relation (canonical : leftText.IsCanonical)
    (canonical' : rightText.IsCanonical) :
    ∃! operator, operator ∈ [BinaryOperator.less, .strictlyEqual, .greater] ∧
      operator.result? (.string leftText) (.string rightText) = some (.boolean true) := by
  have forward : lessThan? (.string leftText) (.string rightText) =
      some (decide (leftText.units < rightText.units)) := lessThan?_of_strings rfl rfl
  have backward : lessThan? (.string rightText) (.string leftText) =
      some (decide (rightText.units < leftText.units)) := lessThan?_of_strings rfl rfl
  have isLess : BinaryOperator.less.result? (.string leftText) (.string rightText) =
      some (.boolean true) ↔ leftText.units < rightText.units := by
    simp [BinaryOperator.result?, forward]
  have isEqual : BinaryOperator.strictlyEqual.result? (.string leftText) (.string rightText) =
      some (.boolean true) ↔ leftText.units = rightText.units := by
    simp [BinaryOperator.result?, strictEquals, Text.units_inj canonical canonical']
  have isGreater : BinaryOperator.greater.result? (.string leftText) (.string rightText) =
      some (.boolean true) ↔ rightText.units < leftText.units := by
    simp [BinaryOperator.result?, backward]
  have among {operator : BinaryOperator}
      (mem : operator ∈ [BinaryOperator.less, .strictlyEqual, .greater]) :
      operator = .less ∨ operator = .strictlyEqual ∨ operator = .greater := by
    simpa using mem
  rcases lt_trichotomy leftText.units rightText.units with below | same | above
  · refine ⟨.less, ⟨by simp, isLess.mpr below⟩, ?_⟩
    rintro operator ⟨mem, holds⟩
    rcases among mem with rfl | rfl | rfl
    · rfl
    · exact absurd (isEqual.mp holds) below.ne
    · exact absurd (isGreater.mp holds) below.asymm
  · refine ⟨.strictlyEqual, ⟨by simp, isEqual.mpr same⟩, ?_⟩
    rintro operator ⟨mem, holds⟩
    rcases among mem with rfl | rfl | rfl
    · exact absurd same (isLess.mp holds).ne
    · rfl
    · exact absurd same (isGreater.mp holds).ne'
  · refine ⟨.greater, ⟨by simp, isGreater.mpr above⟩, ?_⟩
    rintro operator ⟨mem, holds⟩
    rcases among mem with rfl | rfl | rfl
    · exact absurd (isLess.mp holds) above.asymm
    · exact absurd (isEqual.mp holds) above.ne'
    · rfl

end Strings

section Numbers

theorem lessThan?_of_numbers
    (notBoth : left.toPrimitive.text? = none ∨ right.toPrimitive.text? = none) :
    left.lessThan? right =
      if left.toPrimitive.toNumber.isNaN || right.toPrimitive.toNumber.isNaN then none
      else some (decide (left.toPrimitive.toNumber < right.toPrimitive.toNumber)) := by
  unfold lessThan?
  split
  · next isLeft isRight =>
      rw [isLeft, isRight] at notBoth
      rcases notBoth with missing | missing
      · cases missing
      · cases missing
  · rfl

theorem relates_of_notANumber
    (notBoth : left.toPrimitive.text? = none ∨ right.toPrimitive.text? = none)
    (notANumber : left.toPrimitive.toNumber.isNaN = true ∨
      right.toPrimitive.toNumber.isNaN = true) : Relates left right False False False := by
  apply relates_of_unanswered
  · rw [lessThan?_of_numbers notBoth, if_pos (Bool.or_eq_true_iff.mpr notANumber)]
  · rw [lessThan?_of_numbers notBoth.symm, if_pos (Bool.or_eq_true_iff.mpr notANumber.symm)]

theorem relates_of_numbers
    (notBoth : left.toPrimitive.text? = none ∨ right.toPrimitive.text? = none)
    (isNumber : left.toPrimitive.toNumber.isNaN = false)
    (isNumber' : right.toPrimitive.toNumber.isNaN = false) :
    Relates left right (left.toPrimitive.toNumber < right.toPrimitive.toNumber)
      (left.toPrimitive.toNumber == right.toPrimitive.toNumber)
      (right.toPrimitive.toNumber < left.toPrimitive.toNumber) := by
  have forward := lessThan?_of_numbers notBoth
  have backward := lessThan?_of_numbers notBoth.symm
  rw [isNumber, isNumber'] at forward backward
  refine relates_of_lessThan? forward backward decide_eq_true_iff decide_eq_true_iff
    (Number.not_lt_iff isNumber isNumber') ?_
  rw [Number.not_lt_iff isNumber' isNumber, Number.beq_symm]

end Numbers

/--
The relational operators are the order of code units if both primitive values are strings. If they
are not, nothing is related to what is not a number, and numbers are related as doubles.
-/
theorem relates_exact (left right : Value) :
    (∀ leftText rightText, left.toPrimitive = .string leftText →
      right.toPrimitive = .string rightText →
        Relates left right (leftText.units < rightText.units) (leftText.units = rightText.units)
          (rightText.units < leftText.units)) ∧
    (∀ leftText rightText, left = .string leftText → right = .string rightText →
      leftText.IsCanonical → rightText.IsCanonical →
        ∃! operator, operator ∈ [BinaryOperator.less, .strictlyEqual, .greater] ∧
          operator.result? left right = some (.boolean true)) ∧
    (left.toPrimitive.text? = none ∨ right.toPrimitive.text? = none →
      (left.toPrimitive.toNumber.isNaN = true ∨ right.toPrimitive.toNumber.isNaN = true →
        Relates left right False False False) ∧
      (left.toPrimitive.toNumber.isNaN = false → right.toPrimitive.toNumber.isNaN = false →
        Relates left right (left.toPrimitive.toNumber < right.toPrimitive.toNumber)
          (left.toPrimitive.toNumber == right.toPrimitive.toNumber)
          (right.toPrimitive.toNumber < left.toPrimitive.toNumber))) := by
  refine ⟨fun _ _ isLeft isRight => relates_of_strings isLeft isRight, ?_, fun notBoth =>
    ⟨relates_of_notANumber notBoth, relates_of_numbers notBoth⟩⟩
  rintro leftText rightText rfl rfl canonical canonical'
  exact existsUnique_relation canonical canonical'

/-- A fullwidth tilde is above a letter beyond the range of one code unit, nothing is related to
what is undefined, and a truth value is related as its number. -/
theorem relates_exact_tilde :
    (Answers .greater (.string "～") (.string "𝒳") (Text.units "𝒳" < Text.units "～") ∧
      Text.units "𝒳" < Text.units "～") ∧
    (∃! operator, operator ∈ [BinaryOperator.less, .strictlyEqual, .greater] ∧
      operator.result? (.string "～") (.string "𝒳") = some (.boolean true)) ∧
    Relates (.string "1") .undefined False False False ∧
    Answers .greater (.boolean true) (.string "") ((0.0 : Float) < 1.0) := by
  have strings := relates_exact (.string "～") (.string "𝒳")
  have unrelated := (relates_exact (.string "1") .undefined).2.2 (.inr rfl)
  have numbers := (relates_exact (.boolean true) (.string "")).2.2 (.inl rfl)
  exact ⟨⟨(strings.1 _ _ rfl rfl).greater, by decide⟩, strings.2.1 _ _ rfl rfl trivial trivial,
    unrelated.1 (.inr rfl), (numbers.2 rfl rfl).greater⟩

end ComponentInliner.Value
