import Mathlib

/-!
# Order of doubles

Two doubles compare the same from either side (`compare_swap`). So equality is symmetric
(`beq_symm`), and of two doubles that are numbers the second is not less than the first exactly if
the first is less or equal (`not_lt_iff`).
-/

namespace ComponentInliner.Number

open Float.Model

theorem compare_swap (left right : UnpackedFloat) :
    right.compare left = (left.compare right).map Ordering.swap := by
  rcases left with (_ | _) | _ | (_ | _) | ⟨(_ | _), mantissa, exponent, positive⟩
  all_goals
    rcases right with (_ | _) | _ | (_ | _) | ⟨(_ | _), mantissa', exponent', positive'⟩
  all_goals
    first
    | rfl
    | simp only [UnpackedFloat.compare, Option.map_some, Ordering.swap_then,
        ← Std.OrientedCmp.eq_swap]

theorem compare_eq_none_iff (left right : UnpackedFloat) :
    left.compare right = none ↔ left.isNaN = true ∨ right.isNaN = true := by
  rcases left with (_ | _) | _ | (_ | _) | ⟨(_ | _), mantissa, exponent, positive⟩
  all_goals
    rcases right with (_ | _) | _ | (_ | _) | ⟨(_ | _), mantissa', exponent', positive'⟩
  all_goals
    simp [UnpackedFloat.compare, UnpackedFloat.isNaN]

section Doubles

variable {left right : Float}

theorem lt_iff_compare :
    left < right ↔ left.toModel.unpack.compare right.toModel.unpack = some .lt := by
  change decide (left.toModel.unpack.lt right.toModel.unpack = true) = true ↔ _
  rw [decide_eq_true_iff, UnpackedFloat.lt, beq_iff_eq]

theorem beq_iff_compare :
    (left == right) = true ↔ left.toModel.unpack.compare right.toModel.unpack = some .eq := by
  change left.toModel.unpack.beq right.toModel.unpack = true ↔ _
  rw [UnpackedFloat.beq, beq_iff_eq]

theorem beq_symm (left right : Float) : (left == right) = (right == left) := by
  rw [Bool.eq_iff_iff, beq_iff_compare, beq_iff_compare,
    compare_swap left.toModel.unpack right.toModel.unpack]
  rcases left.toModel.unpack.compare right.toModel.unpack with _ | _ | _ | _ <;> simp

/-- Of two numbers the second is less than the first unless the first is less or equal. -/
theorem not_lt_iff (isNumber : left.isNaN = false) (isNumber' : right.isNaN = false) :
    ¬right < left ↔ left < right ∨ (left == right) = true := by
  have answered : left.toModel.unpack.compare right.toModel.unpack ≠ none := by
    rw [Ne, compare_eq_none_iff]
    rintro (notANumber | notANumber)
    · exact Bool.noConfusion (isNumber.symm.trans notANumber)
    · exact Bool.noConfusion (isNumber'.symm.trans notANumber)
  rw [lt_iff_compare, lt_iff_compare, beq_iff_compare,
    compare_swap left.toModel.unpack right.toModel.unpack]
  cases found : left.toModel.unpack.compare right.toModel.unpack with
  | none => exact absurd found answered
  | some ordering => cases ordering <;> simp

end Doubles

end ComponentInliner.Number
