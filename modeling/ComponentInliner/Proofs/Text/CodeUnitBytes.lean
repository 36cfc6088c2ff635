import ComponentInliner.Text.Utf16
import Mathlib.Tactic

/-!
# Bytes of code units

Two bytes make up a code unit. With the high byte first their order is the order of the code units
(`highFirst_lt_iff`), and with the low byte first the unit at an index is found at twice the index
(`drop_lowFirst`).
-/

namespace ComponentInliner

namespace CodeUnit

variable {first second : CodeUnit}

theorem toNat_highByte (unit : CodeUnit) :
    (UInt8.ofNat (unit.val / 0x100)).toNat = unit.val / 0x100 :=
  UInt8.toNat_ofNat_of_lt' (Nat.div_lt_of_lt_mul unit.isLt)

theorem toNat_lowByte (unit : CodeUnit) :
    (UInt8.ofNat (unit.val % 0x100)).toNat = unit.val % 0x100 :=
  UInt8.toNat_ofNat_of_lt' (Nat.mod_lt _ (by norm_num))

/-- A code unit is put together from its bytes. -/
theorem ofBytes_bytes (unit : CodeUnit) :
    ofBytes (UInt8.ofNat (unit.val / 0x100)) (UInt8.ofNat (unit.val % 0x100)) = unit := by
  apply Fin.ext
  dsimp only [ofBytes]
  rw [toNat_highByte, toNat_lowByte]
  omega

/-- The high bytes decide, and the low bytes if they are the same. -/
theorem highFirst_append_lt_iff {front back : Text.Bytes} :
    first.highFirst ++ front < second.highFirst ++ back ↔
      first < second ∨ first = second ∧ front < back := by
  simp only [highFirst, List.cons_append, List.nil_append, List.cons_lt_cons_iff,
    UInt8.lt_iff_toNat_lt, ← UInt8.toNat_inj, toNat_highByte, toNat_lowByte, Fin.lt_def,
    Fin.ext_iff]
  constructor
  · rintro (less | ⟨same, less | ⟨same', later⟩⟩)
    · exact .inl (by omega)
    · exact .inl (by omega)
    · exact .inr ⟨by omega, later⟩
  · rintro (less | ⟨same, later⟩)
    · rcases Nat.lt_or_ge (first.val / 0x100) (second.val / 0x100) with higher | notHigher
      · exact .inl higher
      · exact .inr ⟨by omega, .inl (by omega)⟩
    · exact .inr ⟨by rw [same], .inr ⟨by rw [same], later⟩⟩

end CodeUnit

namespace Text

theorem flatMap_highFirst_lt_iff (left right : List CodeUnit) :
    left.flatMap CodeUnit.highFirst < right.flatMap CodeUnit.highFirst ↔ left < right := by
  induction left generalizing right with
  | nil =>
      cases right with
      | nil => simp
      | cons second right => simp [CodeUnit.highFirst]
  | cons first left ih =>
      cases right with
      | nil => simp
      | cons second right =>
          rw [List.flatMap_cons, List.flatMap_cons, CodeUnit.highFirst_append_lt_iff,
            List.cons_lt_cons_iff, ih]

/-- The order of the bytes is the order of the code units. -/
theorem highFirst_lt_iff (left right : Text) :
    left.highFirst < right.highFirst ↔ left.units < right.units :=
  flatMap_highFirst_lt_iff left.units right.units

theorem length_lowFirst (text : Text) : text.lowFirst.length = 2 * text.units.length := by
  rw [lowFirst, List.length_flatMap]
  change (text.units.map fun _ => 2).sum = 2 * text.units.length
  rw [List.map_const', List.sum_replicate, smul_eq_mul, mul_comm]

/-- From twice an index on stand the bytes of the code units from this index on. -/
theorem drop_lowFirst (units : List CodeUnit) (index : Nat) :
    (units.flatMap CodeUnit.lowFirst).drop (2 * index) =
      (units.drop index).flatMap CodeUnit.lowFirst := by
  induction units generalizing index with
  | nil => simp
  | cons unit units ih =>
      cases index with
      | zero => rfl
      | succ index => exact ih index

end Text

end ComponentInliner
