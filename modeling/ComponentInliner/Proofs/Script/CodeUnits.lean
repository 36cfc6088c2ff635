import ComponentInliner.Proofs.Script.Escapes
import ComponentInliner.Proofs.Text.Utf16

/-!
# Code units of literals

A literal may spell its text code unit by code unit. Whatever the units are, halves of surrogate
pairs on their own included, the text of the literal is the one canonical text with these units
(`joinSurrogates_exact`).
-/

namespace ComponentInliner.Script

open Number

/-- An escape sequence, without its backslash, that spells a code unit with four digits. -/
def SpellsUnit (body : Text) (unit : CodeUnit) : Prop :=
  ∃ digits : Text, body = CodePoint.ofChar 'u' :: digits ∧ digits.length = 4 ∧
    SpellsHexadecimal digits unit.val

variable {bodies : List Text} {units : List CodeUnit}

/-- The lower-case hexadecimal digit with a given value. -/
def hexadecimalDigit (value : Fin 16) : CodePoint :=
  ⟨if value.val < 10 then 48 + value.val else 87 + value.val, by split <;> omega⟩

theorem asciiDigit?_hexadecimalDigit : ∀ value : Fin 16,
    asciiDigit? 16 (hexadecimalDigit value) = some value.val := by
  decide

theorem exists_spellsUnit (unit : CodeUnit) : ∃ body, SpellsUnit body unit := by
  have below : unit.val < 0x10000 := unit.isLt
  let values : List (Fin 16) :=
    [⟨unit.val / 0x1000, by omega⟩, ⟨unit.val / 0x100 % 0x10, by omega⟩,
      ⟨unit.val / 0x10 % 0x10, by omega⟩, ⟨unit.val % 0x10, by omega⟩]
  have areDigits : SpellsDigits (asciiDigit? 16) (values.map hexadecimalDigit)
      (values.map Fin.val) := by
    apply List.forall₂_map_left_iff.mpr
    apply List.forall₂_map_right_iff.mpr
    exact List.forall₂_same.mpr fun value _ => asciiDigit?_hexadecimalDigit value
  refine ⟨_, values.map hexadecimalDigit, rfl, rfl, values.map Fin.val, areDigits, ?_⟩
  simp only [values, List.map_cons, List.map_nil, ofDigits, List.foldl_cons, List.foldl_nil]
  omega

/-- A code unit that is spelled out is its own code point, be it a surrogate or not. -/
theorem SpellsUnit.decodes {body : Text} {unit : CodeUnit} (spells : SpellsUnit body unit) :
    decodeEscape body = .ok [CodePoint.ofUnit unit] := by
  obtain ⟨digits, rfl, four, areDigits⟩ := spells
  rw [decodeEscape_unit areDigits four, codePointText_of_lt (by omega)]
  rfl

theorem decodes_units (spell : List.Forall₂ SpellsUnit bodies units) :
    bodies.mapM decodeEscape = .ok (units.map fun unit => [CodePoint.ofUnit unit]) := by
  induction spell with
  | nil => rfl
  | cons spells _ ih =>
      rw [List.mapM_cons, spells.decodes, ih]
      rfl

theorem units_ofUnit (unit : CodeUnit) : (CodePoint.ofUnit unit).units = [unit] := by
  have small : (CodePoint.ofUnit unit).val < 0x10000 := unit.isLt
  rw [CodePoint.units, dif_pos small]
  rfl

theorem units_ofUnits (units : List CodeUnit) : (Text.ofUnits units).units = units := by
  rw [Text.ofUnits, Text.units_joinSurrogates, Text.units, List.flatMap_map]
  simp only [units_ofUnit, List.flatMap_singleton']

/--
Joining surrogate pairs gives the only canonical text with the code units of a text, and changes
nothing the second time. All code units can be spelled out by escape sequences, and however they
are, the text that the sequences stand for together has these units.
-/
theorem joinSurrogates_exact (text : Text) :
    (text.joinSurrogates.units = text.units ∧ text.joinSurrogates.IsCanonical ∧
      ∀ other : Text, other.units = text.units → other.IsCanonical →
        other = text.joinSurrogates) ∧
    text.joinSurrogates.joinSurrogates = text.joinSurrogates ∧
    ∀ units : List CodeUnit, (∃ bodies, List.Forall₂ SpellsUnit bodies units) ∧
      ∀ bodies, List.Forall₂ SpellsUnit bodies units →
        ∃ decoded, bodies.mapM decodeEscape = .ok decoded ∧
          (Text.joinSurrogates decoded.flatten).units = units := by
  refine ⟨⟨text.units_joinSurrogates, text.isCanonical_joinSurrogates, ?_⟩, ?_, ?_⟩
  · intro other same canonical
    exact Text.eq_joinSurrogates_iff.mpr ⟨same, canonical⟩
  · exact Text.joinSurrogates_of_isCanonical text.isCanonical_joinSurrogates
  · intro units
    constructor
    · choose body spells using exists_spellsUnit
      refine ⟨units.map body, ?_⟩
      rw [List.forall₂_map_left_iff, List.forall₂_same]
      exact fun unit _ => spells unit
    · intro bodies spell
      refine ⟨_, decodes_units spell, ?_⟩
      rw [← List.flatMap_def, ← List.map_eq_flatMap]
      exact units_ofUnits units

/-- Two halves that are spelled one by one, in either case, are joined; a third one stays. -/
theorem joinSurrogates_exact_of_halves :
    List.Forall₂ SpellsUnit ["ud83D", "uDE00", "ude00"] [0xD83D, 0xDE00, 0xDE00] ∧
      Text.IsCanonical [0x1F600, 0xDE00] ∧
      Text.joinSurrogates [0xD83D, 0xDE00, 0xDE00] = [0x1F600, 0xDE00] ∧
      ∃ decoded, (["ud83D", "uDE00", "ude00"] : List Text).mapM decodeEscape = .ok decoded ∧
        (Text.joinSurrogates decoded.flatten).units = [0xD83D, 0xDE00, 0xDE00] := by
  have first : SpellsUnit "ud83D" 0xD83D :=
    ⟨"d83D", rfl, rfl, [13, 8, 3, 13], .cons rfl (.cons rfl (.cons rfl (.cons rfl .nil))), rfl⟩
  have second : SpellsUnit "uDE00" 0xDE00 :=
    ⟨"DE00", rfl, rfl, [13, 14, 0, 0], .cons rfl (.cons rfl (.cons rfl (.cons rfl .nil))), rfl⟩
  have third : SpellsUnit "ude00" 0xDE00 :=
    ⟨"de00", rfl, rfl, [13, 14, 0, 0], .cons rfl (.cons rfl (.cons rfl (.cons rfl .nil))), rfl⟩
  have spell : List.Forall₂ SpellsUnit ["ud83D", "uDE00", "ude00"] [0xD83D, 0xDE00, 0xDE00] :=
    .cons first (.cons second (.cons third .nil))
  have canonical : Text.IsCanonical [0x1F600, 0xDE00] := ⟨by decide, trivial⟩
  have exact := joinSurrogates_exact [0xD83D, 0xDE00, 0xDE00]
  exact ⟨spell, canonical, (exact.1.2.2 _ (by decide) canonical).symm, (exact.2.2 _).2 _ spell⟩

end ComponentInliner.Script
