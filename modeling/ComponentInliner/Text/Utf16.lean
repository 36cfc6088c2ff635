import ComponentInliner.Text.Utf8

/-!
# UTF-16 code units

Lengths, indices and the order of script strings count UTF-16 code units. `Text.units` gives the
units of a text: one for a code point below `0x10000`, a surrogate pair for the others. A text
is canonical when no high surrogate stands directly before a low one; `Text.joinSurrogates`
reads every such pair as the one code point it stands for, which keeps the units.

Texts are measured, cut and compared in their bytes. Each code unit has two, in either order:
`Text.lowFirst` is read at an index, and `Text.highFirst` is compared.
-/

namespace ComponentInliner

abbrev CodeUnit := Fin 0x10000

namespace CodePoint

def units (point : CodePoint) : List CodeUnit :=
  if small : point.val < 0x10000 then
    [⟨point.val, small⟩]
  else
    [⟨0xD800 + (point.val - 0x10000) / 0x400, by omega⟩,
      ⟨0xDC00 + (point.val - 0x10000) % 0x400, by omega⟩]

def ofPair (high low : CodePoint) : CodePoint :=
  ⟨0x10000 + (high.val - 0xD800) % 0x400 * 0x400 + (low.val - 0xDC00) % 0x400, by omega⟩

/-- The code point with the number of a code unit, a surrogate if the unit is one. -/
def ofUnit (unit : CodeUnit) : CodePoint :=
  ⟨unit.val, by omega⟩

end CodePoint

namespace CodeUnit

/-- The bytes of a code unit, the high one first. -/
def highFirst (unit : CodeUnit) : Text.Bytes :=
  [UInt8.ofNat (unit.val / 0x100), UInt8.ofNat (unit.val % 0x100)]

/-- The bytes of a code unit, the low one first. -/
def lowFirst (unit : CodeUnit) : Text.Bytes :=
  [UInt8.ofNat (unit.val % 0x100), UInt8.ofNat (unit.val / 0x100)]

def ofBytes (high low : UInt8) : CodeUnit :=
  ⟨high.toNat * 0x100 + low.toNat, by
    have := high.toNat_lt
    have := low.toNat_lt
    omega⟩

end CodeUnit

namespace Text

def units (text : Text) : List CodeUnit :=
  text.flatMap CodePoint.units

/-- Reads each high surrogate followed by a low one as a single code point, from the left. -/
def joinSurrogates : Text → Text
  | [] => []
  | [point] => [point]
  | high :: low :: rest =>
      if high.isHighSurrogate && low.isLowSurrogate then
        CodePoint.ofPair high low :: joinSurrogates rest
      else
        high :: joinSurrogates (low :: rest)

/-- No high surrogate stands directly before a low one. -/
def IsCanonical : Text → Prop
  | [] => True
  | [_] => True
  | first :: second :: rest =>
      ¬(first.isHighSurrogate = true ∧ second.isLowSurrogate = true) ∧ IsCanonical (second :: rest)

/-- The text in UTF-16, the high byte of each code unit first. -/
def highFirst (text : Text) : Bytes :=
  text.units.flatMap CodeUnit.highFirst

/-- The text in UTF-16, the low byte of each code unit first. -/
def lowFirst (text : Text) : Bytes :=
  text.units.flatMap CodeUnit.lowFirst

end Text

end ComponentInliner
