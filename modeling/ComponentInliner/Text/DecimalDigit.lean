import ComponentInliner.Text.Basic

/-!
# Decimal digits of all scripts

Numerals may be written with the decimal digits of any script. Each script's digits are ten
consecutive code points, so a table of the zeros determines every digit and its value
(general category Nd in version 14 of the Unicode standard).
-/

namespace ComponentInliner

/-- The digit zero of each script, in ascending order; U+0030 is the first. -/
def Text.digitZeros : List Nat := [
    48, 1632, 1776, 1984, 2406, 2534, 2662, 2790, 2918, 3046, 3174, 3302, 3430, 3558, 3664, 3792,
    3872, 4160, 4240, 6112, 6160, 6470, 6608, 6784, 6800, 6992, 7088, 7232, 7248, 42528, 43216,
    43264, 43472, 43504, 43600, 44016, 65296, 66720, 68912, 69734, 69872, 69942, 70096, 70384,
    70736, 70864, 71248, 71360, 71472, 71904, 72016, 72784, 73040, 73120, 92768, 92864, 93008,
    120782, 120792, 120802, 120812, 120822, 123200, 123632, 125264, 130032]

/-- The value of a decimal digit of any script. -/
def CodePoint.decimalDigit? (point : CodePoint) : Option Nat :=
  if point.isAsciiDigit then
    some (point.val - 48)
  else if point.val < 128 then
    none
  else
    (Text.digitZeros.find? fun first => first ≤ point.val && point.val ≤ first + 9).map
      fun first => point.val - first

def CodePoint.isDecimalDigit (point : CodePoint) : Bool :=
  point.decimalDigit?.isSome

end ComponentInliner
