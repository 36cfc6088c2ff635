import ComponentInliner.Text.DecimalDigit
import ComponentInliner.Text.WordRanges

/-!
# Classes of code points

Four classes decide what is cut, collapsed or matched: the blanks of plain text, the blanks that
may surround an integer numeral, the white space of the script language, and the characters of
words. They differ in a few code points each, so each has its own definition.
-/

namespace ComponentInliner.CodePoint

/--
White space of plain text: the Unicode white space and the four information separators
U+001C to U+001F. Style sheets and documents are trimmed and collapsed by this class.
-/
def isBlank (point : CodePoint) : Bool :=
  let number := point.val
  (9 ≤ number && number ≤ 13) || (28 ≤ number && number ≤ 32) || number = 0x85 || number = 0xA0 ||
    number = 0x1680 || (0x2000 ≤ number && number ≤ 0x200A) || number = 0x2028 ||
    number = 0x2029 || number = 0x202F || number = 0x205F || number = 0x3000

/-- White space that may stand before and after an integer numeral: no information separators. -/
def isNumeralBlank (point : CodePoint) : Bool :=
  point.isBlank && !(28 ≤ point.val && point.val ≤ 31)

/-- White space and line terminators of the script language. -/
def isScriptBlank (point : CodePoint) : Bool :=
  let number := point.val
  (9 ≤ number && number ≤ 13) || number = 32 || number = 0xA0 || number = 0x1680 ||
    (0x2000 ≤ number && number ≤ 0x200A) || number = 0x2028 || number = 0x2029 ||
    number = 0x202F || number = 0x205F || number = 0x3000 || number = 0xFEFF

/-- Letters and numerals of any script, and the underscore. -/
def isWord (point : CodePoint) : Bool :=
  if point.val < 128 then
    point.isAsciiLetter || point.isAsciiDigit || point.val = 95
  else
    Text.wordRanges.any fun (first, last) => first ≤ point.val && point.val ≤ last

end ComponentInliner.CodePoint
