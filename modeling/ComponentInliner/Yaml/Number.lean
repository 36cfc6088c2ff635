import ComponentInliner.Number.Numeral

/-!
# Numbers of YAML texts

Integers are binary, octal, decimal, hexadecimal or sexagesimal; other numbers have a point. Both
may have underscores between their digits. Recognizing a number and reading it are apart, since a
tag may ask for a number where a text does not look like one.
-/

namespace ComponentInliner.Yaml

def isDigitOrUnderscore (point : CodePoint) : Bool :=
  point.isAsciiDigit || point = '_'

/-- The sign that a text begins with, as whether it is a minus sign, and the rest. -/
def splitSign (text : Text) : Bool × Text :=
  match text with
  | [] => (false, [])
  | point :: rest =>
      if point = '-' then (true, rest) else if point = '+' then (false, rest) else (false, text)

/-- Whether a text is a digit followed by digits and underscores. -/
def isCount (text : Text) : Bool :=
  text.head?.any CodePoint.isAsciiDigit && text.all isDigitOrUnderscore

/-- Whether a text is a number below sixty of one or two digits. -/
def isSixtieth : Text → Bool
  | [digit] => digit.isAsciiDigit
  | [ten, digit] => ten.isBetween '0' '5' && digit.isAsciiDigit
  | _ => false

/-- Whether a text is a count followed by sixtieths, with colons between them. -/
def isSexagesimal (text : Text) : Bool :=
  match Text.splitOnPoint ':' text with
  | first :: second :: others => isCount first && (second :: others).all isSixtieth
  | _ => false

/-- Whether a text is empty or the exponent of a number, which has a sign. -/
def isExponentOrEmpty : Text → Bool
  | [] => true
  | mark :: sign :: digits =>
      (mark = 'e' || mark = 'E') && (sign = '-' || sign = '+') && !digits.isEmpty &&
        digits.all CodePoint.isAsciiDigit
  | _ => false

def looksLikeNumber (text : Text) : Bool :=
  let infinities : List Text := ["inf", "Inf", "INF"]
  let notNumbers : List Text := [".nan", ".NaN", ".NAN"]
  match Text.splitFirst? "." (splitSign text).2 with
  | none => false
  | some (whole, rest) =>
      let endsWell := isExponentOrEmpty (rest.dropWhile isDigitOrUnderscore)
      let hasFraction := rest.head?.any CodePoint.isAsciiDigit
      (isCount whole && endsWell) ||
        (text.head? = some '.' && hasFraction && endsWell) ||
        (isSexagesimal whole && rest.all isDigitOrUnderscore) ||
        (whole.isEmpty && rest ∈ infinities) || text ∈ notNumbers

def looksLikeInteger (text : Text) : Bool :=
  let unsigned := (splitSign text).2
  let hasDigitsAfter (start : Text) (accepts : CodePoint → Bool) : Bool :=
    (Text.dropPrefix? start unsigned).any fun digits =>
      !digits.isEmpty && digits.all fun point => accepts point || point = '_'
  let isHexadecimal (point : CodePoint) : Bool :=
    point.isAsciiDigit || point.asciiLower.isBetween 'a' 'f'
  hasDigitsAfter "0b" (CodePoint.isBetween '0' '1') ||
    hasDigitsAfter "0" (CodePoint.isBetween '0' '7') || unsigned = "0" ||
    hasDigitsAfter "0x" isHexadecimal ||
    (unsigned.head?.any (CodePoint.isBetween '1' '9') &&
      (isCount unsigned || isSexagesimal unsigned))

def withoutUnderscores (text : Text) : Text :=
  text.filter fun point : CodePoint => point ≠ '_'

/-- How many digits a decimal integer may have. -/
def decimalDigitLimit : Nat := 4300

def decimalInteger? (text : Text) : Option Int :=
  if (text.filter CodePoint.isDecimalDigit).length > decimalDigitLimit then none
  else Number.readInteger? 10 text

/-- The integer that a text without sign and underscores spells. -/
def unsignedInteger? (text : Text) : Option Int :=
  if text = "0" then some 0
  else if text.startsWith "0b" then Number.readInteger? 2 (text.drop 2)
  else if text.startsWith "0x" then Number.readInteger? 16 (text.drop 2)
  else if text.head? = some '0' then Number.readInteger? 8 text
  else do
    let places ← (Text.splitOnPoint ':' text).mapM decimalInteger?
    return places.foldl (fun number place => number * 60 + place) 0

def integer? (text : Text) : Option Int := do
  let (isNegative, unsigned) := splitSign (withoutUnderscores text)
  let magnitude ← unsignedInteger? unsigned
  return if isNegative then -magnitude else magnitude

/-- The number that a text without sign spells in decimal, with blanks around it or without. -/
def decimalNumber? (text : Text) : Option Float :=
  (Number.readDecimal? (text.trimBoth CodePoint.isNumeralBlank)).map Number.Decimal.toFloat

/-- The number with given sexagesimal places, the last one first. -/
def ofPlaces (places : List Float) : Float :=
  (places.foldl (fun (number, base) place => (number + place * base, base * 60)) (0.0, 1.0)).1

def number? (text : Text) : Option Float := do
  let (isNegative, unsigned) := splitSign ((withoutUnderscores text).map CodePoint.asciiLower)
  let magnitude ←
    if unsigned = ".inf" then some (1.0 / 0.0)
    else if unsigned = ".nan" then some (0.0 / 0.0)
    else if (CodePoint.ofChar ':') ∈ unsigned then do
      return ofPlaces (← (Text.splitOnPoint ':' unsigned).mapM decimalNumber?).reverse
    else
      decimalNumber? unsigned
  return if isNegative then -magnitude else magnitude

end ComponentInliner.Yaml
