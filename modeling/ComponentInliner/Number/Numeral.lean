import ComponentInliner.Text.Classes

/-!
# Reading numerals

Two kinds of numerals are read. A decimal numeral has digits, an optional fraction and an
optional exponent; its value is the double nearest to the rational it denotes. An integer
numeral in a radix may be surrounded by blanks, carry a sign and the prefix of its radix, and
separate digits by single underscores. The digits of both may come from any script.
-/

namespace ComponentInliner.Number

/--
The double nearest to `digits * 10 ^ exponent`. Powers beyond the range of doubles are decided
by the number of digits alone, so that a huge exponent costs nothing.
-/
def ofDecimal (digits : Nat) (exponent : Int) : Float :=
  if digits = 0 then
    0.0
  else
    let magnitude := (Nat.repr digits).length + exponent
    if magnitude > 400 then
      1.0 / 0.0
    else if magnitude < -400 then
      0.0
    else
      Float.ofScientific digits (exponent < 0) exponent.natAbs

/-- The number that a sequence of digit values denotes in a radix. -/
def ofDigits (radix : Nat) (digits : List Nat) : Nat :=
  digits.foldl (fun number digit => number * radix + digit) 0

/-- The longest run of decimal digits at the front of a text, as values, and what follows it. -/
def takeDigits : Text → List Nat × Text
  | [] => ([], [])
  | point :: rest =>
      match point.decimalDigit? with
      | none => ([], point :: rest)
      | some digit =>
          let (digits, after) := takeDigits rest
          (digit :: digits, after)

/-- The parts of a decimal numeral without sign. -/
structure Decimal where
  whole : List Nat
  fraction : List Nat
  exponent : Int

/-- The double nearest to a decimal numeral. -/
def Decimal.toFloat (decimal : Decimal) : Float :=
  ofDecimal (ofDigits 10 (decimal.whole ++ decimal.fraction))
    (decimal.exponent - decimal.fraction.length)

/-- Reads the exponent of a numeral, if the text begins with one. -/
def takeExponent? (text : Text) : Option (Int × Text) :=
  match text with
  | mark :: rest =>
      if mark = 'e' ∨ mark = 'E' then
        let (negative, unsigned) : Bool × Text := match rest with
          | sign :: more =>
              if sign = '-' then (true, more)
              else if sign = '+' then (false, more)
              else (false, rest)
          | [] => (false, [])
        match takeDigits unsigned with
        | ([], _) => none
        | (digits, after) =>
            let size : Int := ofDigits 10 digits
            some (if negative then -size else size, after)
      else
        none
  | [] => none

/--
Reads a decimal numeral at the front of a text: digits with an optional point, or a point and
digits, and then an optional exponent. Digits are needed on one side of the point.
-/
def takeDecimal? (text : Text) : Option (Decimal × Text) :=
  let (whole, afterWhole) := takeDigits text
  let mantissa : Option (List Nat × Text) := match afterWhole with
    | point :: rest =>
        if point = '.' then
          let (fraction, after) := takeDigits rest
          if whole.isEmpty && fraction.isEmpty then none else some (fraction, after)
        else if whole.isEmpty then none else some ([], afterWhole)
    | [] => if whole.isEmpty then none else some ([], [])
  mantissa.map fun (fraction, after) =>
    match takeExponent? after with
    | some (exponent, rest) => (⟨whole, fraction, exponent⟩, rest)
    | none => (⟨whole, fraction, 0⟩, after)

/--
Reads a text that is a decimal numeral and nothing else; one line feed may follow the numeral.
-/
def readDecimal? (text : Text) : Option Decimal :=
  match takeDecimal? text with
  | some (decimal, []) => some decimal
  | some (decimal, [last]) => if last = '\n' then some decimal else none
  | _ => none

/-- The value of a digit or letter as a digit of radix at most 36. -/
def digitIn? (radix : Nat) (point : CodePoint) : Option Nat :=
  let value : Option Nat := match point.decimalDigit? with
    | some digit => some digit
    | none => if point.isAsciiLetter then some (point.asciiLower.val - 87) else none
  value.bind fun digit => if digit < radix then some digit else none

/-- The prefix letter of the radices 16, 8 and 2. -/
def radixLetter? : Nat → Option Char
  | 16 => some 'x'
  | 8 => some 'o'
  | 2 => some 'b'
  | _ => none

/-- Digits of a radix with at most one underscore between neighbours; nothing else may follow. -/
def separatedDigits? (radix : Nat) : Text → Option (List Nat)
  | [] => none
  | [point] => (digitIn? radix point).map ([·])
  | point :: next :: rest =>
      match digitIn? radix point with
      | none => none
      | some digit =>
          if next = '_' then
            (separatedDigits? radix rest).map (digit :: ·)
          else
            (separatedDigits? radix (next :: rest)).map (digit :: ·)

/-- Drops the prefix of a radix (`0x`, `0o`, `0b` in either case) and one underscore after it. -/
def dropRadixPrefix (radix : Nat) (text : Text) : Text :=
  match text, radixLetter? radix with
  | leading :: letter :: rest, some expected =>
      if leading.decimalDigit? = some 0 ∧ letter.asciiLower = expected then
        match rest with
        | separator :: digits => if separator = '_' then digits else rest
        | [] => []
      else
        text
  | _, _ => text

/--
Reads an integer numeral in a radix: blanks, a sign, the prefix of the radix and digits with
single underscores between them.
-/
def readInteger? (radix : Nat) (text : Text) : Option Int :=
  let trimmed := text.trimBoth CodePoint.isNumeralBlank
  let (negative, unsigned) : Bool × Text := match trimmed with
    | sign :: rest =>
        if sign = '-' then (true, rest) else if sign = '+' then (false, rest) else (false, trimmed)
    | [] => (false, [])
  (separatedDigits? radix (dropRadixPrefix radix unsigned)).map fun digits =>
    let size : Int := ofDigits radix digits
    if negative then -size else size

/-- The radix that a text announces by its first two characters. -/
def announcedRadix? (text : Text) : Option Nat :=
  match text with
  | leading :: letter :: _ =>
      if leading = '0' then
        if letter.asciiLower = 'x' then some 16
        else if letter.asciiLower = 'o' then some 8
        else if letter.asciiLower = 'b' then some 2
        else none
      else
        none
  | _ => none

/-- The double nearest to an integer, infinite beyond the range of doubles. -/
def ofInteger (integer : Int) : Float :=
  let size := ofDecimal integer.natAbs 0
  if integer < 0 then -size else size

end ComponentInliner.Number
