import ComponentInliner.Number.Dyadic
import ComponentInliner.Number.Numeral

/-!
# Shortest decimal texts of doubles

The text of a double has the fewest digits that read back as the same double; among texts of
that length the one nearest to the double is taken, and of two equally near ones the one with an
even last digit. `Number.shortest` finds the digits in exact integer arithmetic: for one digit,
two digits and so on it tests the two neighbours of the double on that decimal grid.

`Number.toText` lays the digits out: positional notation for a decimal exponent from -6 to 21,
and exponent notation with a signed exponent beyond.
-/

namespace ComponentInliner.Number

/-- A decimal number: `digits * 10 ^ exponent`. -/
structure Scaled where
  digits : Nat
  exponent : Int

def digitCount (number : Nat) : Nat :=
  (Nat.repr number).length

/--
The exponent `point` for which a positive rational is at least `10 ^ (point - 1)` and less than
`10 ^ point`.
-/
def decimalPoint (numerator denominator : Nat) : Int :=
  let guess : Int := digitCount numerator - digitCount denominator
  let reaches :=
    if guess ≥ 0 then numerator ≥ denominator * Nat.pow 10 guess.toNat
    else numerator * Nat.pow 10 (-guess).toNat ≥ denominator
  if reaches then guess + 1 else guess

/--
The neighbours of a rational on the grid of multiples of `10 ^ exponent`, the nearer one first
and of two equally near ones the even one.
-/
def gridNeighbours (numerator denominator : Nat) (exponent : Int) : Nat × Nat :=
  let (scaled, divisor) :=
    if exponent ≥ 0 then (numerator, denominator * Nat.pow 10 exponent.toNat)
    else (numerator * Nat.pow 10 (-exponent).toNat, denominator)
  let below := scaled / divisor
  let twice := 2 * (scaled % divisor)
  if twice < divisor ∨ (twice = divisor ∧ below % 2 = 0) then (below, below + 1)
  else (below + 1, below)

/-- Tests grids with more and more digits until a neighbour reads back as the number. -/
def searchShortest (number : Float) (numerator denominator : Nat) (point : Int) :
    (attempts count : Nat) → Scaled
  | 0, count =>
      let exponent := point - count
      ⟨(gridNeighbours numerator denominator exponent).1, exponent⟩
  | attempts + 1, count =>
      let exponent := point - count
      let (nearer, farther) := gridNeighbours numerator denominator exponent
      if ofDecimal nearer exponent == number then ⟨nearer, exponent⟩
      else if ofDecimal farther exponent == number then ⟨farther, exponent⟩
      else searchShortest number numerator denominator point attempts (count + 1)

/-- The shortest decimal number that reads back as a positive finite double. -/
def shortest (number : Float) (parts : Parts) : Scaled :=
  let (numerator, denominator) := match parts.exponent with
    | .ofNat shift => (parts.significand * Nat.pow 2 shift, 1)
    | .negSucc shift => (parts.significand, Nat.pow 2 (shift + 1))
  searchShortest number numerator denominator (decimalPoint numerator denominator) 800 1

def dropTrailingZeros (digits : Text) : Text :=
  (digits.reverse.dropWhile fun point : CodePoint => point = '0').reverse

def zeros (count : Nat) : Text :=
  List.replicate count (CodePoint.ofChar '0')

/--
Lays out the decimal number `0.digits * 10 ^ point`, whose digits neither begin nor end with a
zero.
-/
def layout (digits : Text) (point : Int) : Text :=
  let count : Int := digits.length
  if count ≤ point ∧ point ≤ 21 then
    digits ++ zeros (point - count).toNat
  else if 0 < point ∧ point ≤ 21 then
    digits.take point.toNat ++ "." ++ digits.drop point.toNat
  else if -6 < point ∧ point ≤ 0 then
    "0." ++ zeros (-point).toNat ++ digits
  else
    let exponent := point - 1
    let head : Text := if count > 1 then digits.take 1 ++ "." ++ digits.drop 1 else digits
    head ++ "e" ++ (if exponent ≥ 0 then "+" else "-" : String) ++ Text.ofNat exponent.natAbs

/--
The shortest digits of a positive finite double, without zeros at their end, and the exponent
`point` for which the double reads `0.digits * 10 ^ point`.
-/
def shortestDigits (number : Float) (parts : Parts) : Text × Int :=
  let scaled := shortest number parts
  let digits := Text.ofNat scaled.digits
  (dropTrailingZeros digits, scaled.exponent + digits.length)

def toText (number : Float) : Text :=
  match parts? number with
  | none =>
      if number.isNaN then "NaN" else if isNegative number then "-Infinity" else "Infinity"
  | some parts =>
      if parts.significand = 0 then
        "0"
      else
        let (digits, point) := shortestDigits number.abs parts
        let text := layout digits point
        if parts.negative then "-" ++ text else text

end ComponentInliner.Number
