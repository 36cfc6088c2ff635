/-!
# Doubles as dyadic rationals

A finite double is a sign, a natural number and a power of two. `Number.parts?` reads the three
from the bits of a double. Truncation and the remainder are computed on them in exact integer
arithmetic, and `Number.ofDyadic` goes back.
-/

namespace ComponentInliner.Number

/-- Sign, significand and exponent of a finite double: its size is `significand * 2 ^ exponent`. -/
structure Parts where
  negative : Bool
  significand : Nat
  exponent : Int

/-- Whether the sign bit is set; a NaN has none. -/
def isNegative (number : Float) : Bool :=
  number.toBits >>> 63 = 1

def parts? (number : Float) : Option Parts :=
  let bits := number.toBits.toNat
  let biased : Nat := bits / Nat.pow 2 52 % Nat.pow 2 11
  let fraction : Nat := bits % Nat.pow 2 52
  let negative : Bool := bits / Nat.pow 2 63 = 1
  if biased = 2047 then
    none
  else if biased = 0 then
    some ⟨negative, fraction, -1074⟩
  else
    some ⟨negative, Nat.pow 2 52 + fraction, (biased : Int) - 1075⟩

/-- The double with a given sign and size `significand * 2 ^ exponent`, rounded to nearest. -/
def ofDyadic (negative : Bool) (significand : Nat) (exponent : Int) : Float :=
  let size := match exponent with
    | .ofNat shift => Float.ofScientific (significand * Nat.pow 2 shift) false 0
    | .negSucc shift => Float.ofScientific (significand * Nat.pow 5 (shift + 1)) true (shift + 1)
  if negative then -size else size

/-- The integer part of a finite double. -/
def truncate? (number : Float) : Option Int :=
  (parts? number).map fun parts =>
    let size : Nat := match parts.exponent with
      | .ofNat shift => parts.significand * Nat.pow 2 shift
      | .negSucc shift => parts.significand / Nat.pow 2 (shift + 1)
    if parts.negative then -(size : Int) else size

def isInteger (number : Float) : Bool :=
  match parts? number with
  | none => false
  | some parts => match parts.exponent with
    | .ofNat _ => true
    | .negSucc shift => parts.significand % Nat.pow 2 (shift + 1) = 0

/--
The remainder of a division truncated toward zero. It has the sign of the dividend and is exact;
it is not a number if the dividend is infinite or the divisor is zero.
-/
def remainder (dividend divisor : Float) : Float :=
  match parts? dividend with
  | none => 0.0 / 0.0
  | some left =>
      if divisor.isNaN || divisor == 0 then
        0.0 / 0.0
      else
        match parts? divisor with
        | none => dividend
        | some right =>
            let exponent := min left.exponent right.exponent
            let leftScaled := left.significand * Nat.pow 2 (left.exponent - exponent).toNat
            let rightScaled := right.significand * Nat.pow 2 (right.exponent - exponent).toNat
            ofDyadic left.negative (leftScaled % rightScaled) exponent

end ComponentInliner.Number
