import ComponentInliner.Number.Shortest
import ComponentInliner.Text.Utf16
import ComponentInliner.Value.Basic

/-!
# Conversions of constant values

Truth value, text, number, 32-bit integer, primitive value and property key of a constant value,
by the rules of the script language. Numeric strings may also use the decimal digits of other
scripts, and what follows a radix prefix is read as an integer numeral of that radix; an integer
beyond the range of doubles counts as positive infinity, whatever its sign.
-/

namespace ComponentInliner

namespace Number

/-- The number that a numeric string denotes, or not-a-number. -/
def ofNumericString (text : Text) : Float :=
  let trimmed := text.trimBoth CodePoint.isScriptBlank
  if trimmed.isEmpty then
    0.0
  else
    match announcedRadix? trimmed with
    | some radix =>
        match readInteger? radix (trimmed.drop 2) with
        | some integer =>
            let number := ofInteger integer
            if number.isInf then 1.0 / 0.0 else number
        | none => 0.0 / 0.0
    | none =>
        let (negative, unsigned) : Bool × Text := match trimmed with
          | sign :: rest =>
              if sign = '-' then (true, rest)
              else if sign = '+' then (false, rest)
              else (false, trimmed)
          | [] => (false, [])
        let size : Option Float :=
          if unsigned = "Infinity" then some (1.0 / 0.0)
          else (readDecimal? unsigned).map Decimal.toFloat
        match size with
        | some size => if negative then -size else size
        | none => 0.0 / 0.0

end Number

namespace Value

def truthy : Value → Bool
  | .undefined | .null => false
  | .boolean flag => flag
  | .number double => !(double == 0 || double.isNaN)
  | .string text => !text.isEmpty
  | .array _ _ | .record _ _ => true

mutual

def toText : Value → Text
  | .undefined => "undefined"
  | .null => "null"
  | .boolean flag => if flag then "true" else "false"
  | .number double => Number.toText double
  | .string text => text
  | .array _ elements => elementTexts elements
  | .record _ _ => "[object Object]"

/-- The texts of array elements with commas between them; nullish elements leave no text. -/
def elementTexts : List Value → Text
  | [] => []
  | [element] => if element.isNullish then [] else toText element
  | element :: next :: rest =>
      (if element.isNullish then [] else toText element) ++ "," ++ elementTexts (next :: rest)

end

/-- The primitive value of an array or object is its text. -/
def toPrimitive : Value → Value
  | value@(.array _ _) | value@(.record _ _) => .string value.toText
  | value => value

def toNumber : Value → Float
  | .undefined => 0.0 / 0.0
  | .null => 0.0
  | .boolean flag => if flag then 1.0 else 0.0
  | .number double => double
  | .string text => Number.ofNumericString text
  | value@(.array _ _) | value@(.record _ _) => Number.ofNumericString value.toText

def toUint32 (value : Value) : Nat :=
  match Number.truncate? value.toNumber with
  | some integer => (integer % 0x100000000).toNat
  | none => 0

/-- The signed reading of an unsigned 32-bit integer. -/
def signed32 (unsigned : Nat) : Int :=
  if unsigned ≥ 0x80000000 then unsigned - 0x100000000 else unsigned

def toInt32 (value : Value) : Int :=
  signed32 value.toUint32

/-- The property key of a string or a number. -/
def toPropertyKey : Value → Except ValueFault Text
  | .string text => .ok text
  | .number double => .ok (Number.toText double)
  | value => .error (.unsupportedKey value.typeName)

end Value

end ComponentInliner
