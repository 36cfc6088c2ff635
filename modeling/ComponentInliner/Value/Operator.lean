import ComponentInliner.Value.Conversion

/-!
# Operators on constant values

The unary and binary operators of the script language. `UnaryOperator.result?` and
`BinaryOperator.result?` give the value of an operator on constant operands; operators whose
value depends on more than their operands (`delete`, `in`, `instanceof`) have none.
-/

namespace ComponentInliner

inductive UnaryOperator where
  | plus
  | minus
  | not
  | complement
  | void
  | typeof
  | delete
  deriving DecidableEq, Repr

namespace UnaryOperator

def all : List UnaryOperator :=
  [.plus, .minus, .not, .complement, .void, .typeof, .delete]

def symbol : UnaryOperator → String
  | .plus => "+"
  | .minus => "-"
  | .not => "!"
  | .complement => "~"
  | .void => "void"
  | .typeof => "typeof"
  | .delete => "delete"

/-- The operator that is written in a given way. -/
def ofSymbol? (symbol : String) : Option UnaryOperator :=
  all.find? fun operator => operator.symbol = symbol

def result? (operator : UnaryOperator) (operand : Value) : Option Value :=
  match operator with
  | .plus => some (.number operand.toNumber)
  | .minus => some (.number (-operand.toNumber))
  | .not => some (.boolean !operand.truthy)
  | .complement => some (.number (Number.ofInteger (-operand.toInt32 - 1)))
  | .void => some .undefined
  | .typeof => some (.string operand.typeName.text)
  | .delete => none

end UnaryOperator

namespace Value

/-- Strict equality: equal type and value; arrays and objects are equal only to themselves. -/
def strictEquals : Value → Value → Bool
  | .undefined, .undefined => true
  | .null, .null => true
  | .boolean left, .boolean right => left = right
  | .number left, .number right => left == right
  | .string left, .string right => left = right
  | .array left _, .array right _ => left = right
  | .record left _, .record right _ => left = right
  | _, _ => false

/-- How many conversions the comparison of a value may still need. -/
def conversions : Value → Nat
  | .boolean _ | .array _ _ | .record _ _ => 1
  | .undefined | .null | .number _ | .string _ => 0

theorem conversions_toPrimitive (value : Value) (isObject : value.isObject = true) :
    value.toPrimitive.conversions < value.conversions := by
  cases value with
  | array | record => exact Nat.one_pos
  | undefined | null | boolean | number | string => cases isObject

/--
Loose equality. Values of one type are compared strictly, where `null` has a type of its own. The
nullish values are equal to each other and to nothing else. A boolean is compared as its number, an
object as its primitive value if the other side is no object, and a string as its number if the
other side is a number.
-/
def looselyEquals (left right : Value) : Bool :=
  if left.typeName = right.typeName ∧ left.isNull = right.isNull then
    strictEquals left right
  else if left.isNullish && right.isNullish then
    true
  else if left.isNullish || right.isNullish then
    false
  else
    match left, right with
    | .boolean flag, right => looselyEquals (.number (toNumber (.boolean flag))) right
    | left, .boolean flag => looselyEquals left (.number (toNumber (.boolean flag)))
    | .number double, .string text => double == Number.ofNumericString text
    | .string text, .number double => Number.ofNumericString text == double
    | left, right =>
        if _ : left.isObject = true ∧ right.isObject = false then
          looselyEquals left.toPrimitive right
        else if _ : right.isObject = true ∧ left.isObject = false then
          looselyEquals left right.toPrimitive
        else
          false
termination_by left.conversions + right.conversions
decreasing_by
  · exact Nat.add_lt_add_right Nat.one_pos _
  · exact Nat.add_lt_add_left Nat.one_pos _
  · next objects => exact Nat.add_lt_add_right (conversions_toPrimitive left objects.1) _
  · next objects => exact Nat.add_lt_add_left (conversions_toPrimitive right objects.1) _

/--
Whether one value is less than another: strings by their code units, all else by numbers. There
is no answer when a number involved is not a number.
-/
def lessThan? (left right : Value) : Option Bool :=
  match left.toPrimitive, right.toPrimitive with
  | .string leftText, .string rightText => some (leftText.highFirst < rightText.highFirst)
  | leftPrimitive, rightPrimitive =>
      let leftNumber := leftPrimitive.toNumber
      let rightNumber := rightPrimitive.toNumber
      if leftNumber.isNaN || rightNumber.isNaN then none else some (leftNumber < rightNumber)

/-- Addition: concatenation as soon as one primitive value is a string. -/
def add (left right : Value) : Value :=
  match left.toPrimitive, right.toPrimitive with
  | .string leftText, rightPrimitive => .string (leftText ++ rightPrimitive.toText)
  | leftPrimitive, .string rightText => .string (leftPrimitive.toText ++ rightText)
  | leftPrimitive, rightPrimitive => .number (leftPrimitive.toNumber + rightPrimitive.toNumber)

end Value

namespace Number

/-- The bits of either of two integers, in two's complement. -/
def bitOr : (left : Int) → (right : Nat) → Int
  | .ofNat left, right => (left ||| right : Nat)
  | .negSucc left, right => .negSucc (left ^^^ (left &&& right))

/-- The bits in which two integers differ, in two's complement. -/
def bitXor : (left : Int) → (right : Nat) → Int
  | .ofNat left, right => (left ^^^ right : Nat)
  | .negSucc left, right => .negSucc (left ^^^ right)

/-- The bits of both of two integers, in two's complement. -/
def bitAnd : (left : Int) → (right : Nat) → Int
  | .ofNat left, right => (left &&& right : Nat)
  | .negSucc left, right => (right ^^^ (right &&& left) : Nat)

/-- Shifts take their distance from the last five bits of a number. -/
def shiftDistance (right : Nat) : Nat :=
  right &&& 31

def shiftLeft (left : Int) (right : Nat) : Int :=
  Int.shiftLeft left (shiftDistance right)

def shiftRight (left : Int) (right : Nat) : Int :=
  Int.shiftRight left (shiftDistance right)

end Number

/--
An operation on the signed 32-bit integer of one value and the unsigned one of another. What comes
out may have more bits: it becomes a double, of which the signed 32-bit integer is taken.
-/
def Value.onInt32 (operation : Int → Nat → Int) (left right : Value) : Float :=
  let wide := Number.ofInteger (operation left.toInt32 right.toUint32)
  Number.ofInteger (toInt32 (.number wide))

/--
Exponentiation. It differs from the power function of arithmetic in that a base of size one with
an infinite exponent is not a number.
-/
def Number.power (base exponent : Float) : Float :=
  if exponent.isNaN then exponent
  else if exponent == 0 then 1.0
  else if base.isNaN then base
  else if base.abs == 1 && exponent.isInf then 0.0 / 0.0
  else Float.pow base exponent

inductive BinaryOperator where
  | add
  | subtract
  | multiply
  | divide
  | remainder
  | power
  | looselyEqual
  | looselyUnequal
  | strictlyEqual
  | strictlyUnequal
  | less
  | lessOrEqual
  | greater
  | greaterOrEqual
  | bitOr
  | bitXor
  | bitAnd
  | shiftLeft
  | shiftRight
  | shiftRightUnsigned
  | member
  | instanceOf
  deriving DecidableEq, Repr

namespace BinaryOperator

def all : List BinaryOperator :=
  [.add, .subtract, .multiply, .divide, .remainder, .power, .looselyEqual, .looselyUnequal,
    .strictlyEqual, .strictlyUnequal, .less, .lessOrEqual, .greater, .greaterOrEqual, .bitOr,
    .bitXor, .bitAnd, .shiftLeft, .shiftRight, .shiftRightUnsigned, .member, .instanceOf]

def symbol : BinaryOperator → String
  | .add => "+"
  | .subtract => "-"
  | .multiply => "*"
  | .divide => "/"
  | .remainder => "%"
  | .power => "**"
  | .looselyEqual => "=="
  | .looselyUnequal => "!="
  | .strictlyEqual => "==="
  | .strictlyUnequal => "!=="
  | .less => "<"
  | .lessOrEqual => "<="
  | .greater => ">"
  | .greaterOrEqual => ">="
  | .bitOr => "|"
  | .bitXor => "^"
  | .bitAnd => "&"
  | .shiftLeft => "<<"
  | .shiftRight => ">>"
  | .shiftRightUnsigned => ">>>"
  | .member => "in"
  | .instanceOf => "instanceof"

/-- The operator that is written in a given way. -/
def ofSymbol? (symbol : String) : Option BinaryOperator :=
  all.find? fun operator => operator.symbol = symbol

/-- The value of an operator on constant operands. -/
def result? (operator : BinaryOperator) (left right : Value) : Option Value :=
  match operator with
  | .add => some (left.add right)
  | .subtract => some (.number (left.toNumber - right.toNumber))
  | .multiply => some (.number (left.toNumber * right.toNumber))
  | .divide => some (.number (left.toNumber / right.toNumber))
  | .remainder => some (.number (Number.remainder left.toNumber right.toNumber))
  | .power => some (.number (Number.power left.toNumber right.toNumber))
  | .looselyEqual => some (.boolean (left.looselyEquals right))
  | .looselyUnequal => some (.boolean !left.looselyEquals right)
  | .strictlyEqual => some (.boolean (left.strictEquals right))
  | .strictlyUnequal => some (.boolean !left.strictEquals right)
  | .less => some (.boolean (left.lessThan? right = some true))
  | .lessOrEqual => some (.boolean (right.lessThan? left = some false))
  | .greater => some (.boolean (right.lessThan? left = some true))
  | .greaterOrEqual => some (.boolean (left.lessThan? right = some false))
  | .bitOr => some (.number (left.onInt32 Number.bitOr right))
  | .bitXor => some (.number (left.onInt32 Number.bitXor right))
  | .bitAnd => some (.number (left.onInt32 Number.bitAnd right))
  | .shiftLeft => some (.number (left.onInt32 Number.shiftLeft right))
  | .shiftRight => some (.number (left.onInt32 Number.shiftRight right))
  | .shiftRightUnsigned =>
      some (.number (Number.ofInteger
        (left.toUint32 >>> Number.shiftDistance right.toUint32 : Nat)))
  | .member | .instanceOf => none

end BinaryOperator

/-- Operators that may leave their right operand alone. -/
inductive LogicalOperator where
  | and
  | or
  | coalesce
  deriving DecidableEq, Repr

namespace LogicalOperator

def symbol : LogicalOperator → String
  | .and => "&&"
  | .or => "||"
  | .coalesce => "??"

/-- Whether the left operand alone decides the value. -/
def decidedBy (operator : LogicalOperator) (left : Value) : Bool :=
  match operator with
  | .and => !left.truthy
  | .or => left.truthy
  | .coalesce => !left.isNullish

end LogicalOperator

end ComponentInliner
