import ComponentInliner.OrderedMap
import ComponentInliner.Text.Basic

/-!
# Constant values

The values that an expression of a component module can fold to: the primitive values of the
script language, arrays and plain objects. Functions, symbols and big integers are not among
them; an expression with such a value has no constant.

Arrays and objects are compared by identity. An object is made by one expression of the module,
and folding makes it once, so the place of that expression in the source identifies it.
-/

namespace ComponentInliner

/-- A stretch of source text, as offsets into its UTF-8 bytes. -/
structure Span where
  start : Nat
  stop : Nat
  deriving DecidableEq, Repr, Inhabited

/-- A constant value of the script language. -/
inductive Value where
  | undefined
  | null
  | boolean (flag : Bool)
  | number (number : Float)
  | string (text : Text)
  /-- An array, made by the expression at `origin`. -/
  | array (origin : Span) (elements : List Value)
  /-- A plain object, made by the expression at `origin`. -/
  | record (origin : Span) (properties : OrderedMap Text Value)
  deriving Inhabited

/-- The answers of the `typeof` operator on constant values. -/
inductive TypeName where
  | undefined
  | boolean
  | number
  | string
  | object
  deriving DecidableEq, Repr

def TypeName.text : TypeName → String
  | .undefined => "undefined"
  | .boolean => "boolean"
  | .number => "number"
  | .string => "string"
  | .object => "object"

namespace Value

/-- The type of a value; `null` counts as an object. -/
def typeName : Value → TypeName
  | .undefined => .undefined
  | .boolean _ => .boolean
  | .number _ => .number
  | .string _ => .string
  | .null | .array _ _ | .record _ _ => .object

def isNull : Value → Bool
  | .null => true
  | _ => false

/-- `null` and `undefined`. -/
def isNullish : Value → Bool
  | .undefined | .null => true
  | _ => false

def isNumber : Value → Bool
  | .number _ => true
  | _ => false

/-- Plain objects, arrays excluded. -/
def isRecord : Value → Bool
  | .record _ _ => true
  | _ => false

/-- Arrays and plain objects. -/
def isObject : Value → Bool
  | .array _ _ | .record _ _ => true
  | _ => false

def text? : Value → Option Text
  | .string text => some text
  | _ => none

end Value

/-- Why an operation on constant values has no constant result. -/
inductive ValueFault where
  | unsupportedKey (type : TypeName)
  /-- A property that an object only has through its prototype. -/
  | inheritedProperty (name : Text)
  /-- A property of an array or a string that is not a constant. -/
  | variableProperty (name : Text) (type : TypeName)
  | noProperties (name : Text) (type : TypeName)
  /-- A string index at one half of a surrogate pair, or at a surrogate on its own. -/
  | splitPair (index : Nat)
  | notArrayLike
  /-- An index with more digits than a numeral may have. -/
  | indexTooLong
  deriving DecidableEq, Repr

def ValueFault.message : ValueFault → Text
  | .unsupportedKey type => "Unsupported property key type " ++ type.text
  | .inheritedProperty name => "Property '" ++ name ++ "' is inherited"
  | .variableProperty name type =>
      "Property '" ++ name ++ "' of " ++ type.text ++ " is not a constant"
  | .noProperties name type => "Cannot read '" ++ name ++ "' of a " ++ type.text
  | .splitPair index => "Index " ++ Text.ofNat index ++ " splits a surrogate pair"
  | .notArrayLike => "Array.from() accepts only arrays and strings"
  | .indexTooLong => "Index has too many digits"

end ComponentInliner
