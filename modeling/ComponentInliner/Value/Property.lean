import ComponentInliner.Value.Conversion

/-!
# Reading properties

Data properties of constant values: the own properties of an object, and `length` and the
elements of arrays and strings. A read that would reach a prototype has no constant result. The
elements of a string are its UTF-16 code units, which are cut out of its bytes; half of a surrogate
pair is no constant either.
-/

namespace ComponentInliner.Value

/-- The properties that every object inherits. -/
def inheritedNames : List Text :=
  ["constructor", "hasOwnProperty", "isPrototypeOf", "propertyIsEnumerable", "toLocaleString",
    "toString", "valueOf", "__proto__", "__defineGetter__", "__defineSetter__",
    "__lookupGetter__", "__lookupSetter__"]

/-- The most digits that an index may have. -/
def indexDigitLimit : Nat := 4300

/--
The digits of an index: a zero alone, or decimal digits of any script after a first digit from
`1` to `9`. One line feed may follow them.
-/
def indexDigits? (name : Text) : Option (List Nat) :=
  let (digits, after) := Number.takeDigits name
  if after = [] ∨ after = "\n" then
    match name with
    | first :: _ =>
        if first = '0' then (if digits.length = 1 then some digits else none)
        else if first.isBetween '1' '9' then some digits
        else none
    | [] => none
  else
    none

/-- The element of an array at an index; beyond the end it is undefined. -/
def elementAt (elements : List Value) (index : Nat) : Value :=
  elements.getD index .undefined

/-- The code unit of a string at an index as a string; beyond the end it is undefined. -/
def unitAt (text : Text) (index : Nat) : Except ValueFault Value :=
  match text.lowFirst.drop (2 * index) with
  | low :: high :: _ =>
      let point := CodePoint.ofUnit (CodeUnit.ofBytes high low)
      if point.isSurrogate then .error (.splitPair index) else .ok (.string [point])
  | _ => .ok .undefined

/--
A property of an array or a string: its length, or what stands at an index. `size` is the length
and `read` gives the element at an index.
-/
def indexedProperty (type : TypeName) (size : Nat) (read : Nat → Except ValueFault Value)
    (name : Text) : Except ValueFault Value :=
  if name = "length" then
    .ok (.number (Number.ofInteger size))
  else
    match indexDigits? name with
    | some digits =>
        if digits.length > indexDigitLimit then .error .indexTooLong
        else read (Number.ofDigits 10 digits)
    | none => .error (.variableProperty name type)

def getProperty (target key : Value) : Except ValueFault Value := do
  let name ← key.toPropertyKey
  match target with
  | .record _ properties =>
      match properties.get? name with
      | some value => .ok value
      | none =>
          if inheritedNames.contains name then .error (.inheritedProperty name) else .ok .undefined
  | .array _ elements =>
      indexedProperty .object elements.length (fun index => .ok (elementAt elements index)) name
  | .string text => indexedProperty .string (text.lowFirst.length / 2) (unitAt text) name
  | _ => .error (.noProperties name target.typeName)

end ComponentInliner.Value
