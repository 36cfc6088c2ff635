import ComponentInliner.Value.Conversion

/-!
# Calls with constant results

The few global functions whose calls are folded. Each is a function of its folded arguments; an
array or object that a call makes gets the place of the call as its origin.
-/

namespace ComponentInliner

/-- The global functions that are folded. -/
inductive ConstantCall where
  | objectAssign
  | objectFreeze
  | arrayFrom
  | string
  | number
  | boolean
  deriving DecidableEq, Repr

namespace ConstantCall

def all : List ConstantCall :=
  [.objectAssign, .objectFreeze, .arrayFrom, .string, .number, .boolean]

/-- The global object that a function is reached from. -/
def root : ConstantCall → String
  | .objectAssign | .objectFreeze => "Object"
  | .arrayFrom => "Array"
  | .string => "String"
  | .number => "Number"
  | .boolean => "Boolean"

def name : ConstantCall → String
  | .objectAssign => "Object.assign"
  | .objectFreeze => "Object.freeze"
  | .arrayFrom => "Array.from"
  | .string => "String"
  | .number => "Number"
  | .boolean => "Boolean"

def ofName? (name : Text) : Option ConstantCall :=
  all.find? fun call => Text.ofString call.name = name

/-- The properties of a value that is an object, and none of any other value. -/
def ownProperties : Value → OrderedMap Text Value
  | .record _ properties => properties
  | _ => .empty

/-- The value of a call at `origin` on constant arguments. -/
def result (call : ConstantCall) (origin : Span) (arguments : List Value) :
    Except ValueFault Value :=
  let first := arguments.headD .undefined
  match call with
  | .objectAssign =>
      .ok (.record origin (arguments.tail.foldl
        (fun merged source => merged.insertAll (ownProperties source)) (ownProperties first)))
  | .objectFreeze => .ok first
  | .arrayFrom =>
      match first with
      | .array _ elements => .ok (.array origin elements)
      | .string text => .ok (.array origin (text.map fun point => .string [point]))
      | _ => .error .notArrayLike
  | .string => .ok (.string (if first.isNullish then [] else first.toText))
  | .number => .ok (.number (if arguments.isEmpty then 0.0 else first.toNumber))
  | .boolean => .ok (.boolean first.truthy)

end ConstantCall

end ComponentInliner
