import ComponentInliner.Module.Equality
import ComponentInliner.Module.Tables
import ComponentInliner.Value.Call
import ComponentInliner.Value.Property

/-!
# Constant folding

A `Folder` folds expressions of a module to constant values without running any of its code. An
expression that is not understood, and an operation without a constant result, has no value, and
then neither has any expression that needs it. A name stands for the value of its definition; a
name whose definition needs the name itself has no value.

The outcome of each expression and of each name is kept once it is known. `foldWith` says how an
expression is folded when its parts are folded by `self`; `fold` ties the knot with a bound on
nesting, beyond which an expression has no value. The operators of a left-nested chain are folded
from the inside, so that a chain nests no deeper than its operands however long it is.
-/

namespace ComponentInliner

/-- What is known so far: a value, or that there is none. -/
structure FoldMemo where
  nodes : OrderedMap Node (Option Value)
  names : OrderedMap Text (Option Value)

def FoldMemo.empty : FoldMemo := ⟨.empty, .empty⟩

/--
Folding keeps what it finds out. It is cut short by a string index with more digits than a numeral
may have; what was found out until then stays known.
-/
abbrev FoldM := ExceptT ValueFault (StateM FoldMemo)

namespace Fold

/-- How deep folding may nest. -/
def nestingLimit : Nat := 400

/-- Names that are defined outside all modules. -/
def globalConstant? (name : Text) : Option Value :=
  if name = "NaN" then some (.number (0.0 / 0.0))
  else if name = "Infinity" then some (.number (1.0 / 0.0))
  else none

/-- The value of an operation, if it has a constant result. -/
def settle (outcome : Except ValueFault Value) : FoldM (Option Value) :=
  match outcome with
  | .ok value => pure (some value)
  | .error .indexTooLong => throw .indexTooLong
  | .error _ => pure none

def literalValue? : Literal → Option Value
  | .null => some .null
  | .boolean flag => some (.boolean flag)
  | .number double => some (.number double)
  | .string text => some (.string text)
  | .bigInteger | .regularExpression => none

/-- The qualified name of a callee: a name, or a name and a property that is spelled out. -/
def calleeName? : Node → Option Text
  | .identifier _ name => some name
  | .member _ (.identifier _ owner) property isComputed false =>
      match isComputed, property with
      | false, .identifier _ name => some (owner ++ "." ++ name)
      | true, .literal _ (.string name) _ => some (owner ++ "." ++ name)
      | _, _ => none
  | _ => none

/-- The folded function that a callee names, unless the module declares the root of the name. -/
def calledFunction? (bindings : BindingTable) (callee : Node) : Option ConstantCall := do
  let name ← calleeName? callee
  let function ← ConstantCall.ofName? name
  if bindings.contains (Text.ofString function.root) then none else some function

def hasConstants : BinaryOperator → Bool
  | .member | .instanceOf => false
  | _ => true

/-- What is folded for an array element or an argument: a spread stands for what it spreads. -/
def elementOperand : Node → Node
  | .spread _ argument => argument
  | node => node

/-- The values that an element or an argument with a given value adds; a spread is expanded. -/
def elementValues? : Node → Value → Option (List Value)
  | .spread _ _, .array _ elements => some elements
  | .spread _ _, .string text => some (text.map fun point => .string [point])
  | .spread _ _, _ => none
  | _, value => some [value]

/-- The key that is written for a property, unless it is computed. -/
def writtenKey? : Node → Option Value
  | .identifier _ name => some (.string name)
  | .literal _ (.string text) _ => some (.string text)
  | .literal _ (.number double) _ => some (.number double)
  | _ => none

/-- The name after the dot of a property access. -/
def writtenName? : Node → Option Value
  | .identifier _ name => some (.string name)
  | _ => none

/-- The text that a value leaves in a template. -/
def substitutedText (value : Value) : Text :=
  if value.isNullish then [] else value.toText

/--
The operators of a left-nested chain that ends in an expression, the innermost first, down to one
whose outcome is known. `outer` are those around the expression.
-/
def pendingOperators (isKnown : Node → Bool) (outer : List Node) : Node → List Node
  | .binary span operator left right =>
      if isKnown (.binary span operator left right) then outer
      else pendingOperators isKnown (.binary span operator left right :: outer) left
  | .logical span operator left right =>
      if isKnown (.logical span operator left right) then outer
      else pendingOperators isKnown (.logical span operator left right :: outer) left
  | _ => outer

variable (self : Node → FoldM (Option Value))

/-- Folds expressions one after another for the sake of what is known afterwards. -/
def foldEach : List Node → FoldM Unit
  | [] => return ()
  | node :: rest => do
      let _ ← self node
      foldEach rest

/-- The value of the left operand of an operator, whose own operators are folded first. -/
def foldLeft (left : Node) : FoldM (Option Value) := do
  let known := (← get).nodes
  foldEach self (pendingOperators known.contains [] left)
  self left

def foldBinary (operator : BinaryOperator) (left right : Node) : FoldM (Option Value) := do
  let leftValue ← foldLeft self left
  let rightValue ← self right
  return leftValue.bind fun leftConstant => rightValue.bind (operator.result? leftConstant)

/-- The value of an operator that may leave its right operand alone. -/
def foldLogical (operator : LogicalOperator) (left right : Node) : FoldM (Option Value) := do
  match ← foldLeft self left with
  | none => return none
  | some value => if operator.decidedBy value then return some value else self right

/-- The values of array elements or arguments; a hole is undefined and spreads are expanded. -/
def foldElements : List (Option Node) → FoldM (Option (List Value))
  | [] => return some []
  | none :: rest => do
      return (← foldElements rest).map (.undefined :: ·)
  | some node :: rest => do
      match (← self (elementOperand node)).bind (elementValues? node) with
      | some values => return (← foldElements rest).map (values ++ ·)
      | none => return none

/-- The key of a property, if it is a constant string or number. -/
def foldKey (key : Node) (isComputed : Bool) : FoldM (Option Text) := do
  let value ← if isComputed then self key else pure (writtenKey? key)
  return value.bind fun constant => constant.toPropertyKey.toOption

/-- The properties of an object literal, added to those before them. -/
def foldProperties (properties : OrderedMap Text Value) :
    List Property → FoldM (Option (OrderedMap Text Value))
  | [] => return some properties
  | .pair _ key isComputed node :: rest => do
      match ← foldKey self key isComputed with
      | none => return none
      | some name =>
          match ← self node with
          | some value => foldProperties (properties.insert name value) rest
          | none => return none
  | .shorthand span name :: rest => do
      match ← self (.identifier span name) with
      | some value => foldProperties (properties.insert name value) rest
      | none => return none
  | .spread _ argument :: rest => do
      match ← self argument with
      | some (.record _ added) => foldProperties (properties.insertAll added) rest
      | _ => return none
  | .method _ _ :: _ => return none

/-- The text of a template from its first text and the substitutions after it. -/
def foldTemplate (text : Text) : List (Node × Text) → FoldM (Option Text)
  | [] => return some text
  | (substitution, following) :: rest => do
      match ← self substitution with
      | some value => foldTemplate (text ++ substitutedText value ++ following) rest
      | none => return none

def foldMember (owner property : Node) (isComputed : Bool) : FoldM (Option Value) := do
  match ← self owner with
  | none => return none
  | some target =>
      if target.isNullish then
        return none
      else
        match ← (if isComputed then self property else pure (writtenName? property)) with
        | some key => settle (target.getProperty key)
        | none => return none

/-- The value of a call, if the callee names a function that is folded. -/
def foldCall (bindings : BindingTable) (span : Span) (callee : Node) (arguments : List Node) :
    FoldM (Option Value) := do
  match calledFunction? bindings callee with
  | none => return none
  | some function =>
      match ← foldElements self (arguments.map some) with
      | some values => settle (function.result span values)
      | none => return none

def foldDefinition (definition : Definition) : FoldM (Option Value) :=
  match definition with
  | .expression node => self node
  | .function _ | .classLike _ => return none

/-- How an expression is folded when its parts are folded by `self`. -/
def foldWith (bindings : BindingTable) (name : Text → FoldM (Option Value)) :
    Node → FoldM (Option Value)
  | .literal _ literal _ => return literalValue? literal
  | .identifier _ text => name text
  | .template _ head parts => do return (← foldTemplate self head parts).map .string
  | .array span elements => do
      return (← foldElements self elements).map (.array span)
  | .object span properties => do
      return (← foldProperties self .empty properties).map (.record span)
  | .unary _ operator argument => do
      if operator = .delete then return none
      else return (← self argument).bind operator.result?
  | .binary _ operator left right =>
      if hasConstants operator then foldBinary self operator left right else return none
  | .logical _ operator left right => foldLogical self operator left right
  | .conditional _ test consequent alternate => do
      match ← self test with
      | some value => self (if value.truthy then consequent else alternate)
      | none => return none
  | .member _ owner property isComputed isOptional =>
      if isOptional then return none else foldMember self owner property isComputed
  | .call span callee arguments isOptional =>
      if isOptional then return none else foldCall self bindings span callee arguments
  | .spread _ _ | .arrow _ _ | .function _ _ _ | .unsupported _ _ => return none

/--
The value of a name. While it is found, the name counts as being resolved; a name that is needed
to resolve itself has no value.
-/
def foldName (selfWith : List Text → Node → FoldM (Option Value)) (bindings : BindingTable)
    (resolving : List Text) (name : Text) : FoldM (Option Value) := do
  if name = "undefined" then
    return some .undefined
  else
    match (← get).names.get? name with
    | some known => return known
    | none =>
        if resolving.contains name then
          return none
        else
          match bindings.get? name with
          | none => return globalConstant? name
          | some definition => do
              let value ← foldDefinition (selfWith (name :: resolving)) definition
              modify fun memo => { memo with names := memo.names.insert name value }
              return value

/-- Folds an expression that nests at most as deep as a limit, unless its outcome is known. -/
def fold (bindings : BindingTable) :
    (limit : Nat) → (resolving : List Text) → Node → FoldM (Option Value)
  | 0, _, _ => return none
  | limit + 1, resolving, node => do
      match (← get).nodes.get? node with
      | some known => return known
      | none => do
          let value ← foldWith (fold bindings limit resolving) bindings
            (foldName (fold bindings limit) bindings resolving) node
          modify fun memo => { memo with nodes := memo.nodes.insert node value }
          return value

end Fold

/-- A constant folder over the bindings of one module, with what it knows. -/
structure Folder where
  bindings : BindingTable
  limit : Nat
  memo : FoldMemo

namespace Folder

/-- A folder that knows nothing yet. -/
def within (limit : Nat) (bindings : BindingTable) : Folder :=
  ⟨bindings, limit, .empty⟩

/-- A folder that knows nothing yet and may nest as deep as is usual. -/
def ofBindings (bindings : BindingTable) : Folder :=
  within Fold.nestingLimit bindings

/-- Folds a definition. The folder afterwards knows what was found out, whatever the outcome. -/
def evaluateDefinition (folder : Folder) (definition : Definition) :
    Except ValueFault (Option Value) × Folder :=
  let folding := Fold.foldDefinition (Fold.fold folder.bindings folder.limit []) definition
  let (outcome, memo) := folding.run.run folder.memo
  (outcome, { folder with memo := memo })

/-- Folds an expression. -/
def evaluate (folder : Folder) (node : Node) : Except ValueFault (Option Value) × Folder :=
  folder.evaluateDefinition (.expression node)

/-- Folds the definition of a name; a name without a definition has no value. -/
def evaluateName (folder : Folder) (name : Text) : Except ValueFault (Option Value) × Folder :=
  match folder.bindings.get? name with
  | none => (.ok none, folder)
  | some definition => folder.evaluateDefinition definition

end Folder

/-- Folds one expression with a fresh folder. -/
def evaluateStatic (node : Node) (bindings : BindingTable) : Except ValueFault (Option Value) :=
  ((Folder.ofBindings bindings).evaluate node).1

end ComponentInliner
