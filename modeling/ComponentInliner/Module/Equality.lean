import ComponentInliner.Module.Node

/-!
# Equality of expressions

Two expressions are equal if they agree in all their parts, the spans included. Within one module
no two expressions have the same span, so there an expression is equal only to itself, and what is
known about an expression can be kept under the expression as the key.
-/

namespace ComponentInliner

mutual

/-- Whether two expressions agree in all their parts, spans included. -/
def Node.same : Node → Node → Bool
  | .literal span literal raw, .literal span' literal' raw' =>
      span = span' && literal = literal' && raw = raw'
  | .identifier span name, .identifier span' name' => span = span' && name = name'
  | .template span head parts, .template span' head' parts' =>
      span = span' && head = head' && sameParts parts parts'
  | .array span elements, .array span' elements' => span = span' && sameElements elements elements'
  | .spread span argument, .spread span' argument' => span = span' && argument.same argument'
  | .object span properties, .object span' properties' =>
      span = span' && sameProperties properties properties'
  | .unary span operator argument, .unary span' operator' argument' =>
      span = span' && operator = operator' && argument.same argument'
  | .binary span operator left right, .binary span' operator' left' right' =>
      span = span' && operator = operator' && left.same left' && right.same right'
  | .logical span operator left right, .logical span' operator' left' right' =>
      span = span' && operator = operator' && left.same left' && right.same right'
  | .conditional span test consequent alternate, .conditional span' test' consequent' alternate' =>
      span = span' && test.same test' && consequent.same consequent' && alternate.same alternate'
  | .member span object property isComputed isOptional,
      .member span' object' property' isComputed' isOptional' =>
      span = span' && object.same object' && property.same property' &&
        isComputed = isComputed' && isOptional = isOptional'
  | .call span callee arguments isOptional, .call span' callee' arguments' isOptional' =>
      span = span' && callee.same callee' && sameNodes arguments arguments' &&
        isOptional = isOptional'
  | .arrow span isAsync, .arrow span' isAsync' => span = span' && isAsync = isAsync'
  | .function span isGenerator isAsync, .function span' isGenerator' isAsync' =>
      span = span' && isGenerator = isGenerator' && isAsync = isAsync'
  | .unsupported span kind, .unsupported span' kind' => span = span' && kind = kind'
  | _, _ => false

def Property.same : Property → Property → Bool
  | .pair span key isComputed value, .pair span' key' isComputed' value' =>
      span = span' && key.same key' && isComputed = isComputed' && value.same value'
  | .shorthand span name, .shorthand span' name' => span = span' && name = name'
  | .spread span argument, .spread span' argument' => span = span' && argument.same argument'
  | .method span kind, .method span' kind' => span = span' && kind = kind'
  | _, _ => false

def sameParts : List (Node × Text) → List (Node × Text) → Bool
  | [], [] => true
  | (node, text) :: rest, (node', text') :: rest' =>
      node.same node' && text = text' && sameParts rest rest'
  | _, _ => false

def sameElements : List (Option Node) → List (Option Node) → Bool
  | [], [] => true
  | none :: rest, none :: rest' => sameElements rest rest'
  | some node :: rest, some node' :: rest' => node.same node' && sameElements rest rest'
  | _, _ => false

def sameProperties : List Property → List Property → Bool
  | [], [] => true
  | property :: rest, property' :: rest' => property.same property' && sameProperties rest rest'
  | _, _ => false

def sameNodes : List Node → List Node → Bool
  | [], [] => true
  | node :: rest, node' :: rest' => node.same node' && sameNodes rest rest'
  | _, _ => false

end

mutual

theorem Node.same_iff : (node other : Node) → (node.same other = true ↔ node = other)
  | .template _ _ parts, other => by
      have := sameParts_iff parts
      cases other <;> simp [Node.same, and_assoc, this]
  | .array _ elements, other => by
      have := sameElements_iff elements
      cases other <;> simp [Node.same, this]
  | .object _ properties, other => by
      have := sameProperties_iff properties
      cases other <;> simp [Node.same, this]
  | .spread _ argument, other | .unary _ _ argument, other => by
      have := argument.same_iff
      cases other <;> simp [Node.same, and_assoc, this]
  | .binary _ _ left right, other | .logical _ _ left right, other => by
      have onLeft := left.same_iff
      have onRight := right.same_iff
      cases other <;> simp [Node.same, and_assoc, onLeft, onRight]
  | .conditional _ test consequent alternate, other => by
      have onTest := test.same_iff
      have onConsequent := consequent.same_iff
      have onAlternate := alternate.same_iff
      cases other <;> simp [Node.same, and_assoc, onTest, onConsequent, onAlternate]
  | .member _ object property _ _, other => by
      have onObject := object.same_iff
      have onProperty := property.same_iff
      cases other <;> simp [Node.same, and_assoc, onObject, onProperty]
  | .call _ callee arguments _, other => by
      have onCallee := callee.same_iff
      have onArguments := sameNodes_iff arguments
      cases other <;> simp [Node.same, and_assoc, onCallee, onArguments]
  | .literal _ _ _, other | .identifier _ _, other | .arrow _ _, other | .function _ _ _, other
  | .unsupported _ _, other => by
      cases other <;> simp [Node.same, and_assoc]

theorem Property.same_iff : (property other : Property) →
    (property.same other = true ↔ property = other)
  | .pair _ key _ value, other => by
      have onKey := key.same_iff
      have onValue := value.same_iff
      cases other <;> simp [Property.same, and_assoc, onKey, onValue]
  | .spread _ argument, other => by
      have := argument.same_iff
      cases other <;> simp [Property.same, this]
  | .shorthand _ _, other | .method _ _, other => by
      cases other <;> simp [Property.same]

theorem sameParts_iff : (parts others : List (Node × Text)) →
    (sameParts parts others = true ↔ parts = others)
  | [], others => by cases others <;> simp [sameParts]
  | (node, _) :: rest, others => by
      have onNode := node.same_iff
      have onRest := sameParts_iff rest
      rcases others with _ | ⟨⟨_, _⟩, _⟩ <;> simp [sameParts, onNode, onRest]

theorem sameElements_iff : (elements others : List (Option Node)) →
    (sameElements elements others = true ↔ elements = others)
  | [], others => by cases others <;> simp [sameElements]
  | none :: rest, others => by
      have := sameElements_iff rest
      rcases others with _ | ⟨_ | _, _⟩ <;> simp [sameElements, this]
  | some node :: rest, others => by
      have onNode := node.same_iff
      have onRest := sameElements_iff rest
      rcases others with _ | ⟨_ | _, _⟩ <;> simp [sameElements, onNode, onRest]

theorem sameProperties_iff : (properties others : List Property) →
    (sameProperties properties others = true ↔ properties = others)
  | [], others => by cases others <;> simp [sameProperties]
  | property :: rest, others => by
      have onProperty := property.same_iff
      have onRest := sameProperties_iff rest
      cases others <;> simp [sameProperties, onProperty, onRest]

theorem sameNodes_iff : (nodes others : List Node) →
    (sameNodes nodes others = true ↔ nodes = others)
  | [], others => by cases others <;> simp [sameNodes]
  | node :: rest, others => by
      have onNode := node.same_iff
      have onRest := sameNodes_iff rest
      cases others <;> simp [sameNodes, onNode, onRest]

end

instance : DecidableEq Node := fun node other => decidable_of_iff _ (node.same_iff other)

end ComponentInliner
