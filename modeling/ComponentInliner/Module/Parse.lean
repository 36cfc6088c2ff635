import ComponentInliner.Module.Node
import ComponentInliner.Script.Parse

/-!
# From source to module

`Module.parse` reads the source of a module: it parses the statements, then cooks the literals of
every expression that may be folded. The first literal without a value, in source order, decides
the error. Functions and classes are not entered, so nothing in them is cooked. `Module.parseWith`
does the same with the statements of any reader of source.

Expressions may nest only so deep. A chain of binary operators nests on its left side without
bound and counts as one level.
-/

namespace ComponentInliner

open Script

/-- Why a source gives no module. -/
inductive ModuleFault where
  /-- The source holds a surrogate and cannot be encoded. -/
  | unencodable
  | invalidSource (fault : SyntaxFault)
  | invalidLiteral (fault : LiteralFault)
  | tooDeep
  deriving DecidableEq, Repr

namespace ModuleFault

def message : ModuleFault → String
  | .unencodable => "Source holds a surrogate"
  | .invalidSource fault => fault.message
  | .invalidLiteral fault => "Invalid literal: " ++ fault.message
  | .tooDeep => "Expression nesting is too deep"

/--
Whether a fault is one of the source as a module, to be reported with it. A source that cannot be
encoded and an escape beyond 32 bits are not: they end the whole run.
-/
def isReported : ModuleFault → Bool
  | .unencodable | .invalidLiteral .numberTooLarge => false
  | _ => true

end ModuleFault

/-- Cooks the value of a literal, or says why it has none. -/
def cooked {Result : Type} (value : Except LiteralFault Result) : Except ModuleFault Result :=
  value.mapError .invalidLiteral

/-- How deep expressions may nest. -/
def nestingLimit : Nat := 300

namespace Node

/-- A connective of a chain with its right operand and the span it reaches from the start. -/
structure ChainLink where
  span : Span
  connective : Connective
  right : Expression

/-- The first operand of a left-nested chain of operators, and its links from the left. -/
def chain (links : List ChainLink) : Expression → Expression × List ChainLink
  | .binary span operator left right => chain (⟨span, .binary operator, right⟩ :: links) left
  | .logical span operator left right => chain (⟨span, .logical operator, right⟩ :: links) left
  | first => (first, links)

/-- The node that a connective and its operands make. -/
def ofConnective (span : Span) (connective : Connective) (left right : Node) : Node :=
  match connective with
  | .binary operator => .binary span operator left right
  | .logical operator => .logical span operator left right

/--
The slots of an array literal. An element waits until a comma or the end; a comma without an
element before it makes a hole.
-/
def arraySlots (waiting : Option Expression) : List ArrayToken → List (Option Expression)
  | [] => match waiting with
      | some element => [some element]
      | none => []
  | .comma :: rest => waiting :: arraySlots none rest
  | .element element :: rest => arraySlots (some element) rest

def ofString (span : Span) (raw : Text) (pieces : List LiteralPiece) : Except ModuleFault Node := do
  return .literal span (.string (← cooked (cookString pieces))) raw

def ofNumber (span : Span) (raw : Text) : Except ModuleFault Node := do
  match ← cooked (readNumber raw) with
  | some double => return .literal span (.number double) raw
  | none => return .literal span .bigInteger raw

/-- The key of a property that is not computed. -/
def ofKey : Expression → Except ModuleFault Node
  | .identifier span name => .ok (.identifier span name)
  | .string span raw pieces => ofString span raw pieces
  | .number span raw => ofNumber span raw
  | .other span kind => .ok (.unsupported span kind)
  | _ => .error (.invalidSource .unplaced)

/-- A substitution of a template with the text after it. -/
def ofPart (self : Expression → Except ModuleFault Node) :
    TemplatePart → Except ModuleFault (Node × Text)
  | .mk substitution following => do
      let node ← self substitution
      return (node, ← cooked (cookTemplate following))

def ofMember (self : Expression → Except ModuleFault Node) :
    Member → Except ModuleFault Property
  | .pair span key isComputed value => do
      let keyNode ← if isComputed then self key else ofKey key
      return .pair span keyNode isComputed (← self value)
  | .shorthand span name => .ok (.shorthand span name)
  | .spread span argument => return .spread span (← self argument)
  | .method span kind => .ok (.method span kind)

/-- A chain of operators, whose operands are one level deeper. -/
def ofChain (self : Expression → Except ModuleFault Node) (whole : Expression) :
    Except ModuleFault Node := do
  let (first, links) := chain [] whole
  links.foldlM
    (fun left link => return ofConnective link.span link.connective left (← self link.right))
    (← self first)

/-- An expression whose parts are read by `self`. -/
def ofExpressionWith (self : Expression → Except ModuleFault Node) :
    Expression → Except ModuleFault Node
  | .identifier span name => .ok (.identifier span name)
  | .number span raw => ofNumber span raw
  | .string span raw pieces => ofString span raw pieces
  | .boolean span flag =>
      .ok (.literal span (.boolean flag) (if flag then "true" else "false" : String))
  | .null span => .ok (.literal span .null "null")
  | .regularExpression span raw => .ok (.literal span .regularExpression raw)
  | .template span head parts => do
      let first ← cooked (cookTemplate head)
      return .template span first (← parts.mapM (ofPart self))
  | .array span tokens => do
      let elements ← (arraySlots none tokens).mapM fun slot => match slot with
        | some element => some <$> self element
        | none => pure none
      return .array span elements
  | .object span members => return .object span (← members.mapM (ofMember self))
  | .spread span argument => return .spread span (← self argument)
  | .unary span operator argument => return .unary span operator (← self argument)
  | whole@(.binary _ _ _ _) | whole@(.logical _ _ _ _) => ofChain self whole
  | .conditional span test consequent alternate =>
      return .conditional span (← self test) (← self consequent) (← self alternate)
  | .member span owner property isOptional => do
      let propertyNode ← ofKey property
      return .member span (← self owner) propertyNode false isOptional
  | .subscript span owner index isOptional =>
      return .member span (← self owner) (← self index) true isOptional
  | .call span callee arguments isOptional =>
      return .call span (← self callee) (← arguments.mapM self) isOptional
  | .parenthesized inner => self inner
  | .arrow span isAsync => .ok (.arrow span isAsync)
  | .function span isGenerator isAsync => .ok (.function span isGenerator isAsync)
  | .other span kind => .ok (.unsupported span kind)

/-- An expression that nests at most as deep as a limit. -/
def ofExpression : (limit : Nat) → Expression → Except ModuleFault Node
  | 0, _ => .error .tooDeep
  | limit + 1, expression => ofExpressionWith (ofExpression limit) expression

end Node

def cookDeclaration : Declaration Expression → Except ModuleFault (Declaration Node)
  | .variables kind declarators => do
      let cookedDeclarators ← declarators.mapM fun declarator => do
        let initial ← declarator.initial.mapM (Node.ofExpression nestingLimit)
        return ⟨declarator.target, initial⟩
      return .variables kind cookedDeclarators
  | .function head => .ok (.function head)
  | .classLike head => .ok (.classLike head)

def cookLabel : WrittenLabel → Except ModuleFault ExportLabel
  | .identifier name => .ok (.identifier name)
  | .string span raw pieces => return .string span (← cooked (cookString pieces)) raw

/-- An entry of an export clause with cooked strings. -/
def cookSpecifier (specifier : Specifier WrittenLabel) :
    Except ModuleFault (Specifier ExportLabel) := do
  let localName ← cookLabel specifier.localName
  return ⟨specifier.span, localName, ← specifier.alias?.mapM cookLabel⟩

def cookStatement : WrittenStatement → Except ModuleFault ModuleStatement
  | .declaration declaration => return .declaration (← cookDeclaration declaration)
  | .importing => .ok .importing
  | .exportDeclaration declaration => return .exportDeclaration (← cookDeclaration declaration)
  | .exportClause specifiers source => do
      let cookedSpecifiers ← specifiers.mapM cookSpecifier
      return .exportClause cookedSpecifiers (← source.mapM cookLabel)
  | .exportDefault (.declaration declaration) =>
      return .exportDefault (.declaration (← cookDeclaration declaration))
  | .exportDefault (.expression expression) =>
      return .exportDefault (.expression (← Node.ofExpression nestingLimit expression))
  | .exportAll => .ok .exportAll
  | .other kind => .ok (.other kind)

/-- The module of a source whose statements are read by a given reader. -/
def Module.parseWith (read : SourceReader) (source : Text) : Except ModuleFault Module :=
  match source.mapM CodePoint.toChar? with
  | none => .error .unencodable
  | some characters =>
      match read characters with
      | .error tree => .error (.invalidSource tree.fault)
      | .ok written => do return ⟨characters, ← written.mapM cookStatement⟩

def Module.parse (source : Text) : Except ModuleFault Module :=
  Module.parseWith readStatements source

end ComponentInliner
