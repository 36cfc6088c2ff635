import ComponentInliner.Script.Parser

/-!
# Expression grammar

The productions for expressions, functions and classes. Array literals, object literals and
parenthesised lists are read before it is known whether they are patterns; each operand carries
a `Shape` that says what it may still turn out to be. Parameter lists, declared patterns and
arrow functions are read as such lists and then required to have the right shape.
-/

namespace ComponentInliner.Script

open ComponentInliner.Script.Parser

def openBrace : String := "\x7b"

def closeBrace : String := "\x7d"

/-- Words that are never names. -/
def reservedWords : List String :=
  ["await", "break", "case", "catch", "class", "const", "continue", "debugger", "default",
    "delete", "do", "else", "enum", "export", "extends", "false", "finally", "for", "function",
    "if", "import", "in", "instanceof", "new", "null", "return", "super", "switch", "this",
    "throw", "true", "try", "typeof", "var", "void", "while", "with", "yield"]

def isNameWord (word : String) : Bool :=
  !reservedWords.contains word

/-- An operand without a use besides its value. -/
def valueOperand (start : Nat) (expression : Expression) : Operand :=
  ⟨expression, start, .value⟩

def asValue (operand : Operand) : Parser Expression := do
  require (!operand.shape.patternOnly)
  return operand.expression

/-- An assignment expression used as a value. -/
def Grammar.value (grammar : Grammar) (allowIn : Bool) : Parser Expression := do
  asValue (← grammar.assignment allowIn)

/-- An expression that begins at `start` and is of no kind that is folded. -/
def otherOperand (start : Nat) (kind : String) (shape : Shape) : Parser Operand := do
  return ⟨.other (← spanFrom start) kind, start, shape⟩

def nameToken : Parser Name := do
  match ← token with
  | .word word =>
      require (isNameWord word)
      let start ← position
      advance
      return ⟨← spanFrom start, Text.ofString word⟩
  | _ => failure

/-! ## Literals -/

def numberLiteral : Parser Expression := do
  let (characters, span) ← scanned scanNumber
  return .number span (characters.map CodePoint.ofChar)

def regexLiteral : Parser Expression := do
  let (characters, span) ← scanned scanRegex
  return .regularExpression span (characters.map CodePoint.ofChar)

/-- A string literal: its span, its text and its pieces. -/
def stringLiteral : Parser (Span × Text × List LiteralPiece) := do
  match ← token with
  | .quote mark =>
      let cursor ← get
      match scanString mark (cursor.rest.drop 1) with
      | none => failure
      | some body =>
          let stop := cursor.offset + 2 + byteCount body.characters
          set (Cursor.after (body.rest.drop 1) stop)
          let characters := mark :: (body.characters ++ [mark])
          return (⟨cursor.offset, stop⟩, characters.map CodePoint.ofChar, body.pieces)
  | _ => failure

/-- A stretch of a template from the current place: its pieces, and whether the template ends. -/
def templateStretch (input : List Char) (offset : Nat) : Parser (List LiteralPiece × Bool) := do
  match scanTemplate input with
  | none => failure
  | some body =>
      let stop := offset + byteCount body.characters
      match body.rest with
      | '\x60' :: rest =>
          set (Cursor.after rest (stop + 1))
          return (body.pieces, true)
      | _ =>
          set (Cursor.opened (body.rest.drop 2) (stop + 2))
          return (body.pieces, false)

/-- The expressions of a comma-separated sequence after its first one. -/
def sequenceRest (grammar : Grammar) (allowIn : Bool) : (bound : Nat) → Parser Nat
  | 0 => failure
  | bound + 1 => do
      if ← acceptSymbol "," then
        let _ ← grammar.value allowIn
        return (← sequenceRest grammar allowIn bound) + 1
      return 0

/-- An expression, possibly a sequence. -/
def expression (grammar : Grammar) (allowIn : Bool) : Parser Operand := do
  let first ← grammar.assignment allowIn
  if ← atSymbol "," then
    let _ ← asValue first
    let _ ← sequenceRest grammar allowIn grammar.bound
    otherOperand first.start "sequence_expression" .value
  else
    return first

def expressionValue (grammar : Grammar) (allowIn : Bool) : Parser Expression := do
  asValue (← expression grammar allowIn)

/-- The substitutions of a template with the stretches that follow them. -/
def templateParts (grammar : Grammar) : (bound : Nat) → Parser (List TemplatePart)
  | 0 => failure
  | bound + 1 => do
      let substitution ← expressionValue grammar true
      require (← atSymbol closeBrace)
      let cursor ← get
      let (pieces, ended) ← templateStretch (cursor.rest.drop 1) (cursor.offset + 1)
      if ended then
        return [.mk substitution pieces]
      return .mk substitution pieces :: (← templateParts grammar bound)

def templateLiteral (grammar : Grammar) : Parser Expression := do
  let cursor ← get
  let (head, ended) ← templateStretch (cursor.rest.drop 1) (cursor.offset + 1)
  let parts ← if ended then pure [] else templateParts grammar grammar.bound
  return .template (← spanFrom cursor.offset) head parts

/-! ## Arrays and argument lists -/

def element (grammar : Grammar) : Parser Operand := do
  let start ← position
  if ← acceptSymbol "..." then
    let argument ← grammar.assignment true
    let span ← spanFrom start
    let shape := argument.shape
    return ⟨.spread span argument.expression, start,
      ⟨false, false, shape.assignable, shape.bindable, shape.patternOnly⟩⟩
  grammar.assignment true

/-- The commas and elements of an array up to its closing bracket, with the elements' shapes. -/
def arrayTokens (grammar : Grammar) : (bound : Nat) → Parser (List (ArrayToken × Option Shape))
  | 0 => failure
  | bound + 1 => do
      if ← acceptSymbol "]" then
        return []
      if ← acceptSymbol "," then
        return (.comma, none) :: (← arrayTokens grammar bound)
      let operand ← element grammar
      require ((← atSymbol ",") || (← atSymbol "]"))
      return (.element operand.expression, some operand.shape) :: (← arrayTokens grammar bound)

def arrayLiteral (grammar : Grammar) : Parser Operand := do
  let start ← position
  expectSymbol "["
  let tokens ← arrayTokens grammar grammar.bound
  return ⟨.array (← spanFrom start) (tokens.map Prod.fst), start,
    .literal (tokens.filterMap Prod.snd)⟩

/-- The arguments of a call up to the closing parenthesis; a comma without one adds nothing. -/
def argumentsRest (grammar : Grammar) : (bound : Nat) → Parser (List Expression)
  | 0 => failure
  | bound + 1 => do
      if ← acceptSymbol ")" then
        return []
      if ← acceptSymbol "," then
        return ← argumentsRest grammar bound
      let argument ← asValue (← element grammar)
      if ← acceptSymbol "," then
        return argument :: (← argumentsRest grammar bound)
      expectSymbol ")"
      return [argument]

def arguments (grammar : Grammar) : Parser (List Expression) := do
  expectSymbol "("
  argumentsRest grammar grammar.bound

/-! ## Parenthesised lists, parameters and bodies -/

structure ListInParentheses where
  elements : List Operand
  trailingComma : Bool
  /-- A comma has no element before it, as only the arguments of a call may have it. -/
  hasHole : Bool
  stop : Nat

def Operand.isSpread (operand : Operand) : Bool :=
  operand.expression matches .spread _ _

/-- The elements of a list up to the closing parenthesis. -/
def listRest (grammar : Grammar) : (bound : Nat) → Parser ListInParentheses
  | 0 => failure
  | bound + 1 => do
      let stop := (← get).previousEnd
      if ← acceptSymbol ")" then
        return ⟨[], true, false, stop⟩
      if ← acceptSymbol "," then
        let list ← listRest grammar bound
        return { list with hasHole := true }
      let operand ← element grammar
      let stop := (← get).previousEnd
      if ← acceptSymbol "," then
        let list ← listRest grammar bound
        return { list with elements := operand :: list.elements }
      expectSymbol ")"
      return ⟨[operand], false, false, stop⟩

def listInParentheses (grammar : Grammar) : Parser ListInParentheses := do
  expectSymbol "("
  let stop := (← get).previousEnd
  if ← acceptSymbol ")" then
    return ⟨[], false, false, stop⟩
  listRest grammar grammar.bound

/-- Whether a list can be a parameter list: only the last element may be a rest parameter. -/
def ListInParentheses.isParameterList (list : ListInParentheses) : Bool :=
  !list.hasHole && list.elements.all (fun operand => operand.shape.elementBindable) &&
    list.elements.dropLast.all (fun operand => !operand.isSpread) &&
    !(list.trailingComma && list.elements.getLast?.any Operand.isSpread)

def parameters (grammar : Grammar) : Parser Unit := do
  require (← listInParentheses grammar).isParameterList

def statementsRest (grammar : Grammar) : (bound : Nat) → Parser Unit
  | 0 => failure
  | bound + 1 => do
      reopenLine
      if ← acceptSymbol closeBrace then
        return ()
      let _ ← grammar.statement
      statementsRest grammar bound

def block (grammar : Grammar) : Parser Unit := do
  reopen
  expectSymbol openBrace
  statementsRest grammar grammar.bound

def arrowBody (grammar : Grammar) (allowIn : Bool) : Parser Unit := do
  if ← atSymbol openBrace then
    block grammar
  else
    let _ ← grammar.value allowIn

/-- A function after its keyword: whether it is a generator, its name, and its extent. -/
def functionRest (grammar : Grammar) : Parser (Bool × Option Name) := do
  let isGenerator ← acceptSymbol "*"
  let name ← if ← atSymbol "(" then pure none else some <$> nameToken
  parameters grammar
  block grammar
  return (isGenerator, name)

/-! ## Property names and methods -/

/-- The name of a property, and whether it is computed. -/
def propertyName (grammar : Grammar) : Parser (Expression × Bool) := do
  let start ← position
  match ← token with
  | .word word =>
      advanceName
      return (.identifier (← spanFrom start) (Text.ofString word), false)
  | .privateName _ =>
      advanceName
      return (.other (← spanFrom start) "private_property_identifier", false)
  | .quote _ =>
      let (span, literal, pieces) ← stringLiteral
      return (.string span literal pieces, false)
  | .number => return (← numberLiteral, false)
  | .punctuator symbol =>
      if symbol = "[" then
        advance
        let key ← grammar.value true
        expectSymbol "]"
        return (key, true)
      else
        failure
  | _ => failure

/-- Whether the next token ends a property name, so that the word before it was the name. -/
def atNameEnd : Parser Bool := do
  match ← token with
  | .punctuator symbol =>
      return ["(", ",", ":", "=", ";", closeBrace].contains symbol
  | .finished => return true
  | _ => return false

/-- Reads a word before a property name if it comes next and is not the name itself. -/
def acceptModifier (word : String) : Parser Bool := do
  if ← atWord word then
    if !(← ahead atNameEnd) then
      advance
      return true
  return false

/-- Reads the modifiers of a method: `async` or an accessor word, and the mark of a generator. -/
def methodModifiers : Parser (Option MethodKind) := do
  if ← atWord "async" then
    if !(← ahead (do return (← atNameEnd) || (← afterLineBreak))) then
      advance
      let _ ← acceptSymbol "*"
      return some .method
  if ← acceptModifier "get" then
    return some .getter
  if ← acceptModifier "set" then
    return some .setter
  if ← acceptSymbol "*" then
    return some .method
  return none

def methodRest (grammar : Grammar) : Parser Unit := do
  parameters grammar
  block grammar

/-! ## Objects -/

def objectMember (grammar : Grammar) : Parser (Member × Shape) := do
  let start ← position
  if ← acceptSymbol "..." then
    let argument ← grammar.assignment true
    let shape := argument.shape
    return (.spread (← spanFrom start) argument.expression,
      ⟨false, false, shape.assignable, shape.bindable, shape.patternOnly⟩)
  match ← methodModifiers with
  | some kind =>
      let _ ← propertyName grammar
      methodRest grammar
      return (.method (← spanFrom start) kind, .value)
  | none =>
      let first ← token
      let (key, isComputed) ← propertyName grammar
      if ← atSymbol "(" then
        methodRest grammar
        return (.method (← spanFrom start) .method, .value)
      if ← acceptSymbol ":" then
        let value ← grammar.assignment true
        return (.pair (← spanFrom start) key isComputed value.expression, value.shape)
      match first with
      | .word word =>
          require (isNameWord word)
          let span ← spanFrom start
          let member := Member.shorthand span (Text.ofString word)
          if ← acceptSymbol "=" then
            let _ ← grammar.value true
            return (member, ⟨true, true, true, true, true⟩)
          return (member, .name)
      | _ => failure

/-- The members of an object up to its closing brace; a comma without one adds nothing. -/
def objectMembers (grammar : Grammar) : (bound : Nat) → Parser (List (Member × Shape))
  | 0 => failure
  | bound + 1 => do
      if ← acceptSymbol closeBrace then
        return []
      if ← acceptSymbol "," then
        return ← objectMembers grammar bound
      let member ← objectMember grammar
      if ← acceptSymbol "," then
        return member :: (← objectMembers grammar bound)
      expectSymbol closeBrace
      return [member]

def objectLiteral (grammar : Grammar) : Parser Operand := do
  let start ← position
  expectSymbol openBrace
  let members ← objectMembers grammar grammar.bound
  return ⟨.object (← spanFrom start) (members.map Prod.fst), start,
    .literal (members.map Prod.snd)⟩

/-- A name or a pattern that is declared. -/
def bindingTarget (grammar : Grammar) : Parser Target := do
  match ← token with
  | .word _ => return .name (← nameToken)
  | .punctuator symbol =>
      let pattern ←
        if symbol = "[" then arrayLiteral grammar
        else if symbol = openBrace then objectLiteral grammar
        else failure
      require pattern.shape.bindable
      return .pattern (← spanFrom pattern.start)
  | _ => failure

/-! ## Classes -/

/-- A semicolon, or the place of one that may be left out. -/
def semicolon : Parser Unit := do
  if ← acceptSymbol ";" then
    return ()
  require ((← afterLineBreak) || (← atSymbol closeBrace) || (← token) == .finished)

/-- The names, calls and parentheses of a decorator. -/
def decorator (grammar : Grammar) : Parser Unit := do
  expectSymbol "@"
  let _ ← grammar.constructed
  if ← atSymbol "(" then
    let _ ← arguments grammar

/-- Decorators in front of a class or a member. -/
def decorators (grammar : Grammar) : (bound : Nat) → Parser Unit
  | 0 => failure
  | bound + 1 => do
      if ← atSymbol "@" then
        decorator grammar
        decorators grammar bound

def classMember (grammar : Grammar) : Parser Unit := do
  decorators grammar grammar.bound
  let isStatic ← acceptModifier "static"
  if isStatic && (← atSymbol openBrace) then
    block grammar
  else
    let modifiers ← methodModifiers
    let _ ← propertyName grammar
    if modifiers.isSome || (← atSymbol "(") then
      methodRest grammar
    else
      if ← acceptSymbol "=" then
        let _ ← grammar.value true
      semicolon

/-- The members of a class up to its closing brace. -/
def classMembers (grammar : Grammar) : (bound : Nat) → Parser Unit
  | 0 => failure
  | bound + 1 => do
      if ← acceptSymbol closeBrace then
        return ()
      if ← acceptSymbol ";" then
        classMembers grammar bound
      else
        classMember grammar
        classMembers grammar bound

/-! ## Operands -/

/-- The pieces of an operand after its first part. -/
def operandRest (grammar : Grammar) (allowCalls : Bool) : (bound : Nat) → Operand → Parser Operand
  | 0, _ => failure
  | bound + 1, operand => do
      let start := operand.start
      match ← token with
      | .punctuator "." =>
          let object ← asValue operand
          advance
          let property ← memberName
          operandRest grammar allowCalls bound
            ⟨.member (← spanFrom start) object property false, start, .property⟩
      | .punctuator "?." =>
          require allowCalls
          let object ← asValue operand
          advance
          match ← token with
          | .punctuator "[" =>
              let index ← subscriptIndex
              operandRest grammar allowCalls bound
                ⟨.subscript (← spanFrom start) object index true, start, .property⟩
          | .punctuator "(" =>
              let list ← arguments grammar
              operandRest grammar allowCalls bound
                (valueOperand start (.call (← spanFrom start) object list true))
          | _ =>
              let property ← memberName
              operandRest grammar allowCalls bound
                ⟨.member (← spanFrom start) object property true, start, .property⟩
      | .punctuator "[" =>
          let object ← asValue operand
          let index ← subscriptIndex
          operandRest grammar allowCalls bound
            ⟨.subscript (← spanFrom start) object index false, start, .property⟩
      | .punctuator "(" =>
          if allowCalls then
            let callee ← asValue operand
            let list ← arguments grammar
            operandRest grammar allowCalls bound
              (valueOperand start (.call (← spanFrom start) callee list false))
          else
            return operand
      | .backtick =>
          let _ ← asValue operand
          let _ ← templateLiteral grammar
          let tagged ← otherOperand start "tagged_template" .value
          operandRest grammar allowCalls bound tagged
      | _ => return operand
where
  memberName : Parser Expression := do
    let start ← position
    match ← token with
    | .word word =>
        advanceName
        return .identifier (← spanFrom start) (Text.ofString word)
    | .privateName _ =>
        advanceName
        return .other (← spanFrom start) "private_property_identifier"
    | _ => failure
  subscriptIndex : Parser Expression := do
    expectSymbol "["
    let index ← expressionValue grammar true
    expectSymbol "]"
    return index

/-- A class after its decorators: its keyword, name, heritage and members. -/
def classRest (grammar : Grammar) : Parser (Option Name) := do
  expectWord "class"
  let name ←
    if (← atSymbol openBrace) || (← atWord "extends") then pure none else some <$> nameToken
  if ← acceptWord "extends" then
    let parent ← grammar.constructed
    let _ ← operandRest grammar true grammar.bound parent
  expectSymbol openBrace
  classMembers grammar grammar.bound
  return name

/-- The parts of `new`: the constructed class and its arguments, or the meta property. -/
def newExpression (grammar : Grammar) : Parser Operand := do
  let start ← position
  expectWord "new"
  if ← acceptSymbol "." then
    expectWord "target"
    otherOperand start "meta_property" .value
  else
    let constructed ← grammar.constructed
    let _ ← asValue constructed
    if ← atSymbol "(" then
      let _ ← arguments grammar
    otherOperand start "new_expression" .value

def parenthesizedOperand (start : Nat) (list : ListInParentheses) : Parser Operand := do
  require (!list.trailingComma && !list.hasHole)
  require (list.elements.all fun operand => !operand.shape.patternOnly && !operand.isSpread)
  match list.elements with
  | [] => failure
  | [operand] =>
      return ⟨.parenthesized operand.expression, start,
        ⟨true, false, operand.shape.assignable, false, false⟩⟩
  | first :: _ =>
      return ⟨.parenthesized (.other ⟨first.start, list.stop⟩ "sequence_expression"), start,
        ⟨true, false, false, false, false⟩⟩

/-- The simplest expressions. -/
def primary (grammar : Grammar) : Parser Operand := do
  let start ← position
  match ← token with
  | .number => return valueOperand start (← numberLiteral)
  | .quote _ =>
      let (span, literal, pieces) ← stringLiteral
      return valueOperand start (.string span literal pieces)
  | .backtick => return valueOperand start (← templateLiteral grammar)
  | .punctuator symbol =>
      if symbol = "[" then
        arrayLiteral grammar
      else if symbol = openBrace then
        objectLiteral grammar
      else if symbol = "(" then
        parenthesizedOperand start (← listInParentheses grammar)
      else if symbol = "/" || symbol = "/=" then
        return valueOperand start (← regexLiteral)
      else if symbol = "@" then
        decorators grammar grammar.bound
        let _ ← classRest grammar
        otherOperand start "class" .value
      else
        failure
  | .word word =>
      match word with
      | "function" =>
          advance
          let (isGenerator, _) ← functionRest grammar
          return valueOperand start (.function (← spanFrom start) isGenerator false)
      | "class" =>
          let _ ← classRest grammar
          otherOperand start "class" .value
      | "this" | "super" =>
          advance
          otherOperand start word .value
      | "null" =>
          advance
          return valueOperand start (.null (← spanFrom start))
      | "true" | "false" =>
          advance
          return valueOperand start (.boolean (← spanFrom start) (word = "true"))
      | "new" => newExpression grammar
      | "import" =>
          advance
          if ← acceptSymbol "." then
            expectWord "meta"
            otherOperand start "meta_property" .value
          else
            require (← atSymbol "(")
            otherOperand start "import" .value
      | "async" =>
          if ← ahead (do return (← atWord "function") && !(← afterLineBreak)) then
            advance
            advance
            let (isGenerator, _) ← functionRest grammar
            return valueOperand start (.function (← spanFrom start) isGenerator true)
          else
            let name ← nameToken
            return ⟨.identifier name.span name.text, start, .name⟩
      | _ =>
          let name ← nameToken
          return ⟨.identifier name.span name.text, start, .name⟩
  | _ => failure

/-- A member expression without calls. -/
def constructedOperand (grammar : Grammar) : Parser Operand := do
  operandRest grammar false grammar.bound (← primary grammar)

/-- An operand with an update operator after it, if one follows on the same line. -/
def updateRest (operand : Operand) : Parser Operand := do
  if ← afterLineBreak then
    return operand
  if (← acceptSymbol "++") || (← acceptSymbol "--") then
    let _ ← asValue operand
    otherOperand operand.start "update_expression" .value
  else
    return operand

/-- An operand from its first part on, with an update operator after it. -/
def withUpdate (grammar : Grammar) (first : Operand) : Parser Operand := do
  updateRest (← operandRest grammar true grammar.bound first)

/-- The kind of an element of markup. -/
def markupKind (hasChildren : Bool) : String :=
  if hasChildren then "jsx_element" else "jsx_self_closing_element"

/-- An element of markup, which is an operand without members and calls. -/
def markupOperand (grammar : Grammar) : Parser Operand := do
  let start ← position
  expectSymbol "<"
  let hasChildren ← grammar.markup
  pass 0 Cursor.after
  otherOperand start (markupKind hasChildren) .value

/-! ## Operators -/

def unaryOperatorOf : Token → Option UnaryOperator
  | .word word => UnaryOperator.ofSymbol? word
  | .punctuator symbol => UnaryOperator.ofSymbol? symbol
  | _ => none

def unaryExpression (grammar : Grammar) : Parser Operand := do
  let start ← position
  let first ← token
  match unaryOperatorOf first with
  | some operator =>
      advance
      let argument ← asValue (← grammar.unary)
      return valueOperand start (.unary (← spanFrom start) operator argument)
  | none =>
      match first with
      | .punctuator "++" | .punctuator "--" =>
          advance
          let _ ← asValue (← grammar.unary)
          otherOperand start "update_expression" .value
      | .word "await" =>
          advance
          let _ ← asValue (← grammar.unary)
          otherOperand start "await_expression" .value
      | .privateName _ =>
          advance
          require (← atWord "in")
          otherOperand start "private_property_identifier" .value
      | .punctuator "<" => updateRest (← markupOperand grammar)
      | _ => withUpdate grammar (← primary grammar)

/-- A binary operator of either sort. -/
inductive Connective where
  | binary (operator : BinaryOperator)
  | logical (operator : LogicalOperator)

/-- The precedence of a connective; tighter ones have a higher number. -/
def Connective.precedence : Connective → Nat
  | .logical .coalesce => 1
  | .logical .or => 2
  | .logical .and => 3
  | .binary operator => match operator with
    | .bitOr => 4
    | .bitXor => 5
    | .bitAnd => 6
    | .looselyEqual | .looselyUnequal | .strictlyEqual | .strictlyUnequal => 7
    | .less | .lessOrEqual | .greater | .greaterOrEqual | .member | .instanceOf => 8
    | .shiftLeft | .shiftRight | .shiftRightUnsigned => 9
    | .add | .subtract => 10
    | .multiply | .divide | .remainder => 11
    | .power => 12

def Connective.rightPrecedence (connective : Connective) : Nat :=
  match connective with
  | .binary .power => connective.precedence
  | _ => connective.precedence + 1

def connectiveOf (allowIn : Bool) (next : Token) : Option Connective :=
  match next with
  | .word "in" => if allowIn then some (.binary .member) else none
  | .word "instanceof" => some (.binary .instanceOf)
  | .punctuator "&&" => some (.logical .and)
  | .punctuator "||" => some (.logical .or)
  | .punctuator "??" => some (.logical .coalesce)
  | .punctuator symbol => (BinaryOperator.ofSymbol? symbol).map .binary
  | _ => none

def Connective.combine (connective : Connective) (span : Span) (left right : Expression) :
    Expression :=
  match connective with
  | .binary operator => .binary span operator left right
  | .logical operator => .logical span operator left right

/-- The connectives and operands after a first operand, from the left. -/
def binaryRest (grammar : Grammar) (allowIn : Bool) (precedence : Nat) :
    (bound : Nat) → Operand → Parser Operand
  | 0, _ => failure
  | bound + 1, left => do
      match connectiveOf allowIn (← token) with
      | none => return left
      | some connective =>
          if connective.precedence < precedence then
            return left
          let leftValue ← asValue left
          advance
          let rightValue ← asValue (← grammar.binary allowIn connective.rightPrecedence)
          let span ← spanFrom left.start
          binaryRest grammar allowIn precedence bound
            (valueOperand left.start (connective.combine span leftValue rightValue))

/-- An expression of at least a given precedence. -/
def binaryExpression (grammar : Grammar) (allowIn : Bool) (precedence : Nat) : Parser Operand := do
  binaryRest grammar allowIn precedence grammar.bound (← unaryExpression grammar)

/-- The assignment operators other than the plain one. -/
def compoundAssignments : List String :=
  ["+=", "-=", "*=", "/=", "%=", "**=", "<<=", ">>=", ">>>=", "&=", "^=", "|=", "&&=", "||=",
    "??="]

/-- What follows a binary expression: a conditional, an assignment, or nothing. -/
def assignmentRest (grammar : Grammar) (allowIn : Bool) (left : Operand) : Parser Operand := do
  match ← token with
  | .punctuator "?" =>
      let test ← asValue left
      advance
      let consequent ← grammar.value true
      expectSymbol ":"
      let alternate ← grammar.value allowIn
      return valueOperand left.start
        (.conditional (← spanFrom left.start) test consequent alternate)
  | .punctuator "=" =>
      require left.shape.assignable
      advance
      let _ ← grammar.value allowIn
      otherOperand left.start "assignment_expression" (.assignment left.shape)
  | .punctuator symbol =>
      if compoundAssignments.contains symbol then
        require left.shape.assignable
        let _ ← asValue left
        advance
        let _ ← grammar.value allowIn
        otherOperand left.start "augmented_assignment_expression" .value
      else
        return left
  | _ => return left

/-- The rest of an assignment expression whose first operand has been begun. -/
def assignmentFrom (grammar : Grammar) (allowIn : Bool) (first : Operand) : Parser Operand := do
  let left ← binaryRest grammar allowIn 0 grammar.bound (← withUpdate grammar first)
  assignmentRest grammar allowIn left

def atArrow : Parser Bool := do
  return (← atSymbol "=>") && !(← afterLineBreak)

/-- The arrow and the body of an arrow function that begins at `start`. -/
def arrowRest (grammar : Grammar) (allowIn isAsync : Bool) (start : Nat) : Parser Operand := do
  advance
  arrowBody grammar allowIn
  return valueOperand start (.arrow (← spanFrom start) isAsync)

/-- An expression that begins with a parenthesis: an arrow function or an operand. -/
def fromParenthesis (grammar : Grammar) (allowIn : Bool) : Parser Operand := do
  let start ← position
  let list ← listInParentheses grammar
  if ← atArrow then
    require list.isParameterList
    arrowRest grammar allowIn false start
  else
    assignmentFrom grammar allowIn (← parenthesizedOperand start list)

/-- An expression that begins with a name: an arrow function or an operand. -/
def fromName (grammar : Grammar) (allowIn : Bool) : Parser Operand := do
  let first ← primary grammar
  if (first.shape.bindable && first.expression matches .identifier _ _) && (← atArrow) then
    arrowRest grammar allowIn false first.start
  else
    assignmentFrom grammar allowIn first

def fromAsync (grammar : Grammar) (allowIn : Bool) : Parser Operand := do
  let start ← position
  let sameLine ← ahead (do return !(← afterLineBreak))
  if sameLine && (← ahead (atSymbol "(")) then
    let name ← nameToken
    let list ← listInParentheses grammar
    if ← atArrow then
      require list.isParameterList
      arrowRest grammar allowIn true start
    else
      require (list.elements.all fun operand => !operand.shape.patternOnly)
      let call := Expression.call (← spanFrom start) (.identifier name.span name.text)
        (list.elements.map Operand.expression) false
      assignmentFrom grammar allowIn (valueOperand start call)
  else if sameLine && (← ahead (do
      match ← token with
      | .word word => return isNameWord word && (← ahead atArrow)
      | _ => return false)) then
    advance
    advance
    arrowRest grammar allowIn true start
  else
    fromName grammar allowIn

/-- Whether a token can begin the operand of `yield`. -/
def beginsYieldOperand : Token → Bool
  | .punctuator symbol => symbol ∉ [")", "]", closeBrace, ",", ";", ":"]
  | .word word => word != "in" && word != "of"
  | .finished => false
  | _ => true

def yieldExpression (grammar : Grammar) (allowIn : Bool) : Parser Operand := do
  let start ← position
  advance
  if !(← afterLineBreak) && beginsYieldOperand (← token) then
    let _ ← acceptSymbol "*"
    let _ ← grammar.value allowIn
  otherOperand start "yield_expression" .value

def assignmentExpression (grammar : Grammar) (allowIn : Bool) : Parser Operand := do
  match ← token with
  | .punctuator "(" => fromParenthesis grammar allowIn
  | .word "async" => fromAsync grammar allowIn
  | .word "yield" => yieldExpression grammar allowIn
  | .word word =>
      if isNameWord word then
        fromName grammar allowIn
      else
        assignmentRest grammar allowIn (← binaryExpression grammar allowIn 0)
  | _ => assignmentRest grammar allowIn (← binaryExpression grammar allowIn 0)

end ComponentInliner.Script
