import ComponentInliner.Script.Production

/-!
# Statement grammar

The productions for statements, declarations, imports and exports. Declarations, imports and
exports keep what they declare; of every other statement only the kind is kept.
-/

namespace ComponentInliner.Script

open ComponentInliner.Script.Parser

/-- A parenthesised expression after a keyword. -/
def condition (grammar : Grammar) : Parser Unit := do
  expectSymbol "("
  let _ ← expressionValue grammar true
  expectSymbol ")"

/-- A parenthesised expression that a statement follows. -/
def head (grammar : Grammar) : Parser Unit := do
  condition grammar
  reopen

/-! ## Variable declarations -/

/-- The initial value of a declarator, if one is written. -/
def initializer (grammar : Grammar) (allowIn : Bool) : Parser (Option Expression) := do
  if ← acceptSymbol "=" then
    return some (← grammar.value allowIn)
  return none

def declarators (grammar : Grammar) (allowIn : Bool) :
    (bound : Nat) → Parser (List (Declarator Expression))
  | 0 => failure
  | bound + 1 => do
      let target ← bindingTarget grammar
      let initial ← initializer grammar allowIn
      if ← acceptSymbol "," then
        return ⟨target, initial⟩ :: (← declarators grammar allowIn bound)
      return [⟨target, initial⟩]

def atVariables : Parser Bool := do
  match ← token with
  | .word "var" | .word "const" => return true
  | .word "let" =>
      ahead do
        match ← token with
        | .word word => return isNameWord word
        | .punctuator symbol => return symbol = "[" || symbol = openBrace
        | _ => return false
  | _ => return false

/-- Whether a declaration of resources comes next: its word and a name on the same line. -/
def atUsing : Parser Bool := do
  if ← atWord "await" then
    ahead atUsingWord
  else
    atUsingWord
where
  atUsingWord : Parser Bool := do
    if ← atWord "using" then
      ahead do
        match ← token with
        | .word word => return isNameWord word && !(← afterLineBreak)
        | _ => return false
    else
      return false

def variableKind : Parser String := do
  match ← token with
  | .word word =>
      advance
      return word
  | _ => failure

def variableDeclaration (grammar : Grammar) : Parser (Declaration Expression) := do
  let kind ← variableKind
  let list ← declarators grammar true grammar.bound
  semicolon
  return .variables kind list

/-- A declaration of resources. -/
def usingDeclaration (grammar : Grammar) : Parser Unit := do
  let _ ← acceptWord "await"
  expectWord "using"
  let _ ← declarators grammar true grammar.bound
  semicolon

/-! ## Functions and classes -/

def atAsyncFunction : Parser Bool := do
  return (← atWord "async") &&
    (← ahead (do return (← atWord "function") && !(← afterLineBreak)))

/-- The keywords of a function; the answer tells whether it is asynchronous. -/
def functionKeywords : Parser Bool := do
  let isAsync ← acceptWord "async"
  expectWord "function"
  return isAsync

/-- A function declaration, or the function expression of a default export. -/
def functionLike (grammar : Grammar) : Parser (FunctionHead ⊕ Expression) := do
  let start ← position
  let isAsync ← functionKeywords
  let (isGenerator, name) ← functionRest grammar
  let span ← spanFrom start
  match name with
  | some name => return .inl ⟨span, name, isGenerator, isAsync⟩
  | none => return .inr (.function span isGenerator isAsync)

/-- A class declaration, or the class expression of a default export. -/
def classLike (grammar : Grammar) : Parser (ClassHead ⊕ Expression) := do
  let start ← position
  decorators grammar grammar.bound
  let name ← classRest grammar
  let span ← spanFrom start
  match name with
  | some name => return .inl ⟨span, name⟩
  | none => return .inr (.other span "class")

def functionDeclaration (grammar : Grammar) : Parser (Declaration Expression) := do
  match ← functionLike grammar with
  | .inl head => return .function head
  | .inr _ => failure

def classDeclaration (grammar : Grammar) : Parser (Declaration Expression) := do
  match ← classLike grammar with
  | .inl head => return .classLike head
  | .inr _ => failure

/-! ## Imports and exports -/

/-- A name in an import or export clause. -/
def moduleName : Parser WrittenLabel := do
  match ← token with
  | .word word =>
      let start ← position
      advance
      return .identifier ⟨← spanFrom start, Text.ofString word⟩
  | .quote _ =>
      let (span, literal, pieces) ← stringLiteral
      return .string span literal pieces
  | _ => failure

def specifiers : (bound : Nat) → Parser (List (Specifier WrittenLabel))
  | 0 => failure
  | bound + 1 => do
      if ← acceptSymbol closeBrace then
        return []
      let start ← position
      let localName ← moduleName
      let alias? ← if ← acceptWord "as" then some <$> moduleName else pure none
      let specifier : Specifier WrittenLabel := ⟨← spanFrom start, localName, alias?⟩
      if ← acceptSymbol "," then
        return specifier :: (← specifiers bound)
      expectSymbol closeBrace
      return [specifier]

/-- The module that a statement names, with its attributes and the semicolon. -/
def moduleSource (grammar : Grammar) : Parser WrittenLabel := do
  let (span, literal, pieces) ← stringLiteral
  if (← atWord "with") || ((← atWord "assert") && !(← afterLineBreak)) then
    advance
    let _ ← objectLiteral grammar
  semicolon
  return .string span literal pieces

/-- The names that an import declares besides its default name. -/
def importBindings (grammar : Grammar) : Parser Unit := do
  if ← acceptSymbol "*" then
    expectWord "as"
    let _ ← nameToken
  else
    expectSymbol openBrace
    let _ ← specifiers grammar.bound

def importDeclaration (grammar : Grammar) : Parser WrittenStatement := do
  expectWord "import"
  match ← token with
  | .quote _ =>
      let _ ← moduleSource grammar
  | .word _ =>
      let _ ← nameToken
      if ← acceptSymbol "," then
        importBindings grammar
      expectWord "from"
      let _ ← moduleSource grammar
  | _ =>
      importBindings grammar
      expectWord "from"
      let _ ← moduleSource grammar
  return .importing

/-- A default export after its keywords. -/
def defaultExport (grammar : Grammar) : Parser (DefaultExport Expression) := do
  if (← atWord "function") || (← atAsyncFunction) then
    match ← functionLike grammar with
    | .inl head => return .declaration (.function head)
    | .inr function => return .expression function
  else if (← atWord "class") || (← atSymbol "@") then
    match ← classLike grammar with
    | .inl head => return .declaration (.classLike head)
    | .inr class_ => return .expression class_
  else if ← atVariables then
    return .declaration (← variableDeclaration grammar)
  else
    let exported ← grammar.value true
    semicolon
    return .expression exported

/-- An export after its keyword. -/
def exportRest (grammar : Grammar) : Parser WrittenStatement := do
  if ← acceptWord "default" then
    return .exportDefault (← defaultExport grammar)
  if ← acceptSymbol "*" then
    if ← acceptWord "as" then
      let _ ← moduleName
    expectWord "from"
    let _ ← moduleSource grammar
    return .exportAll
  if ← acceptSymbol openBrace then
    let list ← specifiers grammar.bound
    if ← acceptWord "from" then
      return .exportClause list (some (← moduleSource grammar))
    semicolon
    return .exportClause list none
  if ← atVariables then
    return .exportDeclaration (← variableDeclaration grammar)
  if ← atUsing then
    usingDeclaration grammar
    return .other "export_statement"
  if (← atWord "function") || (← atAsyncFunction) then
    return .exportDeclaration (← functionDeclaration grammar)
  return .exportDeclaration (← classDeclaration grammar)

/-! ## Other statements -/

def switchClauses (grammar : Grammar) : (bound : Nat) → Parser Unit
  | 0 => failure
  | bound + 1 => do
      if ← acceptSymbol closeBrace then
        return ()
      if ← acceptWord "case" then
        let _ ← expressionValue grammar true
      else
        expectWord "default"
      expectSymbol ":"
      clauseBody grammar.bound
      switchClauses grammar bound
where
  clauseBody : (bound : Nat) → Parser Unit
    | 0 => failure
    | bound + 1 => do
        reopenLine
        if (← atSymbol closeBrace) || (← atWord "case") || (← atWord "default") then
          return ()
        let _ ← grammar.statement
        clauseBody bound

/-- The last two parts of the head of a `for` loop. -/
def loopRest (grammar : Grammar) : Parser Unit := do
  expectSymbol ";"
  if !(← atSymbol ";") then
    let _ ← expressionValue grammar true
  expectSymbol ";"
  if !(← atSymbol ")") then
    let _ ← expressionValue grammar true

/-- Whether a loop runs over what follows: `of` or `in` comes next. -/
def atIteration : Parser Bool := do
  return (← atWord "of") || (← atWord "in")

/-- What a loop runs over. -/
def iterationRest (grammar : Grammar) : Parser String := do
  advance
  let _ ← expressionValue grammar true
  return "for_in_statement"

/-- The head of a `for` loop up to its closing parenthesis; the answer is the kind of the loop. -/
def loopHead (grammar : Grammar) : Parser String := do
  if ← atVariables then
    let _ ← variableKind
    let _ ← bindingTarget grammar
    if ← atIteration then
      iterationRest grammar
    else
      let _ ← initializer grammar false
      if ← acceptSymbol "," then
        let _ ← declarators grammar false grammar.bound
      loopRest grammar
      return "for_statement"
  else if ← atSymbol ";" then
    loopRest grammar
    return "for_statement"
  else
    let first ← expression grammar false
    if ← atIteration then
      require first.shape.assignable
      iterationRest grammar
    else
      let _ ← asValue first
      loopRest grammar
      return "for_statement"

def forStatement (grammar : Grammar) : Parser String := do
  advance
  let _ ← acceptWord "await"
  expectSymbol "("
  let kind ← loopHead grammar
  expectSymbol ")"
  reopen
  let _ ← grammar.statement
  return kind

def tryStatement (grammar : Grammar) : Parser Unit := do
  advance
  block grammar
  let caught ← acceptWord "catch"
  if caught then
    if ← acceptSymbol "(" then
      let _ ← bindingTarget grammar
      expectSymbol ")"
    block grammar
  let finished ← acceptWord "finally"
  if finished then
    block grammar
  require (caught || finished)

/-- A statement that leaves a loop, with the label it names. -/
def jumpStatement : Parser Unit := do
  advance
  if !(← afterLineBreak) then
    if let .word word ← token then
      if isNameWord word then
        advance
  semicolon

def returnStatement (grammar : Grammar) : Parser Unit := do
  advance
  let bare := (← afterLineBreak) || (← atSymbol ";") || (← atSymbol closeBrace) ||
    (← token) == .finished
  if !bare then
    let _ ← expressionValue grammar true
  semicolon

/-- The parser of the statements that are known by a keyword; the answer is their kind. -/
def keywordStatement? (grammar : Grammar) (word : String) : Option (Parser String) :=
  match word with
  | "if" => some do
      advance
      head grammar
      let _ ← grammar.statement
      if ← acceptWord "else" then
        let _ ← grammar.statement
      return "if_statement"
  | "for" => some (forStatement grammar)
  | "while" => some do
      advance
      head grammar
      let _ ← grammar.statement
      return "while_statement"
  | "do" => some do
      advance
      let _ ← grammar.statement
      expectWord "while"
      condition grammar
      let _ ← acceptSymbol ";"
      return "do_statement"
  | "switch" => some do
      advance
      head grammar
      expectSymbol openBrace
      switchClauses grammar grammar.bound
      return "switch_statement"
  | "with" => some do
      advance
      head grammar
      let _ ← grammar.statement
      return "with_statement"
  | "try" => some do
      tryStatement grammar
      return "try_statement"
  | "throw" => some do
      advance
      require (!(← afterLineBreak))
      let _ ← expressionValue grammar true
      semicolon
      return "throw_statement"
  | "return" => some do
      returnStatement grammar
      return "return_statement"
  | "break" => some do
      jumpStatement
      return "break_statement"
  | "continue" => some do
      jumpStatement
      return "continue_statement"
  | "debugger" => some do
      advance
      semicolon
      return "debugger_statement"
  | _ => none

def expressionStatement (grammar : Grammar) : Parser WrittenStatement := do
  let _ ← expressionValue grammar true
  semicolon
  return .other "expression_statement"

def labelledOrExpression (grammar : Grammar) (word : String) : Parser WrittenStatement := do
  if isNameWord word && (← ahead (atSymbol ":")) then
    advance
    advance
    let _ ← grammar.statement
    return .other "labeled_statement"
  expressionStatement grammar

def wordStatement (grammar : Grammar) (word : String) : Parser WrittenStatement := do
  if ← atVariables then
    return .declaration (← variableDeclaration grammar)
  if ← atUsing then
    usingDeclaration grammar
    return .other "using_declaration"
  if word = "function" || (← atAsyncFunction) then
    return .declaration (← functionDeclaration grammar)
  if word = "class" then
    return .declaration (← classDeclaration grammar)
  if word = "import" && !(← ahead (do return (← atSymbol "(") || (← atSymbol "."))) then
    return ← importDeclaration grammar
  if word = "export" then
    advance
    return ← exportRest grammar
  match keywordStatement? grammar word with
  | some known => return .other (← known)
  | none => labelledOrExpression grammar word

def statement (grammar : Grammar) : Parser WrittenStatement := do
  match ← token with
  | .word word => wordStatement grammar word
  | .punctuator symbol =>
      if symbol = openBrace then
        block grammar
        return .other "statement_block"
      else if symbol = ";" then
        advance
        return .other "empty_statement"
      else if symbol = "@" then
        if ← glimpse (do decorators grammar grammar.bound; atWord "export") then
          decorators grammar grammar.bound
          expectWord "export"
          exportRest grammar
        else
          return .declaration (← classDeclaration grammar)
      else
        expressionStatement grammar
  | _ => expressionStatement grammar

end ComponentInliner.Script
