import ComponentInliner.Script.Expression
import ComponentInliner.Script.Token

/-!
# Parsers

A parser reads tokens from a cursor and either succeeds, leaving the cursor behind what it read,
or fails. Nothing is said about a failure, so a parser is a state transformer over `Option`.

Productions refer to each other through a `Grammar`, the record of the recursive nonterminals.
Each production is a plain function of the grammar it is used in; the grammar itself is tied up
by a bound on nesting in `Script.Parse`.
-/

namespace ComponentInliner.Script

/-- A place in the source between two tokens. -/
structure Cursor where
  rest : List Char
  offset : Nat
  previousEnd : Nat
  lineBreak : Bool
  token : Token
  /-- The token is the one that comes next, unless a comment is left open. -/
  isToken : token = .unreadable ∨ token = Token.at rest

namespace Cursor

/-- The cursor at the first token of what is left behind blanks and comments. -/
def ofSkipped (skipped : Skipped) (previousEnd : Nat) (lineBreak : Bool) : Cursor :=
  ⟨skipped.rest, skipped.offset, previousEnd, lineBreak,
    if skipped.unclosed then .unreadable else Token.at skipped.rest, by
      split
      · exact .inl rfl
      · exact .inr rfl⟩

/-- The cursor at the first token of the input that begins at `offset`, behind an operand. -/
def after (rest : List Char) (offset : Nat) : Cursor :=
  let skipped := skipTrivia false .between offset false rest
  ofSkipped skipped offset skipped.lineBreak

/-- The cursor at the first token of the input that begins at `offset`, where an operand or a
statement may begin: comments of HTML are skipped as well. -/
def opened (rest : List Char) (offset : Nat) : Cursor :=
  let skipped := skipTrivia true .between offset false rest
  ofSkipped skipped offset skipped.lineBreak

/-- The cursor at the input that begins at `offset`, with nothing skipped. -/
def bare (rest : List Char) (offset : Nat) : Cursor :=
  ofSkipped ⟨rest, offset, false, false⟩ offset false

/-- Goes on behind some characters; `resume` says what is skipped there. -/
def past (cursor : Cursor) (count : Nat) (resume : List Char → Nat → Cursor) : Cursor :=
  resume (cursor.rest.drop count) (cursor.offset + byteCount (cursor.rest.take count))

/-- Skips the comments of HTML that stand here. -/
def reopened (cursor : Cursor) : Cursor :=
  if atMarkupComment cursor.rest then
    let skipped := skipTrivia true .between cursor.offset cursor.lineBreak cursor.rest
    ofSkipped skipped cursor.previousEnd skipped.lineBreak
  else
    cursor

end Cursor

/-- How many characters a word, a private name or a punctuator has. -/
def Token.length : Token → Nat
  | .word name => name.length
  | .privateName name => name.length + 1
  | .punctuator symbol => symbol.length
  | _ => 0

/-- Words that an operand or a statement follows. -/
def prefixWords : List String :=
  ["case", "catch", "class", "const", "default", "delete", "do", "else", "extends", "finally",
    "for", "function", "if", "import", "in", "instanceof", "new", "switch", "throw", "try",
    "typeof", "var", "void", "while", "with"]

/-- Whether an operand may end with a token. -/
def Token.endsOperand : Token → Bool
  | .punctuator symbol => [")", "]", "\x7d", "++", "--"].contains symbol
  | .word name => !prefixWords.contains name
  | _ => true

def Cursor.next (cursor : Cursor) : Cursor :=
  cursor.past cursor.token.length (if cursor.token.endsOperand then .after else .opened)

/-- A parser for a value. -/
abbrev Parser := StateT Cursor Option

namespace Parser

def token : Parser Token := do
  return (← get).token

def position : Parser Nat := do
  return (← get).offset

def spanFrom (start : Nat) : Parser Span := do
  return ⟨start, (← get).previousEnd⟩

def afterLineBreak : Parser Bool := do
  return (← get).lineBreak

def advance : Parser Unit :=
  modify Cursor.next

/-- Goes on behind the name of a property, which may be spelled like any word. -/
def advanceName : Parser Unit :=
  modify fun cursor => cursor.past cursor.token.length .after

/-- Goes on behind some of the characters that come next. -/
def pass (count : Nat) (resume : List Char → Nat → Cursor) : Parser Unit :=
  modify fun cursor => cursor.past count resume

/-- Skips the comments of HTML behind the head of a statement or of a function. -/
def reopen : Parser Unit :=
  modify Cursor.reopened

/-- Skips the comments of HTML before a statement on a new line. The first of them is a closing
sign: an opening one would be an operator. -/
def reopenLine : Parser Unit :=
  modify fun cursor =>
    if cursor.lineBreak && cursor.rest.head? = some '-' then cursor.reopened else cursor

def require (condition : Bool) : Parser Unit :=
  if condition then pure () else failure

def atSymbol (symbol : String) : Parser Bool := do
  return (← token) == .punctuator symbol

def atWord (word : String) : Parser Bool := do
  return (← token) == .word word

def acceptSymbol (symbol : String) : Parser Bool := do
  if ← atSymbol symbol then
    advance
    return true
  return false

def acceptWord (word : String) : Parser Bool := do
  if ← atWord word then
    advance
    return true
  return false

def expectSymbol (symbol : String) : Parser Unit := do
  require (← acceptSymbol symbol)

def expectWord (word : String) : Parser Unit := do
  require (← acceptWord word)

/-- Whether a condition holds; nothing is read. -/
def glimpse (condition : Parser Bool) : Parser Bool := do
  let here ← get
  let answer ← condition
  set here
  return answer

/-- Whether a condition on the tokens after the next one holds. -/
def ahead (condition : Parser Bool) : Parser Bool :=
  glimpse do
    advance
    condition

/--
Reads the characters that a scanner takes from the front of the input, and gives them with their
span.
-/
def scanned (scan : List Char → Option (List Char × List Char)) : Parser (List Char × Span) := do
  let cursor ← get
  match scan cursor.rest with
  | none => failure
  | some (characters, rest) =>
      let stop := cursor.offset + byteCount characters
      set (Cursor.after rest stop)
      return (characters, ⟨cursor.offset, stop⟩)

end Parser

/-- What an expression may be used as, besides its value. -/
structure Shape where
  /-- It may stand left of an assignment operator. -/
  assignable : Bool
  /-- It may be declared, as a name or a pattern. -/
  bindable : Bool
  /-- It may stand in an assignment pattern, possibly with a default. -/
  elementAssignable : Bool
  /-- It may stand in a declared pattern, possibly with a default. -/
  elementBindable : Bool
  /-- It is a pattern only: it holds a name with a default as no object literal does. -/
  patternOnly : Bool

namespace Shape

/-- A value and nothing else. -/
def value : Shape := ⟨false, false, false, false, false⟩

def name : Shape := ⟨true, true, true, true, false⟩

def property : Shape := ⟨true, false, true, false, false⟩

/-- An array or object literal, from the shapes of its elements. -/
def literal (elements : List Shape) : Shape :=
  let assignable := elements.all Shape.elementAssignable
  let bindable := elements.all Shape.elementBindable
  ⟨assignable, bindable, assignable, bindable, elements.any Shape.patternOnly⟩

/-- An assignment with the plain operator to a target. -/
def assignment (target : Shape) : Shape :=
  ⟨false, false, target.assignable, target.bindable, false⟩

end Shape

/-- A parsed expression with where it begins, parentheses included, and what it may be used as. -/
structure Operand where
  expression : Expression
  start : Nat
  shape : Shape

/-- The recursive nonterminals of the grammar. -/
structure Grammar where
  /-- How often a loop of a production may go round. -/
  bound : Nat
  assignment : (allowIn : Bool) → Parser Operand
  binary : (allowIn : Bool) → (precedence : Nat) → Parser Operand
  unary : Parser Operand
  /-- An operand of `new`: a member expression without calls. -/
  constructed : Parser Operand
  /-- An element of markup behind its first sign; the answer tells whether it has children. -/
  markup : Parser Bool
  statement : Parser WrittenStatement

end ComponentInliner.Script
