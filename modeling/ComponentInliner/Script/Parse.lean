import ComponentInliner.Script.Markup
import ComponentInliner.Script.Source
import ComponentInliner.Script.StatementGrammar

/-!
# Parsing modules

The grammar with a bound on nesting, and the parser for whole modules. Between two characters of
the source a statement and an expression are entered at most, so a bound greater than twice the
length of the source is never met: every such bound gives the same statements.
-/

namespace ComponentInliner.Script

/-- The grammar whose nonterminals nest at most as deep as the bound. -/
def grammar : (bound : Nat) → Grammar
  | 0 => ⟨0, fun _ => failure, fun _ _ => failure, failure, failure, failure, failure⟩
  | bound + 1 => {
      bound := bound + 1
      assignment := fun allowIn cursor => assignmentExpression (grammar bound) allowIn cursor
      binary := fun allowIn precedence cursor =>
        binaryExpression (grammar bound) allowIn precedence cursor
      unary := fun cursor => unaryExpression (grammar bound) cursor
      constructed := fun cursor => constructedOperand (grammar bound) cursor
      markup := fun cursor => markupElement (grammar bound) cursor
      statement := fun cursor => statement (grammar bound) cursor }

@[simp] theorem grammar_bound (bound : Nat) : (grammar bound).bound = bound := by
  cases bound <;> rfl

/-- Statements up to the end of the source. -/
def statements (grammar : Grammar) : (bound : Nat) → Parser (List WrittenStatement)
  | 0 => failure
  | bound + 1 => do
      Parser.reopenLine
      if (← Parser.token) == .finished then
        return []
      let first ← grammar.statement
      return first :: (← statements grammar bound)

/-- The characters after a first line that names an interpreter. -/
def dropInterpreterLine (source : List Char) : List Char × Nat :=
  match source with
  | '#' :: '!' :: rest =>
      let line := rest.takeWhile fun character => !isLineTerminator character
      (rest.drop line.length, 2 + byteCount line)
  | _ => (source, 0)

/-- The statements of a source whose parts nest at most as deep as the bound. -/
def statementsWithin (bound : Nat) (source : List Char) : Option (List WrittenStatement) :=
  let (rest, offset) := dropInterpreterLine source
  ((statements (grammar bound) bound).run (Cursor.opened rest offset)).map Prod.fst

/-- The statements of a module; a source with a syntax error has none. -/
def parseStatements (source : List Char) : Option (List WrittenStatement) :=
  statementsWithin (2 * source.length + 3) source

/-- Reads the statements of a module by the grammar, which does not tell where an error is. -/
def readStatements : SourceReader := fun source =>
  match parseStatements source with
  | some written => .ok written
  | none => .error .hidden

end ComponentInliner.Script
