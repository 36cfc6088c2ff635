import ComponentInliner.Script.Literal
import ComponentInliner.Value.Operator

/-!
# Parsed modules

The tree that parsing a module gives. Expressions keep what folding may need: literals as they
are written, operators, property accesses, calls, arrays with their commas. Functions and classes
keep their span alone, and every other construct is a span with the name of its kind.
-/

namespace ComponentInliner.Script

/-- The kind of an object member that is a function. -/
inductive MethodKind where
  | method
  | getter
  | setter
  deriving DecidableEq, Repr

mutual

/-- A parsed expression. -/
inductive Expression where
  | identifier (span : Span) (name : Text)
  | number (span : Span) (literal : Text)
  | string (span : Span) (literal : Text) (pieces : List LiteralPiece)
  | boolean (span : Span) (flag : Bool)
  | null (span : Span)
  | regularExpression (span : Span) (literal : Text)
  /-- A template: the pieces before the first substitution, then each substitution and what
  follows it. -/
  | template (span : Span) (head : List LiteralPiece) (parts : List TemplatePart)
  | array (span : Span) (tokens : List ArrayToken)
  | object (span : Span) (members : List Member)
  | spread (span : Span) (argument : Expression)
  | unary (span : Span) (operator : UnaryOperator) (argument : Expression)
  | binary (span : Span) (operator : BinaryOperator) (left right : Expression)
  | logical (span : Span) (operator : LogicalOperator) (left right : Expression)
  | conditional (span : Span) (test consequent alternate : Expression)
  | member (span : Span) (object property : Expression) (isOptional : Bool)
  | subscript (span : Span) (object index : Expression) (isOptional : Bool)
  | call (span : Span) (callee : Expression) (arguments : List Expression) (isOptional : Bool)
  | parenthesized (inner : Expression)
  | arrow (span : Span) (isAsync : Bool)
  | function (span : Span) (isGenerator isAsync : Bool)
  /-- Any other expression, by the name of its kind. -/
  | other (span : Span) (kind : String)

/-- A substitution of a template and the pieces after it. -/
inductive TemplatePart where
  | mk (substitution : Expression) (following : List LiteralPiece)

/-- What stands between the brackets of an array literal. -/
inductive ArrayToken where
  | comma
  | element (expression : Expression)

inductive Member where
  | pair (span : Span) (key : Expression) (isComputed : Bool) (value : Expression)
  | shorthand (span : Span) (name : Text)
  | spread (span : Span) (argument : Expression)
  | method (span : Span) (kind : MethodKind)

end

instance : Inhabited Expression := ⟨.null default⟩

/-- A name with its place in the source. -/
structure Name where
  span : Span
  text : Text

/-- What a declarator declares. -/
inductive Target where
  | name (name : Name)
  | pattern (span : Span)

/-- One declarator of a variable declaration. -/
structure Declarator (Expr : Type) where
  target : Target
  initial : Option Expr

structure FunctionHead where
  span : Span
  name : Name
  isGenerator : Bool
  isAsync : Bool

structure ClassHead where
  span : Span
  name : Name

/-- A declaration whose initial values are of a given type of expressions. -/
inductive Declaration (Expr : Type) where
  | variables (kind : String) (declarators : List (Declarator Expr))
  | function (head : FunctionHead)
  | classLike (head : ClassHead)

structure Specifier (Label : Type) where
  span : Span
  localName : Label
  alias? : Option Label

inductive DefaultExport (Expr : Type) where
  | declaration (declaration : Declaration Expr)
  | expression (expression : Expr)

/--
A top-level statement over a type of expressions and a type of names in import and export
clauses.
-/
inductive Statement (Expr Label : Type) where
  | declaration (declaration : Declaration Expr)
  | importing
  | exportDeclaration (declaration : Declaration Expr)
  | exportClause (specifiers : List (Specifier Label)) (source : Option Label)
  | exportDefault (exported : DefaultExport Expr)
  | exportAll
  | other (kind : String)

/-- A name in an export clause as it is written: an identifier or a string. -/
inductive WrittenLabel where
  | identifier (name : Name)
  | string (span : Span) (literal : Text) (pieces : List LiteralPiece)

abbrev WrittenStatement := Statement Expression WrittenLabel

end ComponentInliner.Script
