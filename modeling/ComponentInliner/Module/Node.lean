import ComponentInliner.Script.Expression

/-!
# Modules and their expressions

A module as the analysis sees it: its top-level statements, over expressions whose literals are
cooked. `Node` has a constructor for each kind of expression that may have a constant value;
functions are kept because a component needs one, and everything else is `unsupported`.
-/

namespace ComponentInliner

open Script

/-- The value of a literal. Regular expressions and big integers have no constant value. -/
inductive Literal where
  | null
  | boolean (flag : Bool)
  | number (double : Float)
  | bigInteger
  | string (text : Text)
  | regularExpression
  deriving DecidableEq

mutual

/-- An expression with cooked literals. -/
inductive Node where
  | literal (span : Span) (literal : Literal) (raw : Text)
  | identifier (span : Span) (name : Text)
  /-- A template: the text before the first substitution, then each substitution and the text
  after it. -/
  | template (span : Span) (head : Text) (parts : List (Node × Text))
  /-- An array; a missing element is a hole. -/
  | array (span : Span) (elements : List (Option Node))
  | spread (span : Span) (argument : Node)
  | object (span : Span) (properties : List Property)
  | unary (span : Span) (operator : UnaryOperator) (argument : Node)
  | binary (span : Span) (operator : BinaryOperator) (left right : Node)
  | logical (span : Span) (operator : LogicalOperator) (left right : Node)
  | conditional (span : Span) (test consequent alternate : Node)
  | member (span : Span) (object property : Node) (isComputed isOptional : Bool)
  | call (span : Span) (callee : Node) (arguments : List Node) (isOptional : Bool)
  | arrow (span : Span) (isAsync : Bool)
  | function (span : Span) (isGenerator isAsync : Bool)
  | unsupported (span : Span) (kind : String)

/-- A property of an object literal. -/
inductive Property where
  | pair (span : Span) (key : Node) (isComputed : Bool) (value : Node)
  | shorthand (span : Span) (name : Text)
  | spread (span : Span) (argument : Node)
  | method (span : Span) (kind : MethodKind)

end

instance : Inhabited Node := ⟨.unsupported default ""⟩

def Node.span : Node → Span
  | .literal span _ _ | .identifier span _ | .template span _ _ | .array span _
  | .spread span _ | .object span _ | .unary span _ _ | .binary span _ _ _
  | .logical span _ _ _ | .conditional span _ _ _ | .member span _ _ _ _
  | .call span _ _ _ | .arrow span _ | .function span _ _ | .unsupported span _ => span

def Node.isFunction : Node → Bool
  | .arrow _ _ | .function _ _ _ => true
  | _ => false

/-- The texts of a template: one before each substitution and one after the last. -/
def templateTexts (head : Text) (parts : List (Node × Text)) : List Text :=
  head :: parts.map Prod.snd

/-- A name in an export clause: an identifier or a cooked string. -/
inductive ExportLabel where
  | identifier (name : Name)
  | string (span : Span) (text raw : Text)

def ExportLabel.text : ExportLabel → Text
  | .identifier name => name.text
  | .string _ text _ => text

/-- A top-level statement with cooked literals. -/
abbrev ModuleStatement := Statement Node ExportLabel

/-- A parsed module. -/
structure Module where
  source : List Char
  body : List ModuleStatement

/-- The characters of a source between two offsets in bytes. -/
def sliceBytes (start stop : Nat) : (offset : Nat) → List Char → List Char
  | _, [] => []
  | offset, character :: rest =>
      if offset ≥ stop then []
      else
        let after := sliceBytes start stop (offset + character.utf8Size) rest
        if offset ≥ start then character :: after else after

def Module.textAt (module : Module) (span : Span) : Text :=
  (sliceBytes span.start span.stop 0 module.source).map CodePoint.ofChar

/-- What a top-level name stands for: an expression, a function or a class. -/
inductive Definition where
  | expression (node : Node)
  | function (head : FunctionHead)
  | classLike (head : ClassHead)

namespace Definition

def span : Definition → Span
  | .expression node => node.span
  | .function head => head.span
  | .classLike head => head.span

def isFunction : Definition → Bool
  | .expression node => node.isFunction
  | .function _ => true
  | .classLike _ => false

end Definition

end ComponentInliner
