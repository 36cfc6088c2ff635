import ComponentInliner.Number.Numeral
import ComponentInliner.Text.LineEnding
import ComponentInliner.Text.Utf16

/-!
# Literals

String and template literals are read as a sequence of pieces: runs of raw text and escape
sequences. `cook` gives the text that the pieces stand for: escapes are decoded one by one, raw
text is taken as it is, and surrogate pairs that meet are joined at the end. In templates every
line ending of the raw text becomes a line feed first.

`readNumber` reads numeric literals. Big integers have no double.
-/

namespace ComponentInliner.Script

/-- Why a literal has no value. -/
inductive LiteralFault where
  | malformed
  | notACodePoint
  /-- An escape for a number beyond 32 bits. -/
  | numberTooLarge
  deriving DecidableEq, Repr

/-- What is said about a literal without a value. -/
def LiteralFault.message : LiteralFault → String
  | .malformed => "invalid numeral"
  | .notACodePoint => "chr() arg not in range(0x110000)"
  | .numberTooLarge => "number too large"

/-- A piece of a string or template literal. -/
inductive LiteralPiece where
  | raw (text : Text)
  | escape (body : Text)
  deriving DecidableEq, Repr

def codePointText (number : Int) : Except LiteralFault Text :=
  if number < -0x80000000 ∨ number ≥ 0x80000000 then
    .error .numberTooLarge
  else if number < 0 then
    .error .notACodePoint
  else
    match CodePoint.ofNat? number.toNat with
    | some point => .ok [point]
    | none => .error .notACodePoint

/-- The text of the code point whose number is written in a radix. -/
def numeralText (radix : Nat) (digits : Text) : Except LiteralFault Text :=
  match Number.readInteger? radix digits with
  | some number => codePointText number
  | none => .error .malformed

/-- The line endings that a backslash takes out of a literal. -/
def lineContinuations : List Text :=
  ["\r\n", "\n", "\r", [0x2028], [0x2029]]

/-- The characters that stand for a control character after a backslash. -/
def controlEscapes : List (Char × CodePoint) :=
  [('b', 8), ('f', 12), ('n', 10), ('r', 13), ('t', 9), ('v', 11)]

/-- The text that an escape sequence stands for; `body` is what follows the backslash. -/
def decodeEscape (body : Text) : Except LiteralFault Text :=
  if lineContinuations.contains body then
    .ok []
  else
    match body with
    | [] => .ok []
    | head :: rest =>
        if head = 'x' then
          numeralText 16 (rest.take 2)
        else if head = 'u' then
          match rest with
          | brace :: digits =>
              if brace = '{' then numeralText 16 digits.dropLast else numeralText 16 (rest.take 4)
          | [] => numeralText 16 []
        else if head.isBetween '0' '7' then
          numeralText 8 body
        else
          match controlEscapes.find? fun entry => body = [CodePoint.ofChar entry.1] with
          | some entry => .ok [entry.2]
          | none => .ok body

/-- The texts of the pieces of a literal; `readRaw` is applied to each run of raw text. -/
def pieceTexts (readRaw : Text → Text) : List LiteralPiece → Except LiteralFault Text
  | [] => .ok []
  | .raw text :: rest => do return readRaw text ++ (← pieceTexts readRaw rest)
  | .escape body :: rest => do
      let decoded ← decodeEscape body
      return decoded ++ (← pieceTexts readRaw rest)

def cookString (pieces : List LiteralPiece) : Except LiteralFault Text := do
  return Text.joinSurrogates (← pieceTexts id pieces)

/-- The text of a stretch of a template literal between substitutions. -/
def cookTemplate (pieces : List LiteralPiece) : Except LiteralFault Text := do
  return Text.joinSurrogates (← pieceTexts Text.unifyLineEndings pieces)

/-- Whether a numeral is a legacy octal one: a zero followed by octal digits alone. -/
def isLegacyOctal (numeral : Text) : Bool :=
  numeral.length > 1 && numeral.head? = some '0' && numeral.all (CodePoint.isBetween '0' '7')

/-- The double of a numeric literal; a big integer has none. -/
def readNumber (literal : Text) : Except LiteralFault (Option Float) :=
  let numeral := literal.filter fun point : CodePoint => point ≠ '_'
  if numeral.getLast? = some 'n' then
    .ok none
  else
    match Number.announcedRadix? numeral with
    | some radix =>
        match Number.readInteger? radix (numeral.drop 2) with
        | some integer => .ok (some (Number.ofInteger integer))
        | none => .error .malformed
    | none =>
        if isLegacyOctal numeral then
          match Number.readInteger? 8 numeral with
          | some integer => .ok (some (Number.ofInteger integer))
          | none => .error .malformed
        else
          match Number.readDecimal? numeral with
          | some decimal => .ok (some decimal.toFloat)
          | none => .error .malformed

end ComponentInliner.Script
