import ComponentInliner.Text.Printable

/-!
# Quoted texts

A text between quotes, as messages show it: in single quotes, or in double quotes if it holds a
single quote and no double one. What is not printable is escaped.
-/

namespace ComponentInliner.Text

/-- The hexadecimal digits of a number, in lower case, with zeros in front up to a width. -/
def hexadecimal (width number : Nat) : Text :=
  let digits := (Nat.toDigits 16 number).map CodePoint.ofChar
  List.replicate (width - digits.length) (CodePoint.ofChar '0') ++ digits

/-- The escapes that are a letter after the backslash. -/
def letterEscapes : List (Char × Char) :=
  [('\t', 't'), ('\n', 'n'), ('\r', 'r')]

def quotedPoint (quote : Char) (point : CodePoint) : Text :=
  if point = '\\' ∨ point = quote then
    ['\\', point]
  else
    match letterEscapes.find? fun entry => point = entry.1 with
    | some (_, letter) => ['\\', letter]
    | none =>
        if point.isPrintable then [point]
        else if point.val < 0x100 then "\\x" ++ hexadecimal 2 point.val
        else if point.val < 0x10000 then "\\u" ++ hexadecimal 4 point.val
        else "\\U" ++ hexadecimal 8 point.val

def quoteFor (text : Text) : Char :=
  let single : CodePoint := '\''
  let double : CodePoint := '"'
  if single ∈ text ∧ double ∉ text then '"' else '\''

def quoted (text : Text) : Text :=
  let quote := quoteFor text
  CodePoint.ofChar quote :: text.flatMap (quotedPoint quote) ++ [CodePoint.ofChar quote]

end ComponentInliner.Text
