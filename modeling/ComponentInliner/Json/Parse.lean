import ComponentInliner.Config.Setting
import ComponentInliner.Number.Numeral
import ComponentInliner.OrderedMap
import ComponentInliner.Text.Utf16

/-!
# Reading settings from JSON

A JSON text spells one setting. Besides the literals of the format, `NaN` and the two infinities
are numbers. Characters below the space may not stand in a string. A name that is repeated in an
object keeps its place and takes the later value.

Each reader takes what it reads from the front of a text and gives the rest; nothing is said
about a text that is malformed. Values nest up to a bound that the length of the text gives.
-/

namespace ComponentInliner.Json

/-- White space between tokens. -/
def isSpace (point : CodePoint) : Bool :=
  point.val = 32 || point.val = 9 || point.val = 10 || point.val = 13

def skipSpace (text : Text) : Text :=
  text.dropWhile isSpace

/-- The text after a character, if it begins with it. -/
def after? (character : Char) : Text → Option Text
  | [] => none
  | point :: rest => if point = character then some rest else none

/-- The literals with their values. -/
def literals : List (String × Setting) :=
  [("null", .null), ("true", .boolean true), ("false", .boolean false),
    ("NaN", .number (0.0 / 0.0)), ("Infinity", .number (1.0 / 0.0)),
    ("-Infinity", .number (-1.0 / 0.0))]

/-- The literal that a text begins with, and the rest. -/
def literal? (text : Text) : Option (Setting × Text) :=
  literals.findSome? fun (word, setting) =>
    (Text.dropPrefix? word text).map fun rest => (setting, rest)

def hexadecimalDigit? (point : CodePoint) : Option Nat :=
  if point.isAsciiDigit then some (point.val - 48)
  else if point.isBetween 'a' 'f' then some (point.val - 87)
  else if point.isBetween 'A' 'F' then some (point.val - 55)
  else none

/-- The letters that follow a backslash, with what they stand for. -/
def letterEscapes : List (Char × CodePoint) :=
  [('"', '"'), ('\\', '\\'), ('/', '/'), ('b', 8), ('f', 12), ('n', 10), ('r', 13), ('t', 9)]

/-- The escape that follows a backslash: the code point it stands for, and the rest. -/
def escape? : Text → Option (CodePoint × Text)
  | [] => none
  | letter :: rest =>
      if letter = 'u' then do
        let digits ← (rest.take 4).mapM hexadecimalDigit?
        if digits.length = 4 then
          return (← CodePoint.ofNat? (Number.ofDigits 16 digits), rest.drop 4)
        else
          none
      else
        (letterEscapes.find? fun entry => letter = entry.1).map fun entry => (entry.2, rest)

/-- The rest of a string: its characters before the closing quote; at most `count` of them. -/
def characters? : (count : Nat) → Text → Option (Text × Text)
  | 0, _ => none
  | _ + 1, [] => none
  | count + 1, point :: rest =>
      if point = '"' then
        some ([], rest)
      else if point = '\\' then do
        let (escaped, rest) ← escape? rest
        let (characters, rest) ← characters? count rest
        return (escaped :: characters, rest)
      else if point.val < 32 then
        none
      else do
        let (characters, rest) ← characters? count rest
        return (point :: characters, rest)

/-- The string that begins after an opening quote; halves of a pair that meet are joined. -/
def string? (text : Text) : Option (Text × Text) := do
  let (characters, rest) ← characters? (text.length + 1) text
  return (Text.joinSurrogates characters, rest)

/-- The digits at the front of a text, if there are any, and the rest. -/
def digits? (text : Text) : Option (Text × Text) :=
  let digits := text.takeWhile CodePoint.isAsciiDigit
  if digits.isEmpty then none else some (digits, text.drop digits.length)

/-- The whole part of a number: a zero, or digits that do not begin with one. -/
def whole? (text : Text) : Option (Text × Text) :=
  match text with
  | [] => none
  | point :: rest => if point = '0' then some ([point], rest) else digits? text

/-- The digits after the point of a number, if it has a point, and the rest. -/
def fraction? (text : Text) : Option (Text × Text) :=
  (after? '.' text).bind digits?

/-- The sign that a text may begin with: whether it is a minus sign, and the rest. -/
def sign (text : Text) : Bool × Text :=
  match after? '-' text with
  | some rest => (true, rest)
  | none => (false, (after? '+' text).getD text)

/-- The exponent of a number, if it has one, and the rest. -/
def exponent? (text : Text) : Option (Int × Text) := do
  let rest ← (after? 'e' text).or (after? 'E' text)
  let (isNegative, rest) := sign rest
  let (digits, rest) ← digits? rest
  let magnitude : Int := decimalNumber digits
  return (if isNegative then -magnitude else magnitude, rest)
where
  decimalNumber (digits : Text) : Nat :=
    Number.ofDigits 10 (digits.map fun point => point.val - 48)

/-- How many digits an integer may have. -/
def integerLimit : Nat := 4300

/-- The number that a text begins with, and the rest. -/
def number? (text : Text) : Option (Setting × Text) := do
  let (isNegative, unsigned) := match after? '-' text with
    | some rest => (true, rest)
    | none => (false, text)
  let (whole, rest) ← whole? unsigned
  let (fraction, rest, hasFraction) := match fraction? rest with
    | some (digits, rest) => (digits, rest, true)
    | none => ([], rest, false)
  let (power, rest, hasExponent) := match exponent? rest with
    | some (power, rest) => (power, rest, true)
    | none => (0, rest, false)
  let magnitude := exponent?.decimalNumber (whole ++ fraction)
  if hasFraction || hasExponent then
    let double := Number.ofDecimal magnitude (power - fraction.length)
    return (.number (if isNegative then -double else double), rest)
  else if whole.length > integerLimit then
    none
  else
    return (.integer (if isNegative then -magnitude else magnitude), rest)

/-- Values by name, where a repeated name keeps its place. -/
abbrev Members := OrderedMap Text Setting

mutual

/-- The value that a text begins with, and the rest. -/
def value? : (bound : Nat) → Text → Option (Setting × Text)
  | 0, _ => none
  | bound + 1, text =>
      match text with
      | [] => none
      | point :: rest =>
          if point = '"' then
            (string? rest).map fun (string, rest) => (.text string, rest)
          else if point = '[' then
            let rest := skipSpace rest
            match after? ']' rest with
            | some rest => some (.list [], rest)
            | none => elements? bound rest
          else if point = '\x7b' then
            let rest := skipSpace rest
            match after? '\x7d' rest with
            | some rest => some (.mapping [], rest)
            | none => members? bound .empty rest
          else
            (literal? (point :: rest)).or (number? (point :: rest))

/-- The rest of an array that has an element, and what follows it. -/
def elements? : (bound : Nat) → Text → Option (Setting × Text)
  | 0, _ => none
  | bound + 1, text => do
      let (first, rest) ← value? bound text
      let rest := skipSpace rest
      match after? ']' rest with
      | some rest => return (.list [first], rest)
      | none =>
          match ← elements? bound (skipSpace (← after? ',' rest)) with
          | (.list others, rest) => return (.list (first :: others), rest)
          | _ => none

/-- The rest of an object after some of its members, and what follows it. -/
def members? : (bound : Nat) → Members → Text → Option (Setting × Text)
  | 0, _, _ => none
  | bound + 1, members, text => do
      let (name, rest) ← string? (← after? '"' text)
      let (member, rest) ← value? bound (skipSpace (← after? ':' (skipSpace rest)))
      let members := members.insert name member
      let rest := skipSpace rest
      match after? '\x7d' rest with
      | some rest =>
          return (.mapping (members.entries.map fun entry => (.text entry.1, entry.2)), rest)
      | none => members? bound members (skipSpace (← after? ',' rest))

end

def parse? (text : Text) : Option Setting := do
  let (setting, rest) ← value? (2 * text.length + 2) (skipSpace text)
  if (skipSpace rest).isEmpty then return setting else none

end ComponentInliner.Json
