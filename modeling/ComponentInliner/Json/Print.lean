import ComponentInliner.Config.Setting
import ComponentInliner.Text.Utf16

/-!
# Writing settings as JSON

Lists and objects are written with an entry on each line, two spaces deeper than what holds them;
those without entries stay on one line. Strings are written in ASCII: code points beyond it become
escapes of their UTF-16 code units.
-/

namespace ComponentInliner.Json

/-- The letters that stand for a character after a backslash. -/
def printedEscapes : List (Char × Char) :=
  [('"', '"'), ('\\', '\\'), ('\n', 'n'), ('\r', 'r'), ('\t', 't'), (Char.ofNat 8, 'b'),
    (Char.ofNat 12, 'f')]

/-- How a code point is written in a string. -/
def printPoint (point : CodePoint) : Text :=
  match printedEscapes.find? fun entry => point = entry.1 with
  | some (_, letter) => ['\\', letter]
  | none =>
      if 32 ≤ point.val ∧ point.val ≤ 126 then [point]
      else (Text.units [point]).flatMap fun unit => "\\u" ++ Text.hexadecimal 4 unit.val

def printString (text : Text) : Text :=
  "\"" ++ text.flatMap printPoint ++ "\""

/-- How a number is written; the ones that are not finite have names. -/
def printNumber (double : Float) : Text :=
  if double.isNaN then "NaN"
  else if double.isInf then (if double < 0 then "-Infinity" else "Infinity" : String)
  else Setting.showDouble double

/-- The name of a member; flags, numbers and nothing have names too, other settings have none. -/
def printName? : Setting → Option Text
  | .text name => some (printString name)
  | .boolean flag => some (printString (if flag then "true" else "false" : String))
  | .null => some (printString "null")
  | .integer whole => some (printString (Text.ofInt whole))
  | .number double => some (printString (printNumber double))
  | _ => none

def newLine (depth : Nat) : Text :=
  "\n" ++ List.replicate (2 * depth) (CodePoint.ofChar ' ')

def bracketed (first last : String) (depth : Nat) (entries : List Text) : Text :=
  if entries.isEmpty then
    Text.ofString (first ++ last)
  else
    let separator := "," ++ newLine (depth + 1)
    Text.ofString first ++ newLine (depth + 1) ++ Text.joinWith separator entries ++
      newLine depth ++ Text.ofString last

mutual

/-- A setting at a depth; of the data that only YAML spells, pairs are written as lists. -/
def print? (depth : Nat) : Setting → Option Text
  | .null => some "null"
  | .boolean flag => some (if flag then "true" else "false" : String)
  | .integer whole => some (Text.ofInt whole)
  | .number double => some (printNumber double)
  | .text content => some (printString content)
  | .list entries => (printEntries? depth entries).map (bracketed "[" "]" depth)
  | .mapping entries => (printMembers? depth entries).map (bracketed "\x7b" "\x7d" depth)
  | .other (.pair first second) _ => do
      let printedFirst ← print? (depth + 1) first
      let printedSecond ← print? (depth + 1) second
      return bracketed "[" "]" depth [printedFirst, printedSecond]
  | .other _ _ => none

def printEntries? (depth : Nat) : List Setting → Option (List Text)
  | [] => some []
  | entry :: entries => do
      let printed ← print? (depth + 1) entry
      return printed :: (← printEntries? depth entries)

def printMembers? (depth : Nat) : List (Setting × Setting) → Option (List Text)
  | [] => some []
  | (name, member) :: entries => do
      let printedName ← printName? name
      let printed ← print? (depth + 1) member
      return (printedName ++ ": " ++ printed) :: (← printMembers? depth entries)

end

end ComponentInliner.Json
