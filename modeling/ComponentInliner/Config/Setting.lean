import ComponentInliner.Number.Shortest
import ComponentInliner.Text.Quoted

/-!
# Settings

A configuration file may hold any plain data: nothing, flags, numbers, texts, lists and mappings,
and in YAML dates, pairs, sets and octets as well. What a setting means is decided where it is used,
so a `Setting` keeps the data as it was written. The file gives the kind of a setting, whether it
counts as switched on, and how messages show it.
-/

namespace ComponentInliner

/-- Data that only YAML has a spelling for. -/
inductive SpecialData (Entry : Type) where
  | date
  | dateAndTime
  | pair (first second : Entry)
  | set (members : List Entry)
  | octets (numbers : List Nat)

namespace SpecialData

variable {Entry : Type}

def kind : SpecialData Entry → String
  | .date => "date"
  | .dateAndTime => "datetime"
  | .pair _ _ => "tuple"
  | .set _ => "set"
  | .octets _ => "bytes"

def isOn : SpecialData Entry → Bool
  | .date | .dateAndTime | .pair _ _ => true
  | .set members => !members.isEmpty
  | .octets numbers => !numbers.isEmpty

end SpecialData

/-- Plain data of a configuration. -/
inductive Setting where
  | null
  | boolean (flag : Bool)
  | integer (number : Int)
  | number (double : Float)
  | text (text : Text)
  | list (entries : List Setting)
  | mapping (entries : List (Setting × Setting))
  | other (data : SpecialData Setting) (shown : Text)

namespace Setting

instance : Inhabited Setting := ⟨.null⟩

def kind : Setting → String
  | .null => "NoneType"
  | .boolean _ => "bool"
  | .integer _ => "int"
  | .number _ => "float"
  | .text _ => "str"
  | .list _ => "list"
  | .mapping _ => "dict"
  | .other data _ => data.kind

/-- Whether a setting counts as switched on: zero and whatever is empty do not. -/
def isOn : Setting → Bool
  | .null => false
  | .boolean flag => flag
  | .integer whole => whole != 0
  | .number double => double != 0
  | .text content => !content.isEmpty
  | .list entries => !entries.isEmpty
  | .mapping entries => !entries.isEmpty
  | .other data _ => data.isOn

/-- The entries of a setting: of a text its characters, of a mapping its keys. -/
def entries? : Setting → Option (List Setting)
  | .text content => some (content.map fun point => .text [point])
  | .list entries => some entries
  | .mapping entries => some (entries.map Prod.fst)
  | .other (.pair first second) _ => some [first, second]
  | .other (.set members) _ => some members
  | .other (.octets numbers) _ => some (numbers.map fun number : Nat => .integer number)
  | _ => none

def text? : Setting → Option Text
  | .text content => some content
  | _ => none

/--
How a double is shown: positional from `0.0001` to below `10 ^ 16`, always with a point or an
exponent, and an exponent of at least two digits.
-/
def showDouble (double : Float) : Text :=
  match Number.parts? double with
  | none => if double.isNaN then "nan" else if Number.isNegative double then "-inf" else "inf"
  | some parts =>
      let sign : Text := if parts.negative then "-" else ""
      if parts.significand = 0 then
        sign ++ "0.0"
      else
        let (digits, point) := Number.shortestDigits double.abs parts
        if -4 < point ∧ point ≤ 0 then
          sign ++ "0." ++ Number.zeros (-point).toNat ++ digits
        else if 0 < point ∧ point ≤ 16 then
          let whole := digits.take point.toNat ++ Number.zeros (point.toNat - digits.length)
          let fraction := digits.drop point.toNat
          sign ++ whole ++ "." ++ if fraction.isEmpty then Number.zeros 1 else fraction
        else
          let exponent := point - 1
          let head : Text :=
            if digits.length > 1 then digits.take 1 ++ "." ++ digits.drop 1 else digits
          let magnitude := Text.ofNat exponent.natAbs
          let padding := Number.zeros (2 - magnitude.length)
          sign ++ head ++ "e" ++ (if exponent ≥ 0 then "+" else "-" : String) ++
            padding ++ magnitude

mutual

def shown : Setting → Text
  | .null => "None"
  | .boolean flag => (if flag then "True" else "False" : String)
  | .integer whole => Text.ofInt whole
  | .number double => showDouble double
  | .text content => content.quoted
  | .list entries => "[" ++ Text.joinWith ", " (shownEntries entries) ++ "]"
  | .mapping entries => "\x7b" ++ Text.joinWith ", " (shownPairs entries) ++ "\x7d"
  | .other _ form => form

def shownEntries : List Setting → List Text
  | [] => []
  | entry :: entries => shown entry :: shownEntries entries

def shownPairs : List (Setting × Setting) → List Text
  | [] => []
  | (key, entry) :: entries => (shown key ++ ": " ++ shown entry) :: shownPairs entries

end

end Setting

end ComponentInliner
