import ComponentInliner.Text.Quoted

/-!
# Binaries

A scalar may spell octets in base 64: four digits of six bits each spell three octets, and equals
signs fill up a last group that is shorter. What is no digit is skipped. `octets?` reads a text,
`binaryText` writes one, in lines of at most 76 digits.
-/

namespace ComponentInliner.Yaml

/-- The digits of base 64 from the least to the greatest. -/
def binaryDigits : Text :=
  "ABCDEFGHIJKLMNOPQRSTUVWXYZabcdefghijklmnopqrstuvwxyz0123456789+/"

def binaryDigit? (point : CodePoint) : Option Nat :=
  binaryDigits.findIdx? (· = point)

/-- A group of digits that is not finished. -/
structure OpenGroup where
  /-- How many digits of the group were read. -/
  count : Nat
  /-- The bits that are in no octet yet. -/
  bits : Nat
  /-- The equals signs since the last digit. -/
  fillers : Nat

namespace OpenGroup

def empty : OpenGroup := ⟨0, 0, 0⟩

/-- Whether the next equals sign fills the group up. -/
def isFilling (group : OpenGroup) : Bool :=
  2 ≤ group.count && 4 ≤ group.count + group.fillers + 1

def fill (group : OpenGroup) : OpenGroup :=
  if 2 ≤ group.count then { group with fillers := group.fillers + 1 } else group

/-- Adds a digit to a group, which finishes an octet unless the digit is the first one. -/
def add (digit : Nat) (group : OpenGroup) : OpenGroup × List Nat :=
  if group.count = 0 then
    (⟨1, digit, 0⟩, [])
  else
    let bits := group.bits * 64 + digit
    let unit := 1 <<< (6 - 2 * group.count)
    (⟨(group.count + 1) % 4, bits % unit, 0⟩, [bits / unit])

end OpenGroup

/-- The octets that a text spells after a part of a group, unless its last group is too short. -/
def octetsFrom? (group : OpenGroup) : Text → Option (List Nat)
  | [] => if group.count = 0 then some [] else none
  | point :: rest =>
      if point = '=' then
        if group.isFilling then some [] else octetsFrom? group.fill rest
      else
        match binaryDigit? point with
        | none => octetsFrom? group rest
        | some digit =>
            let (next, finished) := group.add digit
            (octetsFrom? next rest).map (finished ++ ·)

/-- The octets that a text of ASCII characters spells. -/
def octets? (text : Text) : Option (List Nat) :=
  if text.all fun point => point.val < 128 then octetsFrom? .empty text else none

example : octets? "aGk=" = some [104, 105] := by decide

/-- How messages show octets: those that are no printable characters of ASCII are escaped. -/
def shownOctets (octets : List Nat) : Text :=
  let points := octets.filterMap CodePoint.ofNat?
  let quote := Text.quoteFor points
  let shown (point : CodePoint) : Text :=
    if 127 ≤ point.val then "\\x" ++ Text.hexadecimal 2 point.val else Text.quotedPoint quote point
  "b" ++ (CodePoint.ofChar quote :: points.flatMap shown) ++ [CodePoint.ofChar quote]

/-- The digit for the lowest six bits of a number. -/
def digitFor (number : Nat) : CodePoint :=
  (binaryDigits[number % 64]?).getD '='

/-- The digits of octets, the last group of which is filled up. -/
def digitsOf : List Nat → Text
  | first :: second :: third :: rest =>
      let bits := first * 0x10000 + second * 0x100 + third
      digitFor (bits / 0x40000) :: digitFor (bits / 0x1000) :: digitFor (bits / 0x40) ::
        digitFor bits :: digitsOf rest
  | [first, second] =>
      let bits := first * 0x400 + second * 0x4
      [digitFor (bits / 0x1000), digitFor (bits / 0x40), digitFor bits, '=']
  | [first] => [digitFor (first / 4), digitFor (first * 16), '=', '=']
  | [] => []

/-- The lines of digits that octets are written in. -/
def binaryLines (octets : List Nat) : List Text :=
  let digits := digitsOf octets
  (List.range ((digits.length + 75) / 76)).map fun line => (digits.drop (76 * line)).take 76

end ComponentInliner.Yaml
