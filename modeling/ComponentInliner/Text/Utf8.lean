import ComponentInliner.Text.Basic

/-!
# UTF-8

Texts are kept in files as UTF-8. A text with a surrogate has no encoding. Reading is strict: no
overlong forms, no surrogates, nothing beyond the last code point.
-/

namespace ComponentInliner.Text

/-- The bytes of a file. -/
abbrev Bytes := List UInt8

def encodePoint (point : CodePoint) : Bytes :=
  let number := point.val
  let trailing (shift : Nat) : UInt8 := UInt8.ofNat (0x80 + number / Nat.pow 2 shift % 64)
  if number < 0x80 then
    [UInt8.ofNat number]
  else if number < 0x800 then
    [UInt8.ofNat (0xC0 + number / 0x40), trailing 0]
  else if number < 0x10000 then
    [UInt8.ofNat (0xE0 + number / 0x1000), trailing 6, trailing 0]
  else
    [UInt8.ofNat (0xF0 + number / 0x40000), trailing 12, trailing 6, trailing 0]

/-- The encoding of a text; there is none if it holds a surrogate. -/
def encode? (text : Text) : Option Bytes :=
  if text.hasSurrogate then none else some (text.flatMap encodePoint)

/-- What is known in the middle of a code point. -/
structure Partial where
  /-- How many octets are still to come. -/
  owed : Nat
  /-- The number that the octets so far spell. -/
  number : Nat
  /-- The least number that needs so many octets. -/
  least : Nat

/-- What the first octet of a code point says, unless the octet is the whole code point. -/
def leading? (octet : Nat) : Option Partial :=
  if 0xC2 ≤ octet ∧ octet < 0xE0 then some ⟨1, octet - 0xC0, 0x80⟩
  else if 0xE0 ≤ octet ∧ octet < 0xF0 then some ⟨2, octet - 0xE0, 0x800⟩
  else if 0xF0 ≤ octet ∧ octet < 0xF5 then some ⟨3, octet - 0xF0, 0x10000⟩
  else none

def completed? (number least : Nat) : Option CodePoint :=
  match CodePoint.ofNat? number with
  | some point => if number < least ∨ point.isSurrogate then none else some point
  | none => none

/-- The text that octets encode; `current` is the code point they begin in the middle of. -/
def decodeFrom (current : Option Partial) : Bytes → Option Text
  | [] => if current.isNone then some [] else none
  | octet :: rest =>
      match current with
      | none =>
          match CodePoint.ofNat? octet.toNat with
          | some point =>
              if octet.toNat < 0x80 then (decodeFrom none rest).map (point :: ·)
              else (leading? octet.toNat).bind fun started => decodeFrom (some started) rest
          | none => none
      | some started =>
          if 0x80 ≤ octet.toNat ∧ octet.toNat < 0xC0 then
            let number := started.number * 64 + (octet.toNat - 0x80)
            if started.owed ≤ 1 then
              (completed? number started.least).bind fun point =>
                (decodeFrom none rest).map (point :: ·)
            else
              decodeFrom (some ⟨started.owed - 1, number, started.least⟩) rest
          else
            none

def decode? (octets : Bytes) : Option Text :=
  decodeFrom none octets

end ComponentInliner.Text
