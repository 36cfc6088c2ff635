/-!
# Text

Author text is a sequence of Unicode code points. Unlike a `String`, such a sequence may hold
surrogates on their own: a string literal can spell half of a surrogate pair, and the halves
keep their identity until two of them meet and are joined. Everything that comes out of a
component module is therefore a `Text`; a `String` embeds into it by `Text.ofString`.

The file gives the embedding, its partial inverse, and the searching, cutting and replacing
operations that the rest of the library needs on text.
-/

namespace ComponentInliner

/-- A Unicode code point. The surrogates from `0xD800` to `0xDFFF` are code points. -/
abbrev CodePoint := Fin 0x110000

namespace CodePoint

instance (number : Nat) : OfNat CodePoint number :=
  ⟨number % 0x110000, Nat.mod_lt number (by decide)⟩

instance : LawfulBEq CodePoint := inferInstance

def ofChar (character : Char) : CodePoint :=
  ⟨character.val.toNat, by
    have valid := character.valid
    simp only [UInt32.isValidChar, Nat.isValidChar] at valid
    omega⟩

instance : Coe Char CodePoint := ⟨ofChar⟩

/-- The code point with a given number, if there is one. -/
def ofNat? (number : Nat) : Option CodePoint :=
  if inRange : number < 0x110000 then some ⟨number, inRange⟩ else none

def isSurrogate (point : CodePoint) : Bool :=
  0xD800 ≤ point.val && point.val ≤ 0xDFFF

/-- First halves of surrogate pairs. -/
def isHighSurrogate (point : CodePoint) : Bool :=
  0xD800 ≤ point.val && point.val ≤ 0xDBFF

/-- Second halves of surrogate pairs. -/
def isLowSurrogate (point : CodePoint) : Bool :=
  0xDC00 ≤ point.val && point.val ≤ 0xDFFF

/-- Code points between two characters, ends included. -/
def isBetween (first last : Char) (point : CodePoint) : Bool :=
  first.toNat ≤ point.val && point.val ≤ last.toNat

def isAsciiDigit (point : CodePoint) : Bool :=
  point.isBetween '0' '9'

def isAsciiLetter (point : CodePoint) : Bool :=
  point.isBetween 'a' 'z' || point.isBetween 'A' 'Z'

/-- Lower case of the letters `A` to `Z`; every other code point stays. -/
def asciiLower (point : CodePoint) : CodePoint :=
  if upper : 65 ≤ point.val ∧ point.val ≤ 90 then ⟨point.val + 32, by omega⟩ else point

/-- The scalar value of a code point that is not a surrogate. -/
def toChar? (point : CodePoint) : Option Char :=
  if point.isSurrogate then none else some (Char.ofNat point.val)

end CodePoint

/-- A sequence of code points. -/
abbrev Text := List CodePoint

namespace Text

instance : LawfulBEq Text := inferInstance

def ofString (string : String) : Text :=
  string.toList.map CodePoint.ofChar

instance : Coe String Text := ⟨ofString⟩

/-- The string with the given code points; there is none if one of them is a surrogate. -/
def toString? (text : Text) : Option String :=
  (text.mapM CodePoint.toChar?).map String.ofList

/-- The string with the given code points, where a surrogate is shown as U+FFFD. -/
def toStringLossy (text : Text) : String :=
  String.ofList (text.map fun point => point.toChar?.getD (Char.ofNat 0xFFFD))

/-- Decimal digits of a natural number. -/
def ofNat (number : Nat) : Text :=
  ofString number.repr

/-- Decimal digits of an integer, with a minus sign if it is negative. -/
def ofInt (number : Int) : Text :=
  ofString number.repr

def hasSurrogate (text : Text) : Bool :=
  text.any CodePoint.isSurrogate

/-- The text without a given beginning, if it has that beginning. -/
def dropPrefix? (start : Text) (text : Text) : Option Text :=
  match start, text with
  | [], rest => some rest
  | _ :: _, [] => none
  | expected :: start, point :: rest => if expected = point then dropPrefix? start rest else none

def startsWith (text start : Text) : Bool :=
  (dropPrefix? start text).isSome

def endsWith (text ending : Text) : Bool :=
  startsWith text.reverse ending.reverse

/-- The text before and after the first occurrence of `needle`. -/
def splitFirst? (needle : Text) : Text → Option (Text × Text)
  | [] => if needle.isEmpty then some ([], []) else none
  | point :: rest =>
      match dropPrefix? needle (point :: rest) with
      | some after => some ([], after)
      | none => (splitFirst? needle rest).map fun (before, after) => (point :: before, after)

def contains (text needle : Text) : Bool :=
  (splitFirst? needle text).isSome

def replacePoint (point : CodePoint) (replacement : Text) (text : Text) : Text :=
  text.flatMap fun current => if current = point then replacement else [current]

def trimBoth (drop : CodePoint → Bool) (text : Text) : Text :=
  ((text.dropWhile drop).reverse.dropWhile drop).reverse

def joinWith (separator : Text) (texts : List Text) : Text :=
  List.intercalate separator texts

/-- Splits at every occurrence of one code point; the separators are dropped. -/
def splitOnPoint (separator : CodePoint) : Text → List Text
  | [] => [[]]
  | point :: rest =>
      match splitOnPoint separator rest with
      | [] => [[]]
      | piece :: pieces =>
          if point = separator then [] :: piece :: pieces else (point :: piece) :: pieces

/-- Lexicographic order by code point. -/
def lexicographicLe (left right : Text) : Bool :=
  match left, right with
  | [], _ => true
  | _ :: _, [] => false
  | leftPoint :: left, rightPoint :: right =>
      if leftPoint = rightPoint then lexicographicLe left right else leftPoint < rightPoint

end Text

end ComponentInliner
