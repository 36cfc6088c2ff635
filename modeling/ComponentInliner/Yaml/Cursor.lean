import ComponentInliner.Text.Basic

/-!
# Places in a YAML text

Indentation decides structure in YAML, so reading a text means knowing the line and the column of
every place. A `Cursor` is such a place. The file also has the classes of code points that end
lines and words.
-/

namespace ComponentInliner.Yaml

/-- Code points that may stand in a YAML text. -/
def isAllowed (point : CodePoint) : Bool :=
  let number := point.val
  number = 9 || number = 10 || number = 13 || (0x20 ≤ number && number ≤ 0x7E) || number = 0x85 ||
    (0xA0 ≤ number && number ≤ 0xD7FF) || (0xE000 ≤ number && number ≤ 0xFFFD) || 0x10000 ≤ number

def isBreak (point : CodePoint) : Bool :=
  let number := point.val
  number = 10 || number = 13 || number = 0x85 || number = 0x2028 || number = 0x2029

/-- Whether what comes next ends a line; the end of the text does. -/
def endsLine (next? : Option CodePoint) : Bool :=
  next?.all isBreak

/-- Whether what comes next is a space, a tab or the end of a line. -/
def isGap (next? : Option CodePoint) : Bool :=
  next?.all fun point : CodePoint => point.val = 32 || point.val = 9 || isBreak point

/-- Whether a text begins with one of two document markers that stands alone. -/
def beginsWithMarker (markers : List Text) (text : Text) : Bool :=
  markers.any fun marker => match Text.dropPrefix? marker text with
    | some rest => isGap rest.head?
    | none => false

def documentMarkers : List Text := ["---", "..."]

/-- A place in a text. -/
structure Cursor where
  rest : Text
  index : Nat
  line : Nat
  column : Nat

namespace Cursor

def start (text : Text) : Cursor :=
  ⟨text, 0, 0, 0⟩

def next? (cursor : Cursor) : Option CodePoint :=
  cursor.rest.head?

def isAt (cursor : Cursor) (character : Char) : Bool :=
  cursor.next? = some (CodePoint.ofChar character)

/-- The place one code point further. A byte order mark takes no column. -/
def step (cursor : Cursor) : Cursor :=
  match cursor.rest with
  | [] => cursor
  | point :: rest =>
      let endsHere := isBreak point && !(point.val = 13 && rest.head? = some '\n')
      if endsHere then ⟨rest, cursor.index + 1, cursor.line + 1, 0⟩
      else
        let width := if point.val = 0xFEFF then 0 else 1
        ⟨rest, cursor.index + 1, cursor.line, cursor.column + width⟩

def advance : (count : Nat) → Cursor → Cursor
  | 0, cursor => cursor
  | count + 1, cursor => advance count cursor.step

/-- The place after the code points of a class. -/
def skipWhile (accepts : CodePoint → Bool) (cursor : Cursor) : Cursor :=
  cursor.advance (cursor.rest.takeWhile accepts).length

def skipSpaces (cursor : Cursor) : Cursor :=
  cursor.skipWhile fun point : CodePoint => point = ' '

def skipLine (cursor : Cursor) : Cursor :=
  cursor.skipWhile fun point => !isBreak point

/-- The line break at a place, as it counts in a scalar, and the place after it. -/
def takeBreak (cursor : Cursor) : Text × Cursor :=
  match cursor.rest with
  | [] => ([], cursor)
  | point :: rest =>
      if !isBreak point then ([], cursor)
      else if point.val = 13 && rest.head? = some '\n' then ("\n", cursor.advance 2)
      else if point.val = 0x2028 || point.val = 0x2029 then ([point], cursor.step)
      else ("\n", cursor.step)

/-- The line breaks from a place on, with the blanks before each; at most `count` of them. -/
def takeBreaks (isBlank : CodePoint → Bool) : (count : Nat) → Cursor → List Text × Cursor
  | 0, cursor => ([], cursor)
  | count + 1, cursor =>
      let cursor := cursor.skipWhile isBlank
      let (lineBreak, after) := cursor.takeBreak
      if lineBreak.isEmpty then
        ([], cursor)
      else
        let (breaks, last) := takeBreaks isBlank count after
        (lineBreak :: breaks, last)

end Cursor

/-- How line breaks between words are read: one becomes a space, of several the first is lost. -/
def foldedBreaks (first : Text) (others : List Text) : Text :=
  if first ≠ "\n" then first ++ others.flatten
  else if others.isEmpty then " "
  else others.flatten

end ComponentInliner.Yaml
