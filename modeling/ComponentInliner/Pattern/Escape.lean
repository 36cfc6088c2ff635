import ComponentInliner.Pattern.Reader
import ComponentInliner.Text.CodePointName
import ComponentInliner.Text.Identifier

/-!
# Escapes and sets

A backslash makes a code point mean something else: a control character, a code point by its number
or name, a class, a boundary, or what a group took. Inside of sets there are neither boundaries nor
groups.
-/

namespace ComponentInliner.Pattern

/-- The digits `0` to `7`. -/
def isOctalDigit (point : CodePoint) : Bool :=
  point.isBetween '0' '7'

def hexadecimalDigit? (point : CodePoint) : Option Nat :=
  if point.isAsciiDigit then some (point.val - 48)
  else if point.isBetween 'a' 'f' then some (point.val - 87)
  else if point.isBetween 'A' 'F' then some (point.val - 55)
  else none

def numberOf (radix : Nat) (digits : Text) : Nat :=
  digits.foldl (fun number point => number * radix + (hexadecimalDigit? point).getD 0) 0

/-- Numbers of escapes from this one on cannot be tried as code points. -/
def escapeLimit : Nat := 0x80000000

/-- Reads an escape for a code point by its number, with a fixed count of hexadecimal digits. -/
def readHexadecimal (letter : CodePoint) (count : Nat) : Reader CodePoint := do
  let digits ← readWhile (fun point => (hexadecimalDigit? point).isSome) count
  let escape : Text := '\\' :: letter :: digits
  if digits.length < count then
    failBack (.incompleteEscape escape) escape.length
  else
    let number := numberOf 16 digits
    match CodePoint.ofNat? number with
    | some point => return point
    | none =>
        if number ≥ escapeLimit then fail .largeEscape
        else failBack (.badEscape escape) escape.length

/-- Reads an escape for a code point by its name, whose letter was read. -/
def readNamed (letter : CodePoint) : Reader CodePoint := do
  if !(← accept '\x7b') then
    failBack .missingBrace 0
  let name ← readUntil '\x7d' "character name"
  if name.hasSurrogate then
    failBack (.badEscape ['\\', letter]) 2
  match CodePointName.find? name with
  | some point => return point
  | none => failBack (.unknownCharacter name) (name.length + 4)

def octalPoint (digits : Text) : Reader CodePoint := do
  let number := numberOf 8 digits
  match CodePoint.ofNat? number with
  | some point =>
      if number ≤ 0o377 then return point
      else failBack (.largeOctal ('\\' :: digits)) (digits.length + 1)
  | none => failBack (.largeOctal ('\\' :: digits)) (digits.length + 1)

def controlEscapes : List (Char × CodePoint) :=
  [('a', 7), ('f', 12), ('n', 10), ('r', 13), ('t', 9), ('v', 11), ('\\', '\\')]

def classEscapes : List (Char × SetMember) :=
  [('d', .named false .digit), ('D', .named true .digit), ('s', .named false .blank),
    ('S', .named true .blank), ('w', .named false .word), ('W', .named true .word)]

def boundaryEscapes : List (Char × Boundary) :=
  [('A', .textStart), ('b', .wordEdge), ('B', .wordInside), ('Z', .lastEnd)]

def entryFor? {Entry : Type} (entries : List (Char × Entry)) (point : CodePoint) : Option Entry :=
  (entries.find? fun entry => point = entry.1).map Prod.snd

/-- Reads the rest of an escape that means the same inside and outside of sets. -/
def readSharedEscape (point : CodePoint) : Reader CodePoint := do
  match entryFor? controlEscapes point with
  | some control => return control
  | none =>
      if point = 'x' then readHexadecimal point 2
      else if point = 'u' then readHexadecimal point 4
      else if point = 'U' then readHexadecimal point 8
      else if point = 'N' then readNamed point
      else if point.isAsciiLetter then failBack (.badEscape ['\\', point]) 2
      else return point

def readSetEscape (point : CodePoint) : Reader SetMember := do
  match entryFor? classEscapes point with
  | some member => return member
  | none =>
      if point = 'b' then
        return .range 8 8
      else if isOctalDigit point then
        let octal ← octalPoint (point :: (← readWhile isOctalDigit 2))
        return .range octal octal
      else if point.isAsciiDigit then
        failBack (.badEscape ['\\', point]) 2
      else
        let single ← readSharedEscape point
        return .range single single

/-- A member of a set as it is read, with its spelling for messages. -/
structure ReadMember where
  member : SetMember
  spelling : Text

/-- Reads the rest of a member of a set that begins with a lexeme. -/
def readMember (lexeme : Lexeme) : Reader ReadMember := do
  match lexeme with
  | .plain point => return ⟨.range point point, [point]⟩
  | .escaped point => return ⟨← readSetEscape point, lexeme.text⟩

def rangeOf (first last : ReadMember) : Reader SetMember := do
  let problem := PatternProblem.badRange first.spelling last.spelling
  let back := first.spelling.length + 1 + last.spelling.length
  match first.member, last.member with
  | .range low _, .range high _ =>
      if high < low then failBack problem back else return .range low high
  | _, _ => failBack problem back

/-- Reads a member of a set that began at a position, or its closing bracket. -/
def memberStep (start : Nat) (members : List SetMember) :
    Reader (Step (List SetMember) (List SetMember)) := do
  match ← advance with
  | none => failAt .unterminatedSet start
  | some lexeme =>
      if lexeme.isPlain ']' && !members.isEmpty then
        return .done members
      let first ← readMember lexeme
      if !(← accept '-') then
        return .again (members ++ [first.member])
      match ← advance with
      | none => failAt .unterminatedSet start
      | some lexeme =>
          if lexeme.isPlain ']' then
            return .done (members ++ [first.member, .range '-' '-'])
          let last ← readMember lexeme
          return .again (members ++ [← rangeOf first last])

/-- Reads the members of a set up to its closing bracket. -/
def readMembers (start : Nat) : Reader (List SetMember) :=
  readOn (memberStep start) []

/-- What an item of a sequence is, as far as a repetition after it is concerned. -/
inductive ItemKind where
  | boundary
  | repetition
  | plain
  deriving DecidableEq, Repr

structure Item where
  kind : ItemKind
  pattern : Pattern

def literalItem (mode : PatternMode) (point : CodePoint) : Item :=
  ⟨.plain, .oneOf mode false [.range point point]⟩

/-- Checks that a group may be referred to where something is looked back over. -/
def checkBehind (group : Nat) : Reader Unit := do
  let found ← findings
  if let some count := found.behindGroups? then
    if (found.closed? group).isNone then
      failBack .openGroup 0
    if count ≤ group then
      failBack .groupBehind 0

/-- The item for what a group took; `back` tells where the reference begins if the group is open. -/
def referenceItem (mode : PatternMode) (group back : Nat) : Reader Item := do
  match (← findings).closed? group with
  | none => failBack .openGroup back
  | some widths =>
      checkBehind group
      return ⟨.plain, .reference mode group widths⟩

/-- Reads a reference to a group, whose first digit was read, or an octal escape. -/
def readDigitEscape (mode : PatternMode) (digit : CodePoint) : Reader Item := do
  if digit = '0' then
    return literalItem mode (← octalPoint (digit :: (← readWhile isOctalDigit 2)))
  let second ← readWhile CodePoint.isAsciiDigit 1
  let isOctal := isOctalDigit digit && !second.isEmpty && second.all isOctalDigit
  let third ← if isOctal then readWhile isOctalDigit 1 else pure []
  if third.isEmpty then
    let digits := digit :: second
    let group := numberOf 10 digits
    if group < (← findings).groups.length then referenceItem mode group (digits.length + 1)
    else failBack (.unknownGroup group) digits.length
  else
    return literalItem mode (← octalPoint (digit :: second ++ third))

/-- Reads the rest of an escape outside of sets. -/
def readEscape (mode : PatternMode) (point : CodePoint) : Reader Item := do
  match entryFor? boundaryEscapes point, entryFor? classEscapes point with
  | some condition, _ => return ⟨.boundary, .boundary mode condition⟩
  | none, some member => return ⟨.plain, .oneOf mode false [member]⟩
  | none, none =>
      if point.isAsciiDigit then readDigitEscape mode point
      else return literalItem mode (← readSharedEscape point)

end ComponentInliner.Pattern
