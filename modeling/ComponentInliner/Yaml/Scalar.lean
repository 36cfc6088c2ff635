import ComponentInliner.Yaml.Cursor

/-!
# Scalars as they are written

The text of a YAML scalar from the way it is written: plain, between single or double quotes, or
as a block of lines. Each reader gives the text and the place after it, or nothing if the scalar
is malformed.
-/

namespace ComponentInliner.Yaml

structure ReadScalar where
  text : Text
  after : Cursor
  endedLine : Bool

/-! ## Plain scalars -/

def endsPlainWord (inFlow : Bool) : Text → Bool
  | [] => true
  | point :: rest =>
      let indicators : Text := ",[]\x7b\x7d"
      isGap (some point) ||
        (point = ':' && (isGap rest.head? || (inFlow && rest.head?.any (· ∈ indicators)))) ||
        (inFlow && (point = '?' || point ∈ indicators))

/-- How many code points the plain word at the front of a text has. -/
def plainWordLength (inFlow : Bool) : Text → Nat
  | [] => 0
  | point :: rest =>
      if endsPlainWord inFlow (point :: rest) then 0 else plainWordLength inFlow rest + 1

/-- What stands between two words of a plain scalar. -/
structure PlainGap where
  text : Text
  after : Cursor
  endedLine : Bool
  isFinal : Bool

def plainGap (cursor : Cursor) : PlainGap :=
  let isSpace (point : CodePoint) : Bool := point = ' '
  let blanks := cursor.rest.takeWhile isSpace
  let afterBlanks := cursor.advance blanks.length
  let (first, afterFirst) := afterBlanks.takeBreak
  if first.isEmpty then
    ⟨blanks, afterBlanks, false, false⟩
  else if beginsWithMarker documentMarkers afterFirst.rest then
    ⟨[], afterFirst, true, true⟩
  else
    let (others, last) := afterFirst.takeBreaks isSpace (afterFirst.rest.length + 1)
    if (others.length > 0 && beginsWithMarker documentMarkers last.rest) then
      ⟨[], last, true, true⟩
    else
      ⟨foldedBreaks first others, last, true, false⟩

/-- Reads the words of a plain scalar after those read so far; at most `count` of them. -/
def plainWords (inFlow : Bool) (indent : Nat) (read gap : Text) (endedLine : Bool)
    (cursor : Cursor) : (count : Nat) → ReadScalar
  | 0 => ⟨read, cursor, endedLine⟩
  | count + 1 =>
      let length := plainWordLength inFlow cursor.rest
      if cursor.isAt '#' || length = 0 then
        ⟨read, cursor, endedLine⟩
      else
        let text := read ++ gap ++ cursor.rest.take length
        let next := plainGap (cursor.advance length)
        let ends := next.isFinal || next.text.isEmpty || next.after.isAt '#' ||
          (!inFlow && next.after.column < indent)
        if ends then ⟨text, next.after, next.endedLine⟩
        else plainWords inFlow indent text next.text next.endedLine next.after count

/-- Reads a plain scalar whose further lines are indented by at least `indent` columns. -/
def plainScalar (inFlow : Bool) (indent : Nat) (cursor : Cursor) : ReadScalar :=
  plainWords inFlow indent [] [] false cursor (cursor.rest.length + 1)

/-! ## Quoted scalars -/

/-- What the letters after a backslash stand for. -/
def quotedEscapes : List (Char × Nat) :=
  [('0', 0), ('a', 7), ('b', 8), ('t', 9), ('\t', 9), ('n', 10), ('v', 11), ('f', 12), ('r', 13),
    ('e', 27), (' ', 32), ('"', 34), ('\\', 92), ('/', 47), ('N', 0x85), ('_', 0xA0),
    ('L', 0x2028), ('P', 0x2029)]

/-- The letters after a backslash that so many hexadecimal digits follow. -/
def numericEscapes : List (Char × Nat) :=
  [('x', 2), ('u', 4), ('U', 8)]

def hexadecimalDigit? (point : CodePoint) : Option Nat :=
  if point.isAsciiDigit then some (point.val - 48)
  else if point.isBetween 'a' 'f' then some (point.val - 87)
  else if point.isBetween 'A' 'F' then some (point.val - 55)
  else none

def hexadecimalNumber? (digits : Text) : Option Nat := do
  return (← digits.mapM hexadecimalDigit?).foldl (fun number digit => number * 16 + digit) 0

def entryFor? {Entry : Type} (entries : List (Char × Entry)) (point : CodePoint) : Option Entry :=
  (entries.find? fun entry => point = entry.1).map Prod.snd

def isQuotedBlank (point : CodePoint) : Bool :=
  point.val = 32 || point.val = 9

/-- The line breaks inside a quoted scalar; no document marker may follow one. -/
def quotedBreaks? : (count : Nat) → Cursor → Option (List Text × Cursor)
  | 0, _ => none
  | count + 1, cursor =>
      if beginsWithMarker documentMarkers cursor.rest then
        none
      else
        let cursor := cursor.skipWhile isQuotedBlank
        let (lineBreak, after) := cursor.takeBreak
        if lineBreak.isEmpty then
          some ([], cursor)
        else do
          let (breaks, last) ← quotedBreaks? count after
          return (lineBreak :: breaks, last)

/-- Reads an escape after its backslash. -/
def quotedEscape? (cursor : Cursor) : Option (Text × Cursor) := do
  let letter ← cursor.next?
  match entryFor? quotedEscapes letter, entryFor? numericEscapes letter with
  | some number, _ => return ([← CodePoint.ofNat? number], cursor.step)
  | none, some count =>
      let digits := cursor.step.rest.take count
      if digits.length < count then
        none
      else
        return ([← CodePoint.ofNat? (← hexadecimalNumber? digits)], cursor.step.advance count)
  | none, none =>
      let (lineBreak, after) := cursor.takeBreak
      if lineBreak.isEmpty then
        none
      else
        let (breaks, last) ← quotedBreaks? (after.rest.length + 1) after
        return (breaks.flatten, last)

/-- Reads blanks and line breaks inside a quoted scalar. -/
def quotedGap? (cursor : Cursor) : Option (Text × Cursor) := do
  let blanks := cursor.rest.takeWhile isQuotedBlank
  let afterBlanks := cursor.advance blanks.length
  let (first, after) := afterBlanks.takeBreak
  if afterBlanks.next?.isNone then
    none
  else if first.isEmpty then
    return (blanks, afterBlanks)
  else
    let (others, last) ← quotedBreaks? (after.rest.length + 1) after
    return (foldedBreaks first others, last)

/-- Reads the rest of a quoted scalar after what was read so far; at most `count` pieces. -/
def quotedPieces? (isDouble : Bool) (read : Text) :
    (count : Nat) → Cursor → Option ReadScalar
  | 0, _ => none
  | count + 1, cursor => do
      let quote : CodePoint := if isDouble then '"' else '\''
      let point ← cursor.next?
      if point = quote then
        if !isDouble && cursor.step.next? = some quote then
          quotedPieces? isDouble (read ++ [quote]) count (cursor.advance 2)
        else
          return ⟨read, cursor.step, false⟩
      else if isDouble && point = '\\' then
        let (text, after) ← quotedEscape? cursor.step
        quotedPieces? isDouble (read ++ text) count after
      else if isGap (some point) then
        let (text, after) ← quotedGap? cursor
        quotedPieces? isDouble (read ++ text) count after
      else
        quotedPieces? isDouble (read ++ [point]) count cursor.step

def quotedScalar? (isDouble : Bool) (cursor : Cursor) : Option ReadScalar :=
  quotedPieces? isDouble [] (cursor.rest.length + 1) cursor.step

/-! ## Block scalars -/

/-- What becomes of the line breaks at the end of a block scalar. -/
inductive Chomping where
  | clip
  | keep
  | strip
  deriving DecidableEq, Repr

structure BlockHead where
  chomping : Chomping
  increment? : Option Nat
  after : Cursor

/-- The sign in the head of a block scalar, if one comes next. -/
def chompingAt? (cursor : Cursor) : Option Chomping :=
  if cursor.isAt '+' then some .keep else if cursor.isAt '-' then some .strip else none

/-- The digit in the head of a block scalar, if one comes next. -/
def incrementAt? (cursor : Cursor) : Option Nat :=
  match cursor.next? with
  | some point => if point.isAsciiDigit then some (point.val - 48) else none
  | none => none

/-- Reads the sign and the digit in the head of a block scalar, in any order. -/
def blockIndicators (cursor : Cursor) : BlockHead :=
  match chompingAt? cursor, incrementAt? cursor with
  | some chomping, _ =>
      match incrementAt? cursor.step with
      | some increment => ⟨chomping, some increment, cursor.advance 2⟩
      | none => ⟨chomping, none, cursor.step⟩
  | none, some increment =>
      match chompingAt? cursor.step with
      | some chomping => ⟨chomping, some increment, cursor.advance 2⟩
      | none => ⟨.clip, some increment, cursor.step⟩
  | none, none => ⟨.clip, none, cursor⟩

/-- Reads the head of a block scalar with the comment and the line break after it. -/
def blockHead? (cursor : Cursor) : Option BlockHead :=
  let head := blockIndicators cursor
  let afterSpaces := head.after.skipSpaces
  let afterComment := if afterSpaces.isAt '#' then afterSpaces.skipLine else afterSpaces
  if head.increment? = some 0 || !isGap head.after.next? || !endsLine afterComment.next? then
    none
  else
    some { head with after := afterComment.takeBreak.2 }

/-- The blank lines at the beginning of a block and the deepest column that spaces reach. -/
def blockIndentation (deepest : Nat) : (count : Nat) → Cursor → List Text × Nat × Cursor
  | 0, cursor => ([], deepest, cursor)
  | count + 1, cursor =>
      if cursor.isAt ' ' then
        let next := cursor.step
        blockIndentation (max deepest next.column) count next
      else
        let (lineBreak, after) := cursor.takeBreak
        if lineBreak.isEmpty then
          ([], deepest, cursor)
        else
          let (breaks, reached, last) := blockIndentation deepest count after
          (lineBreak :: breaks, reached, last)

def skipTo (indent : Nat) (cursor : Cursor) : Cursor :=
  let spaces := (cursor.rest.takeWhile fun point : CodePoint => point = ' ').length
  cursor.advance (min spaces (indent - cursor.column))

/-- The blank lines from a place on, where lines are indented to a column. -/
def blockBreaks (indent : Nat) : (count : Nat) → Cursor → List Text × Cursor
  | 0, cursor => ([], cursor)
  | count + 1, cursor =>
      let cursor := skipTo indent cursor
      let (lineBreak, after) := cursor.takeBreak
      if lineBreak.isEmpty then
        ([], cursor)
      else
        let (breaks, last) := blockBreaks indent count after
        (lineBreak :: breaks, last)

/-- What is left over at the end of the lines of a block. -/
structure BlockEnd where
  text : Text
  lastBreak : Text
  blankLines : List Text
  after : Cursor

/-- Reads the lines of a block after those read so far; at most `count` of them. -/
def blockLines (isFolded : Bool) (indent : Nat) (read : Text) (blankLines : List Text)
    (lastBreak : Text) (cursor : Cursor) : (count : Nat) → BlockEnd
  | 0 => ⟨read, lastBreak, blankLines, cursor⟩
  | count + 1 =>
      if cursor.column ≠ indent || cursor.next?.isNone then
        ⟨read, lastBreak, blankLines, cursor⟩
      else
        let isText (next? : Option CodePoint) : Bool := !next?.any isQuotedBlank
        let line := cursor.rest.takeWhile fun point => !isBreak point
        let (lineBreak, afterBreak) := (cursor.advance line.length).takeBreak
        let (breaks, after) := blockBreaks indent (afterBreak.rest.length + 1) afterBreak
        let text := read ++ blankLines.flatten ++ line
        if after.column = indent && after.next?.isSome then
          let folds := isFolded && lineBreak == "\n" && isText cursor.next? && isText after.next?
          let joint : Text :=
            if folds then (if breaks.isEmpty then " " else "" : String) else lineBreak
          blockLines isFolded indent (text ++ joint) breaks lineBreak after count
        else
          ⟨text, lineBreak, breaks, after⟩

/-- Reads a block scalar from the mark at its head on; it is part of what is indented by `outer`. -/
def blockScalar? (isFolded : Bool) (outer : Int) (cursor : Cursor) : Option ReadScalar := do
  let head ← blockHead? cursor.step
  let least := max 1 (outer + 1).toNat
  let count := head.after.rest.length + 1
  let (breaks, indent, start) := match head.increment? with
    | some increment =>
        let indent := least + increment - 1
        let (breaks, start) := blockBreaks indent count head.after
        (breaks, indent, start)
    | none =>
        let (breaks, deepest, start) := blockIndentation 0 count head.after
        (breaks, max least deepest, start)
  let block := blockLines isFolded indent [] breaks [] start count
  let ending := match head.chomping with
    | .strip => []
    | .clip => block.lastBreak
    | .keep => block.lastBreak ++ block.blankLines.flatten
  return ⟨block.text ++ ending, block.after, true⟩

end ComponentInliner.Yaml
