import ComponentInliner.Yaml.Scalar

/-!
# Tokens

A YAML text is cut into tokens, among them marks for the begin and the end of blocks that only
indentation shows. Whether a scalar is a key is known when the colon after it is seen: the scanner
remembers where a key may begin, and puts the marks there when the colon comes.

A possible key ends with its line. One that stands where a key must stand is required: if its line
ends without a colon, the text is malformed.
-/

namespace ComponentInliner.Yaml

inductive Token where
  | documentStart
  | documentEnd
  | versionDirective
  | tagDirective (handle : Text) (start : Text)
  | otherDirective
  | blockSequence
  | blockMapping
  | blockEnd
  | flowSequence
  | flowSequenceEnd
  | flowMapping
  | flowMappingEnd
  | blockEntry
  | flowEntry
  | key
  | value
  | alias (name : Text)
  | anchor (name : Text)
  | tag (handle? : Option Text) (suffix : Text)
  | scalar (text : Text) (isPlain : Bool)
  deriving DecidableEq, Repr

/-- A place where a key may begin. -/
structure PossibleKey where
  tokens : Nat
  isRequired : Bool
  index : Nat
  line : Nat
  column : Nat

/-- How far a text has been cut into tokens. -/
structure Scan where
  cursor : Cursor
  tokens : List Token
  /-- The column of the current block; there is none outside of all blocks. -/
  indent : Int
  outerIndents : List Int
  flowDepth : Nat
  allowsKey : Bool
  /-- The possible keys by the number of open flow collections. -/
  possibleKeys : List (Nat × PossibleKey)

namespace Scan

def start (text : Text) : Scan :=
  let text := if text.head?.any fun point => point.val = 0xFEFF then text.drop 1 else text
  ⟨Cursor.start text, [], -1, [], 0, true, []⟩

def inFlow (scan : Scan) : Bool :=
  scan.flowDepth > 0

def column (scan : Scan) : Int :=
  scan.cursor.column

def emit (tokens : List Token) (scan : Scan) : Scan :=
  { scan with tokens := tokens.reverse ++ scan.tokens }

def moveTo (cursor : Cursor) (scan : Scan) : Scan :=
  { scan with cursor := cursor }

def allowKey (allowsKey : Bool) (scan : Scan) : Scan :=
  { scan with allowsKey := allowsKey }

/-- Puts tokens in front of all but the first `before` tokens. -/
def insertAfter (before : Nat) (tokens : List Token) (scan : Scan) : Scan :=
  let later := scan.tokens.length - before
  { scan with tokens := scan.tokens.take later ++ tokens.reverse ++ scan.tokens.drop later }

def closeBlocks (column : Int) (scan : Scan) : Scan :=
  if scan.inFlow then
    scan
  else
    let rec close (indent : Int) (outer : List Int) (tokens : List Token) :
        Int × List Int × List Token :=
      match outer with
      | [] => (indent, [], tokens)
      | next :: rest =>
          if indent > column then close next rest (.blockEnd :: tokens) else (indent, outer, tokens)
    let (indent, outer, tokens) := close scan.indent scan.outerIndents scan.tokens
    { scan with indent := indent, outerIndents := outer, tokens := tokens }

/-- Opens a block at a column that is deeper than the current one; tells whether it did. -/
def openBlock (column : Int) (scan : Scan) : Bool × Scan :=
  if scan.indent < column then
    (true, { scan with indent := column, outerIndents := scan.indent :: scan.outerIndents })
  else
    (false, scan)

/-- Opens a block at the current column, with a token for it if it is new. -/
def openBlockHere (token : Token) (scan : Scan) : Scan :=
  let (isNew, scan) := scan.openBlock scan.column
  if isNew then scan.emit [token] else scan

/-- Whether a possible key ends with the line or is too long. -/
def isStale (scan : Scan) (key : PossibleKey) : Bool :=
  key.line ≠ scan.cursor.line || scan.cursor.index - key.index > 1024

/-- Drops the possible keys whose line has ended; a required one may not be among them. -/
def dropStaleKeys? (scan : Scan) : Option Scan :=
  let (stale, fresh) := scan.possibleKeys.partition fun entry => scan.isStale entry.2
  if stale.any fun entry => entry.2.isRequired then none
  else some { scan with possibleKeys := fresh }

/-- Drops the possible key of the current collection; it may not be required. -/
def dropKey? (scan : Scan) : Option Scan :=
  match scan.possibleKeys.lookup scan.flowDepth with
  | none => some scan
  | some key =>
      if key.isRequired then none
      else some { scan with
        possibleKeys := scan.possibleKeys.filter fun entry => entry.1 ≠ scan.flowDepth }

/-- Remembers that a key may begin here, if one may. -/
def saveKey? (scan : Scan) : Option Scan := do
  if scan.allowsKey then
    let scan ← scan.dropKey?
    let isRequired := !scan.inFlow && scan.indent = scan.column
    let key : PossibleKey :=
      ⟨scan.tokens.length, isRequired, scan.cursor.index, scan.cursor.line, scan.cursor.column⟩
    return { scan with possibleKeys := (scan.flowDepth, key) :: scan.possibleKeys }
  else
    return scan

/-- Goes to the next token: skips spaces, comments and line ends. -/
def skipToToken : (count : Nat) → Scan → Scan
  | 0, scan => scan
  | count + 1, scan =>
      let afterSpaces := scan.cursor.skipSpaces
      let afterComment := if afterSpaces.isAt '#' then afterSpaces.skipLine else afterSpaces
      let (lineBreak, after) := afterComment.takeBreak
      if lineBreak.isEmpty then
        scan.moveTo afterComment
      else
        let scan := scan.moveTo after
        skipToToken count (if scan.inFlow then scan else scan.allowKey true)

/-- Whether the place is at the beginning of a line with a document marker. -/
def isAtMarker (marker : Text) (scan : Scan) : Bool :=
  scan.cursor.column = 0 && beginsWithMarker [marker] scan.cursor.rest

/-- Ends all blocks at a marker or a directive. -/
def endDocument? (scan : Scan) : Option Scan := do
  return ((← (scan.closeBlocks (-1)).dropKey?).allowKey false)

/-- Characters of names of anchors and directives. -/
def isNamePoint (point : CodePoint) : Bool :=
  point.isAsciiLetter || point.isAsciiDigit || point = '-' || point = '_'

/-- Characters of the part of a tag after its handle. -/
def isTagPoint (point : CodePoint) : Bool :=
  let others : Text := "-;/?:@&=+$,_.!~*'()[]%"
  point.isAsciiLetter || point.isAsciiDigit || point ∈ others

/-- The name at a place and the place after it; a name has characters. -/
def takeName? (accepts : CodePoint → Bool) (cursor : Cursor) : Option (Text × Cursor) :=
  let name := cursor.rest.takeWhile accepts
  if name.isEmpty then none else some (name, cursor.advance name.length)

/-- The place at the end of the line, if nothing but a comment is left of it. -/
def endOfLine? (cursor : Cursor) : Option Cursor :=
  let afterSpaces := cursor.skipSpaces
  let afterComment := if afterSpaces.isAt '#' then afterSpaces.skipLine else afterSpaces
  if endsLine afterComment.next? then some afterComment.takeBreak.2 else none

/-- The place after a character, if it comes next. -/
def expect? (character : Char) (cursor : Cursor) : Option Cursor :=
  if cursor.isAt character then some cursor.step else none

/-- The handle of a tag and the place after it: exclamation marks with a name between them. -/
def takeHandle? (cursor : Cursor) : Option (Text × Cursor) := do
  let afterMark ← expect? '!' cursor
  let name := afterMark.rest.takeWhile isNamePoint
  if name.isEmpty && !afterMark.isAt '!' then
    return ("!", afterMark)
  else
    let last ← expect? '!' (afterMark.advance name.length)
    return ("!" ++ name ++ "!", last)

/-- The token of a directive after its name, and the place after it. -/
def directiveToken? (name : Text) (cursor : Cursor) : Option (Token × Cursor) :=
  if name = "YAML" then do
    let (major, afterMajor) ← takeName? CodePoint.isAsciiDigit cursor.skipSpaces
    let (_, last) ← takeName? CodePoint.isAsciiDigit (← expect? '.' afterMajor)
    if isGap last.next? &&
        Text.trimBoth (fun point : CodePoint => point = '0') major.reverse = "1" then
      return (.versionDirective, last)
    else
      none
  else if name = "TAG" then do
    let (handle, afterHandle) ← takeHandle? cursor.skipSpaces
    let afterSpace ← expect? ' ' afterHandle
    let (start, last) ← takeName? isTagPoint afterSpace.skipSpaces
    if isGap last.next? then return (.tagDirective handle start, last) else none
  else
    some (.otherDirective, cursor.skipLine)

def directive? (scan : Scan) : Option Scan := do
  let scan ← scan.endDocument?
  let (name, afterName) ← takeName? isNamePoint scan.cursor.step
  if isGap afterName.next? then
    let (token, after) ← directiveToken? name afterName
    return (scan.emit [token]).moveTo (← endOfLine? after)
  else
    none

def marker? (token : Token) (scan : Scan) : Option Scan := do
  let scan ← scan.endDocument?
  return (scan.emit [token]).moveTo (scan.cursor.advance 3)

def openFlow? (token : Token) (scan : Scan) : Option Scan := do
  let scan ← scan.saveKey?
  let inner := { scan with flowDepth := scan.flowDepth + 1, allowsKey := true }
  return (inner.emit [token]).moveTo scan.cursor.step

def closeFlow? (token : Token) (scan : Scan) : Option Scan := do
  let scan ← scan.dropKey?
  let outer := { scan with flowDepth := scan.flowDepth - 1, allowsKey := false }
  return (outer.emit [token]).moveTo scan.cursor.step

/-- Reads the comma between entries of a flow collection. -/
def flowEntry? (scan : Scan) : Option Scan := do
  let scan ← (scan.allowKey true).dropKey?
  return (scan.emit [.flowEntry]).moveTo scan.cursor.step

/-- Reads the mark of an entry of a block sequence. -/
def blockEntry? (scan : Scan) : Option Scan := do
  if !scan.inFlow && !scan.allowsKey then
    none
  else
    let opened := if scan.inFlow then scan else scan.openBlockHere .blockSequence
    let scan ← (opened.allowKey true).dropKey?
    return (scan.emit [.blockEntry]).moveTo scan.cursor.step

def keyMark? (scan : Scan) : Option Scan := do
  if !scan.inFlow && !scan.allowsKey then
    none
  else
    let opened := if scan.inFlow then scan else scan.openBlockHere .blockMapping
    let scan ← (opened.allowKey (!scan.inFlow)).dropKey?
    return (scan.emit [.key]).moveTo scan.cursor.step

/-- Makes a possible key a key: puts its mark, and that of a new block, in front of it. -/
def confirmKey (key : PossibleKey) (scan : Scan) : Scan :=
  let (isNew, scan) := if scan.inFlow then (false, scan) else scan.openBlock key.column
  (scan.insertAfter key.tokens (if isNew then [.blockMapping, .key] else [.key])).allowKey false

def valueMark? (scan : Scan) : Option Scan := do
  match scan.possibleKeys.lookup scan.flowDepth with
  | some key =>
      let rest := scan.possibleKeys.filter fun entry => entry.1 ≠ scan.flowDepth
      let confirmed := confirmKey key { scan with possibleKeys := rest }
      return (confirmed.emit [.value]).moveTo scan.cursor.step
  | none =>
      if !scan.inFlow && !scan.allowsKey then
        none
      else
        let opened := if scan.inFlow then scan else scan.openBlockHere .blockMapping
        let scan ← (opened.allowKey (!scan.inFlow)).dropKey?
        return (scan.emit [.value]).moveTo scan.cursor.step

def anchor? (token : Text → Token) (scan : Scan) : Option Scan := do
  let scan ← scan.saveKey?
  let (name, after) ← takeName? isNamePoint scan.cursor.step
  let closing : Text := "?:,]\x7d%@\x60"
  if isGap after.next? || after.next?.any (· ∈ closing) then
    return ((scan.allowKey false).emit [token name]).moveTo after
  else
    none

/-- The token of a tag and the place after it. -/
def tagToken? (cursor : Cursor) : Option (Token × Cursor) := do
  let body := cursor.step
  if body.isAt '<' then
    let (suffix, after) ← takeName? isTagPoint body.step
    return (.tag none suffix, ← expect? '>' after)
  else if isGap body.next? then
    return (.tag none "!", body)
  else
    let word := body.rest.takeWhile fun point => !isGap (some point)
    let marked : CodePoint := '!'
    let (handle, afterHandle) ← if marked ∈ word then takeHandle? cursor else some ("!", body)
    let (suffix, after) ← takeName? isTagPoint afterHandle
    return (.tag (some handle) suffix, after)

def tag? (scan : Scan) : Option Scan := do
  let scan ← scan.saveKey?
  let (token, after) ← tagToken? scan.cursor
  if isGap after.next? then
    return ((scan.allowKey false).emit [token]).moveTo after
  else
    none

def quoted? (isDouble : Bool) (scan : Scan) : Option Scan := do
  let scan ← scan.saveKey?
  let read ← quotedScalar? isDouble scan.cursor
  return ((scan.allowKey false).emit [.scalar read.text false]).moveTo read.after

def block? (isFolded : Bool) (scan : Scan) : Option Scan := do
  let scan ← (scan.allowKey true).dropKey?
  let read ← blockScalar? isFolded scan.indent scan.cursor
  return (scan.emit [.scalar read.text false]).moveTo read.after

def plain? (scan : Scan) : Option Scan := do
  let scan ← scan.saveKey?
  let read := plainScalar scan.inFlow (scan.indent + 1).toNat scan.cursor
  return ((scan.allowKey read.endedLine).emit [.scalar read.text true]).moveTo read.after

/-- Whether a plain scalar may begin with a character, given what follows it. -/
def beginsPlain (inFlow : Bool) (point : CodePoint) (following? : Option CodePoint) : Bool :=
  let indicators : Text := "-?:,[]\x7b\x7d#&*!|>'\"%@\x60"
  let isDash := point = '-'
  let isMark := point = '?' || point = ':'
  point ∉ indicators || (!isGap following? && (isDash || (!inFlow && isMark)))

/-- Reads the token that begins with a character. -/
def tokenAt? (point : CodePoint) (scan : Scan) : Option Scan :=
  let following? := scan.cursor.step.next?
  let standsAlone := isGap following?
  if point = '%' && scan.cursor.column = 0 then scan.directive?
  else if scan.isAtMarker "---" then scan.marker? .documentStart
  else if scan.isAtMarker "..." then scan.marker? .documentEnd
  else if point = '[' then scan.openFlow? .flowSequence
  else if point = '\x7b' then scan.openFlow? .flowMapping
  else if point = ']' then scan.closeFlow? .flowSequenceEnd
  else if point = '\x7d' then scan.closeFlow? .flowMappingEnd
  else if point = ',' then scan.flowEntry?
  else if point = '-' && standsAlone then scan.blockEntry?
  else if point = '?' && (scan.inFlow || standsAlone) then scan.keyMark?
  else if point = ':' && (scan.inFlow || standsAlone) then scan.valueMark?
  else if point = '*' then scan.anchor? .alias
  else if point = '&' then scan.anchor? .anchor
  else if point = '!' then scan.tag?
  else if point = '|' && !scan.inFlow then scan.block? false
  else if point = '>' && !scan.inFlow then scan.block? true
  else if point = '\'' then scan.quoted? false
  else if point = '"' then scan.quoted? true
  else if beginsPlain scan.inFlow point following? then scan.plain?
  else none

/-- Reads all tokens; at most `count` of them. -/
def run? : (count : Nat) → Scan → Option (List Token)
  | 0, _ => none
  | count + 1, scan => do
      let scan ← (skipToToken (scan.cursor.rest.length + 1) scan).dropStaleKeys?
      let scan := scan.closeBlocks scan.column
      match scan.cursor.next? with
      | none => return (← scan.endDocument?).tokens.reverse
      | some point => run? count (← scan.tokenAt? point)

end Scan

def tokens? (text : Text) : Option (List Token) :=
  if text.all isAllowed then Scan.run? (text.length + 2) (Scan.start text) else none

end ComponentInliner.Yaml
