import ComponentInliner.Script.Production

/-!
# Markup

Elements of markup within expressions: a self-closing tag, or two tags with children between them.
The names of the tags may be left out, and those of the closing tag are not compared. Text between
the tags is read character by character, so the cursor stands there directly behind a tag or a
brace, with nothing skipped; within tags and braces tokens are read as everywhere else. Nothing of
an element is folded, so only its extent is found.
-/

namespace ComponentInliner.Script

open ComponentInliner.Script.Parser

def characters : Parser (List Char) := do
  return (← get).rest

/-- Whether some characters come next. -/
def atMark (mark : List Char) : Parser Bool := do
  return mark.isPrefixOf (← characters)

/-- Goes on behind some characters if they come next. -/
def acceptMark (mark : List Char) (resume : List Char → Nat → Cursor) : Parser Bool := do
  if ← atMark mark then
    pass mark.length resume
    return true
  return false

def expectMark (mark : List Char) (resume : List Char → Nat → Cursor) : Parser Unit := do
  require (← acceptMark mark resume)

/-! ## Names -/

def isPlainNamePart (character : Char) : Bool :=
  character.isAlphanum || character = '_' || character = '$'

/-- How many characters a name goes on behind a word, up from its first hyphen. -/
def hyphenatedLength (word : String) (behind : List Char) : Nat :=
  if word.toList.all isPlainNamePart && behind.head? = some '-' then
    (behind.takeWhile fun character => isPlainNamePart character || character = '-').length
  else
    0

/-- A name without dots and colons; the answer tells whether it has a hyphen. -/
def markupIdentifier : Parser Bool := do
  match ← token with
  | .word word =>
      let added := hyphenatedLength word ((← characters).drop word.length)
      pass (word.length + added) .opened
      return added > 0
  | _ => failure

/-- The names behind the dots of a name. -/
def markupPath : (bound : Nat) → Parser Unit
  | 0 => failure
  | bound + 1 => do
      if ← acceptSymbol "." then
        require !(← markupIdentifier)
        markupPath bound

/-- The second part of a name with a colon, if it has one. -/
def namespaceRest : Parser Unit := do
  if ← acceptSymbol ":" then
    let _ ← markupIdentifier

/-- The name of an element. -/
def markupName (bound : Nat) : Parser Unit := do
  let isHyphenated ← markupIdentifier
  if !isHyphenated && (← atSymbol ".") then
    markupPath bound
  else
    namespaceRest

/-! ## Character references -/

/-- The length of a run of some characters, with the semicolon behind it. -/
def referenceRun (isPart : Char → Bool) (most : Nat) (input : List Char) : Option Nat :=
  let length := (input.takeWhile isPart).length
  if 0 < length && length ≤ most && (input.drop length).head? = some ';' then some (length + 1)
  else none

/-- How many characters a character reference has behind its ampersand. -/
def referenceLength (input : List Char) : Option Nat :=
  match input with
  | '#' :: 'x' :: rest | '#' :: 'X' :: rest => (referenceRun isHexDigit 6 rest).map (· + 2)
  | '#' :: rest => (referenceRun Char.isDigit 5 rest).map (· + 1)
  | _ => referenceRun Char.isAlpha 30 input

/-- How many characters an ampersand in a quoted value takes along: a reference, or a sign. -/
def ampersandLength (input : List Char) : Option Nat :=
  if input.head?.any fun next => next = '#' || next.isAlpha then referenceLength input else some 1

/-- How many characters a quoted value has. While an ampersand takes characters along, `left` of
them remain. -/
def quotedLength (mark : Char) (left : Nat) : List Char → Option Nat
  | [] => none
  | character :: rest =>
      match left with
      | left + 1 => (quotedLength mark left rest).map (· + 1)
      | 0 =>
          if character = mark then
            some 0
          else if character = '&' then
            match ampersandLength rest with
            | some taken => (quotedLength mark taken rest).map (· + 1)
            | none => none
          else
            (quotedLength mark 0 rest).map (· + 1)

/-! ## Tags -/

/-- What stands between the braces of markup: nothing, a spread or an expression. -/
def markupExpression (grammar : Grammar) : Parser Unit := do
  if ← acceptSymbol "..." then
    let _ ← grammar.value true
  else if !(← atSymbol closeBrace) then
    let _ ← expressionValue grammar true

def quotedValue (mark : Char) : Parser Unit := do
  match quotedLength mark 0 ((← characters).drop 1) with
  | some length => pass (length + 2) .opened
  | none => failure

/-- The value of an attribute: a quoted one, an expression in braces, or an element. -/
def attributeValue (grammar : Grammar) : Parser Unit := do
  match ← token with
  | .quote mark => quotedValue mark
  | _ =>
      if ← acceptSymbol openBrace then
        markupExpression grammar
        expectMark ['}'] .opened
      else
        expectSymbol "<"
        let _ ← grammar.markup
        pass 0 .opened

/-- The attributes of a tag: names, possibly with a value, and expressions in braces. -/
def attributes (grammar : Grammar) : (bound : Nat) → Parser Unit
  | 0 => failure
  | bound + 1 => do
      match ← token with
      | .word _ =>
          let _ ← markupIdentifier
          namespaceRest
          if ← acceptSymbol "=" then
            attributeValue grammar
          attributes grammar bound
      | _ =>
          if ← acceptSymbol openBrace then
            markupExpression grammar
            expectMark ['}'] .opened
            attributes grammar bound

def closingTag (bound : Nat) : Parser Unit := do
  expectMark ['<', '/'] .opened
  if !(← atMark ['>']) then
    markupName bound
  expectMark ['>'] .bare

/-! ## Elements -/

/-- The comment that is left of some text between tags up to the end of its line. -/
def commentLength (input : List Char) : Nat :=
  (input.takeWhile fun character => !endsMarkupComment character).length

def isMarkupText (character : Char) : Bool :=
  !(['<', '>', '{', '}', '&'].contains character)

/-- The children of an element and its closing tag. -/
def children (grammar : Grammar) : (bound : Nat) → Parser Unit
  | 0 => failure
  | bound + 1 => do
      match ← characters with
      | '<' :: '!' :: '-' :: '-' :: rest =>
          pass (4 + commentLength rest) .bare
          children grammar bound
      | '<' :: '/' :: _ => closingTag grammar.bound
      | '<' :: _ =>
          pass 1 .opened
          let _ ← grammar.markup
          children grammar bound
      | '{' :: _ =>
          pass 1 .opened
          markupExpression grammar
          expectMark ['}'] .bare
          children grammar bound
      | '&' :: rest =>
          match referenceLength rest with
          | some length =>
              pass (length + 1) .bare
              children grammar bound
          | none => failure
      | input =>
          let length := (input.takeWhile isMarkupText).length
          require (0 < length)
          pass length .bare
          children grammar bound

/-- An element behind its first sign; the answer tells whether it has children. -/
def markupElement (grammar : Grammar) : Parser Bool := do
  if ← acceptMark ['>'] .bare then
    children grammar grammar.bound
    return true
  markupName grammar.bound
  attributes grammar grammar.bound
  if ← acceptMark ['/', '>'] .bare then
    return false
  expectMark ['>'] .bare
  children grammar grammar.bound
  return true

end ComponentInliner.Script
