import ComponentInliner.Script.Literal

/-!
# Tokens

How the characters of a module divide into tokens. Blanks and comments separate tokens and are
skipped by `skipTrivia`, which also notes whether a line ended on the way, since a line ending
may stand for a semicolon. HTML comments are known only where an operand or a statement may begin:
behind an operand their signs are operators. Words, punctuators and private names are recognised by
`Token.at`; the extent of numbers, strings, templates and regular expressions is found by a scanner
each, because only the parser knows whether one may begin where it stands.

Every scanner is structurally recursive on the characters it reads.
-/

namespace ComponentInliner.Script

def isLineTerminator (character : Char) : Bool :=
  character = '\n' || character = '\r' || character = '\u2028' || character = '\u2029'

def isTrivia (character : Char) : Bool :=
  let point : CodePoint := character
  (point.isBlank && !(28 ≤ point.val && point.val ≤ 31)) || point.val = 0xFEFF ||
    point.val = 0x2060 || point.val = 0x200B

/-- The number of bytes of a character in UTF-8, summed over a list. -/
def byteCount (characters : List Char) : Nat :=
  characters.foldl (fun count character => count + character.utf8Size) 0

/-- Where the scanner for blanks and comments stands. -/
inductive TriviaMode where
  | between
  | lineComment
  | markupComment
  | blockComment

/-- What is left of the input after blanks and comments. -/
structure Skipped where
  rest : List Char
  offset : Nat
  lineBreak : Bool
  /-- Whether a comment was left open. -/
  unclosed : Bool

/-- Whether a comment of HTML comes next; its closing sign begins one as well. -/
def atMarkupComment : List Char → Bool
  | '<' :: '!' :: '-' :: '-' :: _ => true
  | '-' :: '-' :: '>' :: _ => true
  | _ => false

/-- Comments of HTML go on behind a carriage return. -/
def endsMarkupComment (character : Char) : Bool :=
  isLineTerminator character && character ≠ '\r'

/-- Skips blanks and comments, those of HTML only where they are known. -/
def skipTrivia (knowsMarkup : Bool) (mode : TriviaMode) (offset : Nat) (lineBreak : Bool) :
    List Char → Skipped
  | [] => ⟨[], offset, lineBreak, mode matches .blockComment⟩
  | '/' :: '/' :: rest =>
      match mode with
      | .between => skipTrivia knowsMarkup .lineComment (offset + 2) lineBreak rest
      | mode => skipTrivia knowsMarkup mode (offset + 1) lineBreak ('/' :: rest)
  | '/' :: '*' :: rest =>
      match mode with
      | .between => skipTrivia knowsMarkup .blockComment (offset + 2) lineBreak rest
      | mode => skipTrivia knowsMarkup mode (offset + 1) lineBreak ('*' :: rest)
  | '*' :: '/' :: rest =>
      match mode with
      | .between => ⟨'*' :: '/' :: rest, offset, lineBreak, false⟩
      | .blockComment => skipTrivia knowsMarkup .between (offset + 2) lineBreak rest
      | mode => skipTrivia knowsMarkup mode (offset + 1) lineBreak ('/' :: rest)
  | character :: rest =>
      let next := offset + character.utf8Size
      let ended := lineBreak || isLineTerminator character
      match mode with
      | .between =>
          if isTrivia character then skipTrivia knowsMarkup .between next ended rest
          else if knowsMarkup && atMarkupComment (character :: rest) then
            skipTrivia knowsMarkup .markupComment next ended rest
          else ⟨character :: rest, offset, lineBreak, false⟩
      | .lineComment =>
          skipTrivia knowsMarkup (if isLineTerminator character then .between else .lineComment)
            next ended rest
      | .markupComment =>
          skipTrivia knowsMarkup (if endsMarkupComment character then .between else .markupComment)
            next ended rest
      | .blockComment => skipTrivia knowsMarkup .blockComment next ended rest

def isHexDigit (character : Char) : Bool :=
  character.isDigit || ('a' ≤ character && character ≤ 'f') || ('A' ≤ character && character ≤ 'F')

def isOctalDigit (character : Char) : Bool :=
  '0' ≤ character && character ≤ '7'

/-- Characters that a name may begin with: all that are not control, blank, digit or sign. -/
def isNameStart (character : Char) : Bool :=
  let number := character.toNat
  if number < 128 then
    number = 127 || character.isAlpha || character = '_' || character = '$'
  else
    !isTrivia character

/-- Characters of a name after the first. -/
def isNamePart (character : Char) : Bool :=
  isNameStart character || character.isDigit

/--
The longest name at the front of the input and what follows it. Escaped characters stay as they
are written; inside the braces of an escape only hexadecimal digits may stand.
-/
def takeName (insideBraces : Bool) : List Char → Option (List Char × List Char)
  | [] => if insideBraces then none else some ([], [])
  | '}' :: rest =>
      if insideBraces then
        (takeName false rest).map fun (name, after) => ('}' :: name, after)
      else
        some ([], '}' :: rest)
  | '\\' :: 'u' :: '{' :: digit :: rest =>
      if !insideBraces && isHexDigit digit then
        (takeName true rest).map fun (name, after) => ('\\' :: 'u' :: '{' :: digit :: name, after)
      else
        none
  | '\\' :: 'u' :: first :: second :: third :: fourth :: rest =>
      if !insideBraces && isHexDigit first && isHexDigit second && isHexDigit third &&
          isHexDigit fourth then
        (takeName false rest).map fun (name, after) =>
          ('\\' :: 'u' :: first :: second :: third :: fourth :: name, after)
      else
        none
  | character :: rest =>
      if insideBraces then
        if isHexDigit character then
          (takeName true rest).map fun (name, after) => (character :: name, after)
        else
          none
      else if isNamePart character then
        (takeName false rest).map fun (name, after) => (character :: name, after)
      else if character = '\\' then
        none
      else
        some ([], character :: rest)

/-- A token, as far as it is known without the grammar. -/
inductive Token where
  | word (name : String)
  | privateName (name : String)
  | punctuator (symbol : String)
  | number
  | quote (mark : Char)
  | backtick
  | finished
  | unreadable
  deriving DecidableEq, Repr

/-- The longest punctuator at the front of the input. -/
def punctuatorAt : List Char → Option String
  | '{' :: _ => some "\x7b"
  | '}' :: _ => some "\x7d"
  | '(' :: _ => some "("
  | ')' :: _ => some ")"
  | '[' :: _ => some "["
  | ']' :: _ => some "]"
  | ';' :: _ => some ";"
  | ',' :: _ => some ","
  | ':' :: _ => some ":"
  | '@' :: _ => some "@"
  | '~' :: _ => some "~"
  | '.' :: '.' :: '.' :: _ => some "..."
  | '.' :: _ => some "."
  | '?' :: '?' :: '=' :: _ => some "??="
  | '?' :: '?' :: _ => some "??"
  | '?' :: '.' :: next :: _ => some (if next.isDigit then "?" else "?.")
  | '?' :: '.' :: [] => some "?."
  | '?' :: _ => some "?"
  | '=' :: '=' :: '=' :: _ => some "==="
  | '=' :: '=' :: _ => some "=="
  | '=' :: '>' :: _ => some "=>"
  | '=' :: _ => some "="
  | '!' :: '=' :: '=' :: _ => some "!=="
  | '!' :: '=' :: _ => some "!="
  | '!' :: _ => some "!"
  | '+' :: '+' :: _ => some "++"
  | '+' :: '=' :: _ => some "+="
  | '+' :: _ => some "+"
  | '-' :: '-' :: _ => some "--"
  | '-' :: '=' :: _ => some "-="
  | '-' :: _ => some "-"
  | '*' :: '*' :: '=' :: _ => some "**="
  | '*' :: '*' :: _ => some "**"
  | '*' :: '=' :: _ => some "*="
  | '*' :: _ => some "*"
  | '/' :: '=' :: _ => some "/="
  | '/' :: _ => some "/"
  | '%' :: '=' :: _ => some "%="
  | '%' :: _ => some "%"
  | '&' :: '&' :: '=' :: _ => some "&&="
  | '&' :: '&' :: _ => some "&&"
  | '&' :: '=' :: _ => some "&="
  | '&' :: _ => some "&"
  | '|' :: '|' :: '=' :: _ => some "||="
  | '|' :: '|' :: _ => some "||"
  | '|' :: '=' :: _ => some "|="
  | '|' :: _ => some "|"
  | '^' :: '=' :: _ => some "^="
  | '^' :: _ => some "^"
  | '<' :: '<' :: '=' :: _ => some "<<="
  | '<' :: '<' :: _ => some "<<"
  | '<' :: '=' :: _ => some "<="
  | '<' :: _ => some "<"
  | '>' :: '>' :: '>' :: '=' :: _ => some ">>>="
  | '>' :: '>' :: '>' :: _ => some ">>>"
  | '>' :: '>' :: '=' :: _ => some ">>="
  | '>' :: '>' :: _ => some ">>"
  | '>' :: '=' :: _ => some ">="
  | '>' :: _ => some ">"
  | _ => none

/-- The token at the front of the input. -/
def Token.at : List Char → Token
  | [] => .finished
  | '"' :: _ => .quote '"'
  | '\'' :: _ => .quote '\''
  | '\x60' :: _ => .backtick
  | '#' :: rest =>
      match rest with
      | [] => .unreadable
      | first :: _ =>
          if isNameStart first || first = '\\' then
            match takeName false rest with
            | some (name, _) => .privateName (String.ofList name)
            | none => .unreadable
          else
            .unreadable
  | '.' :: next :: rest =>
      if next.isDigit then .number
      else match punctuatorAt ('.' :: next :: rest) with
        | some symbol => .punctuator symbol
        | none => .unreadable
  | first :: rest =>
      if first.isDigit then .number
      else if isNameStart first || first = '\\' then
        match takeName false (first :: rest) with
        | some (name, _) => .word (String.ofList name)
        | none => .unreadable
      else match punctuatorAt (first :: rest) with
        | some symbol => .punctuator symbol
        | none => .unreadable

/-! ## Numbers -/

/-- The longest run of digits with single underscores between them. -/
def takeDigitRun (isDigit : Char → Bool) : List Char → List Char × List Char
  | [] => ([], [])
  | '_' :: digit :: rest =>
      if isDigit digit then
        let (digits, after) := takeDigitRun isDigit rest
        ('_' :: digit :: digits, after)
      else
        ([], '_' :: digit :: rest)
  | digit :: rest =>
      if isDigit digit then
        let (digits, after) := takeDigitRun isDigit rest
        (digit :: digits, after)
      else
        ([], digit :: rest)

/-- A run of digits that begins with a digit; it is empty if there is none. -/
def takeNumberRun (isDigit : Char → Bool) (input : List Char) : List Char × List Char :=
  match input with
  | '_' :: _ => ([], input)
  | _ => takeDigitRun isDigit input

/-- The exponent of a number, if one follows. -/
def takeExponentPart (input : List Char) : List Char × List Char :=
  match input with
  | mark :: rest =>
      if mark = 'e' || mark = 'E' then
        let (sign, unsigned) : List Char × List Char := match rest with
          | '+' :: more => (['+'], more)
          | '-' :: more => (['-'], more)
          | _ => ([], rest)
        match takeNumberRun Char.isDigit unsigned with
        | ([], _) => ([], input)
        | (digits, after) => (mark :: (sign ++ digits), after)
      else
        ([], input)
  | [] => ([], [])

/-- Takes the letter that marks a big integer, if it follows. -/
def takeBigSuffix (digits rest : List Char) : List Char × List Char :=
  match rest with
  | 'n' :: after => (digits ++ ['n'], after)
  | _ => (digits, rest)

/-- Whether a run of digits may be followed by a fraction or an exponent. -/
def isDecimalInteger (digits : List Char) : Bool :=
  match digits with
  | ['0'] => true
  | '0' :: next :: _ => '1' ≤ next && next ≤ '9'
  | first :: _ => '1' ≤ first && first ≤ '9'
  | [] => false

/-- A number in a radix after its prefix. -/
def scanRadixNumber (marker : List Char) (isDigit : Char → Bool) (input : List Char) :
    Option (List Char × List Char) :=
  match takeNumberRun isDigit input with
  | ([], _) => none
  | (digits, rest) => some (takeBigSuffix (marker ++ digits) rest)

/-- The number at the front of the input and what follows it. -/
def scanNumber (input : List Char) : Option (List Char × List Char) :=
  match input with
  | '0' :: letter :: rest =>
      if letter = 'x' || letter = 'X' then scanRadixNumber ['0', letter] isHexDigit rest
      else if letter = 'o' || letter = 'O' then scanRadixNumber ['0', letter] isOctalDigit rest
      else if letter = 'b' || letter = 'B' then
        scanRadixNumber ['0', letter] (fun digit => digit = '0' || digit = '1') rest
      else scanDecimal input
  | _ => scanDecimal input
where
  scanDecimal (input : List Char) : Option (List Char × List Char) :=
    match takeNumberRun Char.isDigit input with
    | ([], '.' :: rest) =>
        match takeNumberRun Char.isDigit rest with
        | ([], _) => none
        | (fraction, after) =>
            let (exponent, final) := takeExponentPart after
            some ('.' :: (fraction ++ exponent), final)
    | ([], _) => none
    | (digits, rest) =>
        if isDecimalInteger digits then
          match rest with
          | '.' :: more =>
              let (fraction, after) := takeNumberRun Char.isDigit more
              let (exponent, final) := takeExponentPart after
              some (digits ++ '.' :: (fraction ++ exponent), final)
          | _ =>
              match takeExponentPart rest with
              | ([], _) => some (takeBigSuffix digits rest)
              | (exponent, after) => some (digits ++ exponent, after)
        else
          some (takeBigSuffix digits rest)

/-! ## Strings and templates -/

/--
Whether two characters after a backslash make one escape sequence: a carriage return takes a line
feed or a separator behind it along, and so does a question mark.
-/
def isEscapedPair (first second : Char) : Bool :=
  (first = '\r' || first = '?') && (second = '\n' || second = '\u2028' || second = '\u2029')

/-- How many characters the escape sequence after a backslash has; malformed ones have none. -/
def escapeLength : List Char → Option Nat
  | [] => none
  | 'x' :: first :: second :: _ => if isHexDigit first && isHexDigit second then some 3 else none
  | 'x' :: _ => none
  | 'u' :: '{' :: rest =>
      let digits := rest.takeWhile isHexDigit
      match digits, rest.drop digits.length with
      | _ :: _, '}' :: _ => some (digits.length + 3)
      | _, _ => none
  | 'u' :: first :: second :: third :: fourth :: _ =>
      if isHexDigit first && isHexDigit second && isHexDigit third && isHexDigit fourth then some 5
      else none
  | 'u' :: _ => none
  | first :: rest =>
      if isOctalDigit first then some (1 + ((rest.take 2).takeWhile isOctalDigit).length)
      else if rest.head?.any (isEscapedPair first) then some 2
      else some 1

/-- Puts a character before the pieces, as raw text. -/
def consRaw (character : Char) (pieces : List LiteralPiece) : List LiteralPiece :=
  match pieces with
  | .raw text :: rest => .raw (CodePoint.ofChar character :: text) :: rest
  | _ => .raw [CodePoint.ofChar character] :: pieces

/-- The body of a literal: its pieces, its characters and what follows its end. -/
structure LiteralBody where
  pieces : List LiteralPiece
  characters : List Char
  rest : List Char

/-- Puts an ordinary character before a body. -/
def LiteralBody.consRaw (character : Char) (body : LiteralBody) : LiteralBody :=
  ⟨Script.consRaw character body.pieces, character :: body.characters, body.rest⟩

/-- Puts an escape sequence before a body. -/
def LiteralBody.consEscape (escape : List Char) (body : LiteralBody) : LiteralBody :=
  ⟨.escape (escape.map CodePoint.ofChar) :: body.pieces, '\\' :: (escape ++ body.characters),
    body.rest⟩

/--
Scans the body of a literal. `atEnd` tells whether an end mark begins where the scanner stands
and `allowed` which characters may stand for themselves. While an escape of known length is
read, `left` counts the characters that remain and `escape` holds those read, last first.
-/
def scanBody (atEnd : List Char → Bool) (allowed : Char → Bool) (left : Nat)
    (escape : List Char) : List Char → Option LiteralBody
  | [] => none
  | character :: rest =>
      match left with
      | 0 =>
          if atEnd (character :: rest) then
            some ⟨[], [], character :: rest⟩
          else if character = '\\' then
            match escapeLength rest with
            | some length => scanBody atEnd allowed length [] rest
            | none => none
          else if allowed character then
            (scanBody atEnd allowed 0 [] rest).map (LiteralBody.consRaw character)
          else
            none
      | 1 =>
          (scanBody atEnd allowed 0 [] rest).map
            (LiteralBody.consEscape (character :: escape).reverse)
      | left + 1 => scanBody atEnd allowed left (character :: escape) rest

/-- The body of a string up to its closing quote. -/
def scanString (mark : Char) (input : List Char) : Option LiteralBody :=
  scanBody (fun ahead => ahead.head? = some mark)
    (fun character => character ≠ '\n' && character ≠ '\r') 0 [] input

/-- The body of a template up to its closing backtick or the next substitution. -/
def scanTemplate (input : List Char) : Option LiteralBody :=
  scanBody
    (fun ahead => match ahead with
      | '\x60' :: _ => true
      | '$' :: '{' :: _ => true
      | _ => false)
    (fun _ => true) 0 [] input

/-! ## Regular expressions -/

/--
The body of a regular expression and its closing slash, and what follows. A slash inside
brackets or after a backslash does not close it.
-/
def scanRegexBody (insideClass escaped : Bool) : List Char → Option (List Char × List Char)
  | [] => none
  | character :: rest =>
      if isLineTerminator character then
        none
      else if escaped then
        (scanRegexBody insideClass false rest).map fun (body, after) => (character :: body, after)
      else if character = '/' && !insideClass then
        some (['/'], rest)
      else
        let inside :=
          if character = '[' then true else if character = ']' then false else insideClass
        (scanRegexBody inside (character = '\\') rest).map
          fun (body, after) => (character :: body, after)

/-- The regular expression at the front of the input, with its flags, and what follows it. -/
def scanRegex (input : List Char) : Option (List Char × List Char) :=
  match input with
  | '/' :: rest =>
      (scanRegexBody false false rest).map fun (body, after) =>
        let flags := after.takeWhile fun character => 'a' ≤ character && character ≤ 'z'
        ('/' :: (body ++ flags), after.drop flags.length)
  | _ => none

end ComponentInliner.Script
