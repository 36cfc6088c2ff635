import ComponentInliner.Proofs.Html.Reader
import Mathlib.Data.List.TakeWhile

/-!
# Reading a style sheet

A reader of style sheets. It splits a text into lexemes: runs of white space, comments, and tokens,
which are strings, names, numbers with their units, and other code points one by one. The text of a
token tells what it is. White space between two tokens has a meaning of its own, but not how much of
it there is; comments have none, they only keep tokens apart. A comment that is not closed goes on
to the end of the text.

The end of a lexeme is found one code point after the other. Where a number may go on, the reader
looks at the code points behind the next one, so what a lexeme is may depend on what follows it;
`Resembles` says when it does not.

The reader lets a string go on in the next line, takes a hyphen behind a number for a part of its
unit, and reads an address without quotation marks like any other text.
-/

namespace ComponentInliner.StyleSheet

def isQuote (point : CodePoint) : Bool :=
  point = '"' || point = '\''

/-- Code points that names are made of. -/
def isName (point : CodePoint) : Bool :=
  point.isAsciiLetter || point.isAsciiDigit || point = '-' || point = '_' || 0x80 ≤ point.val

def startsDigit (text : Text) : Bool :=
  text.head?.any CodePoint.isAsciiDigit

/-- A text begins with a number that has no sign. -/
def startsNumber : Text → Bool
  | [] => false
  | point :: rest => point.isAsciiDigit || (point = '.' && startsDigit rest)

/-- How far a name or a number has been read. Its unit is part of a number. -/
inductive WordPart where
  | sign
  | whole
  | fraction
  | exponent
  | name
  | escape
  deriving DecidableEq

namespace WordPart

/-- Begins to read a name or a number, if there is one. -/
def first? (point : CodePoint) (rest : Text) : Option WordPart :=
  if point = '\\' then some .escape
  else if point = '-' then some .sign
  else if point.isAsciiDigit then some .whole
  else if isName point then some .name
  else if point = '.' ∧ startsDigit rest then some .fraction
  else if point = '+' ∧ startsNumber rest then some .sign
  else none

/-- What comes after a code point that names are made of. -/
def after (part : WordPart) (point : CodePoint) : WordPart :=
  match part with
  | .sign => if point.isAsciiDigit then .whole else .name
  | .whole | .fraction =>
      if point.isAsciiDigit then part
      else if point = 'e' || point = 'E' then .exponent
      else .name
  | .exponent | .name | .escape => .name

/-- Reads a name or a number on; there is no next part where it ends. -/
def next? (part : WordPart) (point : CodePoint) (rest : Text) : Option WordPart :=
  if part = .escape then some .name
  else if point = '\\' then some .escape
  else if isName point then some (part.after point)
  else if point = '.' ∧ (part = .sign ∨ part = .whole) ∧ startsDigit rest then some .fraction
  else if point = '+' ∧ part = .exponent ∧ startsDigit rest then some .name
  else none

end WordPart

/-- How far a lexeme has been read. -/
inductive Reading where
  | start
  | space
  | word (part : WordPart)
  | string (quote : CodePoint)
  | stringEscape (quote : CodePoint)
  | slash
  | comment
  | asterisk
  | closed
  deriving DecidableEq

/-- Reads a lexeme on; there is nothing next where it has ended before. -/
def Reading.next? (reading : Reading) (point : CodePoint) (rest : Text) : Option Reading :=
  match reading with
  | .start =>
      if Html.isMarkupBlank point then some .space
      else if isQuote point then some (.string point)
      else if point = '/' ∧ rest.head? = some (CodePoint.ofChar '*') then some .slash
      else some (((WordPart.first? point rest).map .word).getD .closed)
  | .space => if Html.isMarkupBlank point then some .space else none
  | .word part => (part.next? point rest).map .word
  | .string quote =>
      if point = quote then some .closed
      else if point = '\\' then some (.stringEscape quote)
      else some (.string quote)
  | .stringEscape quote => some (.string quote)
  | .slash => some .comment
  | .comment => if point = '*' then some .asterisk else some .comment
  | .asterisk =>
      if point = '/' then some .closed
      else if point = '*' then some .asterisk
      else some .comment
  | .closed => none

/-- What is left of a lexeme at the beginning of a text. -/
def scan (reading : Reading) : Text → Text
  | [] => []
  | point :: rest =>
      match reading.next? point rest with
      | some next => point :: scan next rest
      | none => []

/-- The lexemes of a text behind so many of its code points. -/
def lexemesFrom (covered : Nat) : Text → List Text
  | [] => []
  | point :: rest =>
      match covered with
      | 0 =>
          let lexeme := scan .start (point :: rest)
          lexeme :: lexemesFrom (lexeme.length - 1) rest
      | covered + 1 => lexemesFrom covered rest

def lexemes (text : Text) : List Text :=
  lexemesFrom 0 text

def isSpacing (lexeme : Text) : Bool :=
  lexeme.head?.any Html.isMarkupBlank

def isComment (lexeme : Text) : Bool :=
  lexeme.startsWith "/*"

/-- A lexeme is no token. -/
def isSkipped (lexeme : Text) : Bool :=
  isComment lexeme || isSpacing lexeme

/-- A lexeme that means something, and whether white space stands in front of it. -/
structure Token where
  spaced : Bool
  text : Text
  deriving DecidableEq

/-- The tokens among some lexemes; `spaced` tells whether white space stands in front of them. -/
def tokensFrom (spaced : Bool) : List Text → List Token
  | [] => []
  | lexeme :: rest =>
      if isComment lexeme then tokensFrom spaced rest
      else if isSpacing lexeme then tokensFrom true rest
      else ⟨spaced, lexeme⟩ :: tokensFrom false rest

/-- The tokens of a style sheet. White space in front of all of them means nothing. -/
def tokens (text : Text) : List Token :=
  tokensFrom false ((lexemes text).dropWhile isSkipped)

/-- White space as short as it can be. -/
def gap (spaced : Bool) : Text :=
  if spaced then " " else []

def Token.written (token : Token) : Text :=
  gap token.spaced ++ token.text

/-- Tokens written one after the other, with single spaces for the white space between them. -/
def written (tokens : List Token) : Text :=
  tokens.flatMap Token.written

@[simp]
theorem gap_false : gap false = [] :=
  rfl

@[simp]
theorem gap_true : gap true = [CodePoint.ofChar ' '] :=
  rfl

@[simp]
theorem length_gap (spaced : Bool) : (gap spaced).length = spaced.toNat := by
  cases spaced <;> rfl

theorem written_cons (token : Token) (tokens : List Token) :
    written (token :: tokens) = token.written ++ written tokens :=
  List.flatMap_cons

section Scanning

variable {reading : Reading} {lexeme text other : Text} {point : CodePoint}

theorem scan_cons_eq_cons {rest : Text} :
    scan reading (point :: rest) = point :: lexeme ↔
      ∃ next, reading.next? point rest = some next ∧ scan next rest = lexeme := by
  rw [scan]
  cases reading.next? point rest <;> simp

theorem scan_cons_eq_nil {rest : Text} :
    scan reading (point :: rest) = [] ↔ reading.next? point rest = none := by
  rw [scan]
  cases reading.next? point rest <;> simp

theorem scan_begins (reading : Reading) (text : Text) : scan reading text <+: text := by
  induction text generalizing reading with
  | nil => exact List.prefix_rfl
  | cons point rest ih =>
      rw [scan]
      split
      · exact List.cons_prefix_cons.mpr ⟨rfl, ih _⟩
      · exact List.nil_prefix

/-- Every code point begins a lexeme. -/
theorem exists_next_start (point : CodePoint) (rest : Text) :
    ∃ next, Reading.start.next? point rest = some next := by
  simp only [Reading.next?]
  repeat' split
  all_goals exact ⟨_, rfl⟩

theorem scan_start_ne_nil (several : text ≠ []) : scan .start text ≠ [] := by
  cases text with
  | nil => exact absurd rfl several
  | cons point rest =>
      obtain ⟨next, goesOn⟩ := exists_next_start point rest
      intro nothing
      rw [scan_cons_eq_nil, goesOn] at nothing
      cases nothing

theorem WordPart.first?_point (digit : startsDigit text) :
    first? (CodePoint.ofChar '.') text = some .fraction := by
  unfold first?
  rw [if_neg (by decide), if_neg (by decide), if_neg (by decide), if_neg (by decide),
    if_pos ⟨rfl, digit⟩]

theorem WordPart.first?_plus (number : startsNumber text) :
    first? (CodePoint.ofChar '+') text = some .sign := by
  unfold first?
  rw [if_neg (by decide), if_neg (by decide), if_neg (by decide), if_neg (by decide),
    if_neg fun isPoint => absurd isPoint.1 (by decide), if_pos ⟨rfl, number⟩]

/-- One text looks to the reader like another one in whose place it follows a lexeme: it is empty,
or it begins with the same code point and no number begins there that does not begin in the other.
-/
def Resembles (other text : Text) : Prop :=
  other = [] ∨ ∃ point following rest, other = point :: following ∧ text = point :: rest ∧
    (point = '.' ∨ point = '+' → startsDigit following → startsDigit rest)

theorem startsDigit_of_begins (start : other <+: text) (digit : startsDigit other) :
    startsDigit text := by
  obtain ⟨following, rfl⟩ := start
  cases other with
  | nil => cases digit
  | cons point other => exact digit

theorem startsNumber_of_begins (start : other <+: text) (number : startsNumber other) :
    startsNumber text := by
  obtain ⟨following, rfl⟩ := start
  cases other with
  | nil => cases number
  | cons point other =>
      simp only [startsNumber, Bool.or_eq_true, Bool.and_eq_true, List.cons_append] at number ⊢
      exact number.imp_right (.imp_right (startsDigit_of_begins (List.prefix_append _ _)))

/-- What the reader looks ahead for is only at the beginning of one text if it is at the beginning
of the other one. -/
structure Announces (text other : Text) : Prop where
  digit : startsDigit other → startsDigit text
  number : startsNumber other → startsNumber text
  asterisk : other.head? = some (CodePoint.ofChar '*') → text.head? = some (CodePoint.ofChar '*')

/-- Behind the same code points, the reader finds nothing else ahead either. -/
theorem Announces.behind (announces : Announces text other) (lexeme : Text) :
    Announces (lexeme ++ text) (lexeme ++ other) := by
  cases lexeme with
  | nil => exact announces
  | cons first lexeme =>
      refine ⟨id, fun number => ?_, id⟩
      simp only [startsNumber, Bool.or_eq_true, Bool.and_eq_true, List.cons_append] at number ⊢
      refine number.imp_right (.imp_right fun digit => ?_)
      cases lexeme with
      | nil => exact announces.digit digit
      | cons second lexeme => exact digit

namespace Resembles

theorem of_begins (start : other <+: text) : Resembles other text := by
  cases other with
  | nil => exact .inl rfl
  | cons point other =>
      obtain ⟨following, rfl⟩ := start
      exact .inr ⟨point, other, other ++ following, rfl, rfl,
        fun _ => startsDigit_of_begins (List.prefix_append _ _)⟩

theorem announces (resembles : Resembles other text) : Announces text other := by
  rcases resembles with rfl | ⟨point, following, rest, rfl, rfl, digits⟩
  · exact ⟨nofun, nofun, nofun⟩
  · refine ⟨id, fun number => ?_, id⟩
    simp only [startsNumber, Bool.or_eq_true, Bool.and_eq_true, decide_eq_true_eq] at number ⊢
    exact number.imp_right fun ⟨isPoint, digit⟩ => ⟨isPoint, digits (.inl isPoint) digit⟩

end Resembles

/-- Names and numbers take every digit that follows. -/
theorem WordPart.exists_next (part : WordPart) (isDigit : point.isAsciiDigit) (rest : Text) :
    ∃ next, part.next? point rest = some next := by
  have inName : isName point := by simp [isName, isDigit]
  rw [WordPart.next?, if_pos inName]
  split
  · exact ⟨_, rfl⟩
  · split <;> exact ⟨_, rfl⟩

theorem startsDigit_of_scan {part : WordPart} (read : scan (.word part) (lexeme ++ text) = lexeme)
    (digit : startsDigit (lexeme ++ text)) : startsDigit lexeme := by
  cases lexeme with
  | cons point lexeme => exact digit
  | nil =>
      cases text with
      | nil => cases digit
      | cons point rest =>
          obtain ⟨next, goesOn⟩ := part.exists_next digit rest
          have nothing := scan_cons_eq_nil.mp read
          rw [Reading.next?, goesOn] at nothing
          cases nothing

theorem startsNumber_of_scan (read : scan (.word .sign) (lexeme ++ text) = lexeme)
    (number : startsNumber (lexeme ++ text)) : startsNumber lexeme := by
  cases lexeme with
  | nil =>
      cases text with
      | nil => cases number
      | cons point rest =>
          have nothing := scan_cons_eq_nil.mp read
          simp only [startsNumber, Bool.or_eq_true, Bool.and_eq_true, List.nil_append,
            decide_eq_true_eq] at number
          rcases number with isDigit | ⟨rfl, digit⟩
          · exact startsDigit_of_scan read isDigit
          · have isFraction : Reading.next? (.word .sign) (CodePoint.ofChar '.') rest =
                some (.word .fraction) := by
              have noName : isName (CodePoint.ofChar '.') = false := by decide
              have noEscape : CodePoint.ofChar '.' ≠ CodePoint.ofChar '\\' := by decide
              simp [Reading.next?, WordPart.next?, noName, noEscape, digit]
            rw [isFraction] at nothing
            cases nothing
  | cons point lexeme =>
      simp only [startsNumber, Bool.or_eq_true, Bool.and_eq_true, List.cons_append,
        decide_eq_true_eq] at number ⊢
      refine number.imp_right fun ⟨isPoint, digit⟩ => ⟨isPoint, ?_⟩
      obtain ⟨next, goesOn, onRest⟩ := scan_cons_eq_cons.mp read
      obtain ⟨part, -, rfl⟩ := Option.map_eq_some_iff.mp goesOn
      exact startsDigit_of_scan onRest digit

/-- A point or a plus sign on its own is in front of no digit. -/
theorem not_startsDigit_of_scan {rest : Text} (read : scan .start (point :: rest) = [point])
    (isMark : point = '.' ∨ point = '+') : ¬startsDigit rest := by
  intro digit
  have number : startsNumber rest := by
    cases rest with
    | nil => cases digit
    | cons first rest => simp [startsNumber, show first.isAsciiDigit = true from digit]
  have isWord : ∃ part, WordPart.first? point rest = some part := by
    rcases isMark with rfl | rfl
    · exact ⟨_, WordPart.first?_point digit⟩
    · exact ⟨_, WordPart.first?_plus number⟩
  have isNext : Reading.start.next? point rest =
      some (((WordPart.first? point rest).map .word).getD .closed) := by
    rcases isMark with rfl | rfl <;> rfl
  obtain ⟨part, isPart⟩ := isWord
  obtain ⟨next, goesOn, onRest⟩ := scan_cons_eq_cons.mp read
  rw [isPart] at isNext
  cases isNext.symm.trans goesOn
  have nothing : startsDigit [] := startsDigit_of_scan onRest digit
  cases nothing

theorem WordPart.next?_eq_none {part : WordPart} {following rest : Text}
    (nothing : part.next? point rest = none)
    (digits : point = '.' ∨ point = '+' → startsDigit following → startsDigit rest) :
    part.next? point following = none := by
  simp only [WordPart.next?] at nothing ⊢
  repeat' split at nothing
  all_goals grind

/-- Where a lexeme ends, it also ends in front of a text that looks the same. -/
theorem scan_eq_nil (nothing : scan reading text = []) (resembles : Resembles other text) :
    scan reading other = [] := by
  rcases resembles with rfl | ⟨point, following, rest, rfl, rfl, digits⟩
  · rfl
  · rw [scan_cons_eq_nil] at nothing ⊢
    cases reading with
    | start =>
        obtain ⟨next, goesOn⟩ := exists_next_start point rest
        rw [goesOn] at nothing
        cases nothing
    | word part =>
        rw [Reading.next?, Option.map_eq_none_iff] at nothing ⊢
        exact WordPart.next?_eq_none nothing digits
    | _ => exact nothing

theorem WordPart.next?_eq_some {part next : WordPart}
    (goesOn : part.next? point (lexeme ++ text) = some next)
    (onRest : scan (.word next) (lexeme ++ text) = lexeme) :
    part.next? point (lexeme ++ other) = some next := by
  have digit (number : startsDigit (lexeme ++ text)) : startsDigit (lexeme ++ other) :=
    startsDigit_of_begins (List.prefix_append _ _) (startsDigit_of_scan onRest number)
  simp only [WordPart.next?] at goesOn ⊢
  repeat' split at goesOn
  all_goals grind

theorem WordPart.first?_eq_some {part : WordPart}
    (begins : first? point (lexeme ++ text) = some part)
    (onRest : scan (.word part) (lexeme ++ text) = lexeme) :
    first? point (lexeme ++ other) = some part := by
  have digit (read : startsDigit (lexeme ++ text)) : startsDigit (lexeme ++ other) :=
    startsDigit_of_begins (List.prefix_append _ _) (startsDigit_of_scan onRest read)
  have number (isSign : part = .sign) (read : startsNumber (lexeme ++ text)) :
      startsNumber (lexeme ++ other) := by
    subst isSign
    exact startsNumber_of_begins (List.prefix_append _ _) (startsNumber_of_scan onRest read)
  have distinct : CodePoint.ofChar '.' ≠ CodePoint.ofChar '+' := by decide
  simp only [first?] at begins ⊢
  repeat' split at begins
  all_goals grind

theorem WordPart.first?_eq_none (nothing : first? point text = none)
    (announces : Announces text other) : first? point other = none := by
  obtain ⟨digit, number, -⟩ := announces
  simp only [first?] at nothing ⊢
  repeat' split at nothing
  all_goals grind

theorem Reading.next?_start_eq_some {next : Reading}
    (goesOn : Reading.start.next? point (lexeme ++ text) = some next)
    (onRest : scan next (lexeme ++ text) = lexeme) (announces : Announces text other) :
    Reading.start.next? point (lexeme ++ other) = some next := by
  have ahead := announces.behind lexeme
  simp only [Reading.next?] at goesOn ⊢
  split at goesOn
  case isTrue isSpace => rw [if_pos isSpace, goesOn]
  case isFalse noSpace =>
    split at goesOn
    case isTrue quoted => rw [if_neg noSpace, if_pos quoted, goesOn]
    case isFalse unquoted =>
      rw [if_neg noSpace, if_neg unquoted]
      split at goesOn
      case isTrue isComment =>
        cases goesOn
        cases lexeme with
        | cons second lexeme => exact if_pos isComment
        | nil =>
            -- The asterisk belongs to the comment, so it is no part of what follows.
            obtain ⟨following, isText⟩ := List.head?_eq_some_iff.mp isComment.2
            rw [isText, scan_cons_eq_nil] at onRest
            cases onRest
      case isFalse noComment =>
        have stillNone : ¬(point = '/' ∧
            (lexeme ++ other).head? = some (CodePoint.ofChar '*')) := fun isComment =>
          noComment ⟨isComment.1, ahead.asterisk isComment.2⟩
        rw [if_neg stillNone]
        cases begins : WordPart.first? point (lexeme ++ text) with
        | none => rw [WordPart.first?_eq_none begins ahead, ← goesOn, begins]
        | some part =>
            rw [begins] at goesOn
            cases goesOn
            rw [WordPart.first?_eq_some begins onRest]

/-- What is read on behind the beginning of a lexeme does not depend on what follows the lexeme. -/
theorem Reading.next?_eq_some {next : Reading}
    (goesOn : reading.next? point (lexeme ++ text) = some next)
    (onRest : scan next (lexeme ++ text) = lexeme) (begun : reading ≠ .start) :
    reading.next? point (lexeme ++ other) = some next := by
  cases reading with
  | start => exact absurd rfl begun
  | word part =>
      obtain ⟨behind, partNext, rfl⟩ := Option.map_eq_some_iff.mp goesOn
      rw [Reading.next?, WordPart.next?_eq_some partNext onRest]
      rfl
  | _ => exact goesOn

/-- A lexeme is read the same with a text behind it that looks the same. -/
theorem scan_append (read : scan reading (lexeme ++ text) = lexeme)
    (resembles : Resembles other text) : scan reading (lexeme ++ other) = lexeme := by
  induction lexeme generalizing reading with
  | nil => exact scan_eq_nil read resembles
  | cons point lexeme ih =>
      obtain ⟨next, goesOn, onRest⟩ := scan_cons_eq_cons.mp read
      refine scan_cons_eq_cons.mpr ⟨next, ?_, ih onRest⟩
      by_cases isStart : reading = .start
      · subst isStart
        exact Reading.next?_start_eq_some goesOn onRest resembles.announces
      · exact Reading.next?_eq_some goesOn onRest isStart

/-- A text that no lexeme but white space goes on with. -/
def IsStop (text : Text) : Prop :=
  ∃ point following, text = point :: following ∧ (point = ' ' ∨ point = '/')

theorem IsStop.announces (stop : IsStop other) : Announces text other := by
  obtain ⟨point, following, rfl, isMark⟩ := stop
  have noDigit : ¬point.isAsciiDigit := by rcases isMark with rfl | rfl <;> decide
  have noPoint : point ≠ '.' := by rcases isMark with rfl | rfl <;> decide
  have noAsterisk : point ≠ '*' := by rcases isMark with rfl | rfl <;> decide
  refine ⟨fun digit => absurd digit noDigit, fun number => ?_,
    fun isHead => absurd (Option.some_inj.mp isHead) noAsterisk⟩
  simp [startsNumber, noDigit, noPoint] at number

/-- The reader is in a token, behind its first code point. -/
def Reading.InToken : Reading → Prop
  | .word _ | .closed => True
  | .string quote | .stringEscape quote => isQuote quote
  | _ => False

theorem Reading.InToken.behind {next : Reading} {rest : Text} (inToken : reading.InToken)
    (goesOn : reading.next? point rest = some next) : next.InToken := by
  cases reading with
  | start | space | slash | comment | asterisk => exact inToken.elim
  | closed => cases goesOn
  | word part =>
      obtain ⟨part, -, rfl⟩ := Option.map_eq_some_iff.mp goesOn
      trivial
  | stringEscape quote =>
      cases goesOn
      exact inToken
  | string quote =>
      simp only [Reading.next?] at goesOn
      repeat' split at goesOn
      all_goals cases goesOn
      · trivial
      · exact inToken
      · exact inToken

/-- A lexeme that is no comment does not begin as one. -/
theorem noOpening_of_scan (read : scan .start (point :: (lexeme ++ text)) = point :: lexeme)
    (noComment : ¬isComment (point :: lexeme)) :
    ¬(point = '/' ∧ (lexeme ++ text).head? = some (CodePoint.ofChar '*')) := by
  rintro ⟨rfl, opens⟩
  obtain ⟨goal, goesOn, onRest⟩ := scan_cons_eq_cons.mp read
  obtain ⟨more, isText⟩ := List.head?_eq_some_iff.mp opens
  have isSlash : Reading.start.next? (CodePoint.ofChar '/') (lexeme ++ text) = some .slash := by
    rw [isText]
    rfl
  cases isSlash.symm.trans goesOn
  refine noComment ?_
  rw [← onRest, isText]
  rfl

theorem Reading.inToken_of_start {next : Reading} {rest : Text}
    (goesOn : Reading.start.next? point rest = some next) (ordinary : ¬Html.isMarkupBlank point)
    (noOpening : ¬(point = '/' ∧ rest.head? = some (CodePoint.ofChar '*'))) : next.InToken := by
  rw [Reading.next?, if_neg ordinary, if_neg noOpening] at goesOn
  split at goesOn
  · next quoted =>
      cases goesOn
      exact quoted
  · cases begins : WordPart.first? point rest <;>
      · rw [begins] at goesOn
        cases goesOn
        trivial

/-- What ends in front of some text also ends in front of a stop. -/
theorem scan_eq_nil_of_stop (nothing : scan reading text = []) (several : text ≠ [])
    (inToken : reading.InToken) (stop : IsStop other) : scan reading other = [] := by
  obtain ⟨point, rest, rfl⟩ := List.exists_cons_of_ne_nil several
  rw [scan_cons_eq_nil] at nothing
  obtain ⟨mark, following, rfl, isMark⟩ := stop
  rw [scan_cons_eq_nil]
  cases reading with
  | start | space | slash | comment | asterisk => exact inToken.elim
  | closed => rfl
  | stringEscape => cases nothing
  | string =>
      simp only [Reading.next?] at nothing
      repeat' split at nothing
      all_goals cases nothing
  | word part =>
      have noEscape : part ≠ .escape := by
        rintro rfl
        cases nothing
      have stops : part.next? mark following = none := by
        rcases isMark with rfl | rfl
        all_goals
          rw [WordPart.next?, if_neg noEscape]
          rfl
      rw [Reading.next?, stops]
      rfl

/-- A token that something follows is read the same in front of a stop. -/
theorem scan_stop (read : scan .start (lexeme ++ text) = lexeme) (several : text ≠ [])
    (begun : lexeme ≠ []) (noSpace : ¬isSpacing lexeme) (noComment : ¬isComment lexeme)
    (stop : IsStop other) : scan .start (lexeme ++ other) = lexeme := by
  have readOn (lexeme : Text) (reading : Reading) (inToken : reading.InToken)
      (read : scan reading (lexeme ++ text) = lexeme) :
      scan reading (lexeme ++ other) = lexeme := by
    induction lexeme generalizing reading with
    | nil => exact scan_eq_nil_of_stop read several inToken stop
    | cons point lexeme ih =>
        obtain ⟨next, goesOn, onRest⟩ := scan_cons_eq_cons.mp read
        have begun : reading ≠ .start := by
          rintro rfl
          exact inToken
        exact scan_cons_eq_cons.mpr ⟨next, Reading.next?_eq_some goesOn onRest begun,
          ih next (inToken.behind goesOn) onRest⟩
  obtain ⟨point, lexeme, rfl⟩ := List.exists_cons_of_ne_nil begun
  have noOpening := noOpening_of_scan read noComment
  obtain ⟨next, goesOn, onRest⟩ := scan_cons_eq_cons.mp read
  exact scan_cons_eq_cons.mpr ⟨next, Reading.next?_start_eq_some goesOn onRest stop.announces,
    readOn lexeme next (Reading.inToken_of_start goesOn noSpace noOpening) onRest⟩

end Scanning

/-- A text is split into lexemes, each of which is the first one of what is left. -/
inductive Lexed : (text : Text) → (lexemes : List Text) → Prop
  | done : Lexed [] []
  | next {lexeme rest : Text} {lexemes : List Text} (several : lexeme ≠ [])
      (read : scan .start (lexeme ++ rest) = lexeme) (onRest : Lexed rest lexemes) :
      Lexed (lexeme ++ rest) (lexeme :: lexemes)

section Lexing

variable {lexeme rest text : Text}

theorem lexemesFrom_append (front rest : Text) :
    lexemesFrom front.length (front ++ rest) = lexemes rest := by
  induction front with
  | nil => rfl
  | cons point front ih => exact ih

theorem lexemes_append (several : lexeme ≠ []) (read : scan .start (lexeme ++ rest) = lexeme) :
    lexemes (lexeme ++ rest) = lexeme :: lexemes rest := by
  cases lexeme with
  | nil => exact absurd rfl several
  | cons point lexeme =>
      have step : lexemes (point :: lexeme ++ rest) = scan .start (point :: lexeme ++ rest) ::
          lexemesFrom ((scan .start (point :: lexeme ++ rest)).length - 1) (lexeme ++ rest) := rfl
      rw [step, read, List.length_cons, Nat.add_sub_cancel, lexemesFrom_append]

theorem lexed_lexemes (text : Text) : Lexed text (lexemes text) := by
  -- A lexeme takes several code points at once, so the induction is on the length.
  induction size : text.length using Nat.strong_induction_on generalizing text with
  | _ size ih =>
    subst size
    by_cases several : text = []
    · rw [several]
      exact .done
    · obtain ⟨rest, isWhole⟩ := scan_begins .start text
      have started := scan_start_ne_nil several
      have shorter : rest.length < text.length := by
        rw [← isWhole, List.length_append]
        have := List.length_pos_iff.mpr started
        omega
      have read : scan .start (scan .start text ++ rest) = scan .start text := by rw [isWhole]
      have onRest := Lexed.next started read (ih _ shorter rest rfl)
      rwa [← lexemes_append started read, isWhole] at onRest

theorem Lexed.flatten_eq {lexemes : List Text} (lexed : Lexed text lexemes) :
    lexemes.flatten = text := by
  induction lexed with
  | done => rfl
  | next several read onRest ih => rw [List.flatten_cons, ih]

theorem scan_space (text : Text) : scan .space text = text.takeWhile Html.isMarkupBlank := by
  induction text with
  | nil => rfl
  | cons point rest ih =>
      cases isSpace : Html.isMarkupBlank point <;> simp [scan, Reading.next?, isSpace, ih]

/-- White space is read together. -/
theorem isMarkupBlank_of_isSpacing (read : scan .start (lexeme ++ rest) = lexeme)
    (spacing : isSpacing lexeme) : ∀ point ∈ lexeme, Html.isMarkupBlank point := by
  cases lexeme with
  | nil => cases spacing
  | cons first lexeme =>
      have isSpace : Html.isMarkupBlank first := spacing
      obtain ⟨next, goesOn, onRest⟩ := scan_cons_eq_cons.mp read
      rw [Reading.next?, if_pos isSpace] at goesOn
      cases goesOn
      rw [scan_space] at onRest
      rw [List.forall_mem_cons]
      refine ⟨isSpace, fun point mem => ?_⟩
      rw [← onRest] at mem
      exact List.mem_takeWhile_imp mem

end Lexing

end ComponentInliner.StyleSheet
