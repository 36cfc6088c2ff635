import ComponentInliner.Yaml.Cursor
import ComponentInliner.Yaml.Kind
import ComponentInliner.Yaml.Pen

/-!
# How scalars are written

A text is written plain if it reads back as itself, else between single quotes, and between double
quotes with escapes where those do not suffice. Lines that are longer than 80 columns are folded
at single spaces.
-/

namespace ComponentInliner.Yaml

/-- How a scalar is written. -/
inductive ScalarStyle where
  | plain
  | single
  | double
  deriving DecidableEq, Repr

def lineWidth : Nat := 80

/-! ## Which styles a text admits -/

/-- Whether a code point can be written without an escape. -/
def isDirect (point : CodePoint) : Bool :=
  32 ≤ point.val && point.val ≤ 126

def isMultiline (text : Text) : Bool :=
  text.any fun point => isBreak point && point.val ≠ 13

/-- Whether a text can stand between single quotes: no escapes, no spaces around line ends. -/
def allowsSingle (text : Text) : Bool :=
  text.all (fun point : CodePoint => isDirect point || point = '\n') &&
    !text.contains "\n " && !text.contains " \n"

/-- Whether a text has something that means more than a character in a block. -/
def hasIndicator (text : Text) : Bool :=
  let indicators : Text := "#,[]\x7b\x7d&*!|>'\"%@\x60"
  let endsWord : Text → Bool := fun rest => rest.head?.all fun point : CodePoint => point = ' '
  let beginsWithOne : Bool := match text with
    | [] => false
    | first :: rest =>
        let isMark := first = '?' || first = ':' || first = '-'
        first ∈ indicators || (isMark && endsWord rest)
  text.startsWith "---" || text.startsWith "..." || beginsWithOne || text.contains ": " ||
    text.endsWith ":" || text.contains " #"

def allowsPlain (text : Text) : Bool :=
  let space : CodePoint := ' '
  allowsSingle text && !isMultiline text && text.head? ≠ some space &&
    text.getLast? ≠ some space && !hasIndicator text

/-- The style of a text. Keys stand on one line. -/
def ScalarStyle.ofText (isKey : Bool) (text : Text) : ScalarStyle :=
  if ScalarKind.ofPlain text = .text && allowsPlain text then plain
  else if allowsSingle text && !(isKey && isMultiline text) then single
  else double

/-! ## Writing scalars -/

/-- The classes of code points that folding distinguishes. -/
inductive RunKind where
  | spaces
  | breaks
  | word
  deriving DecidableEq

def RunKind.of (point : CodePoint) : RunKind :=
  if point = ' ' then spaces else if isBreak point then breaks else word

/-- The runs of code points of one class in a text. -/
def runs (text : Text) : List Text :=
  text.splitBy fun left right => RunKind.of left = RunKind.of right

/-- Whether a run between others is a single space beyond the end of the line. -/
def isFold (run : Text) (pen : Pen) : Bool :=
  run.length = 1 && lineWidth < pen.column

/-- Writes a line break of a scalar: the first of several is doubled. -/
def writeBreaks (indent : Nat) (run : Text) (pen : Pen) : Pen :=
  (run.foldl (fun pen _ => pen.endLine) pen.endLine).indentTo indent

def writePlainRuns (indent : Nat) (folds : Bool) (isFirst : Bool) : List Text → Pen → Pen
  | [], pen => pen
  | run :: others, pen =>
      let canFold := folds && !isFirst && !others.isEmpty && isFold run pen
      let pen :=
        if canFold && run.head?.any (fun point => RunKind.of point = .spaces) then
          (pen.indentTo indent).settle
        else
          pen.put run
      writePlainRuns indent folds false others pen

def writePlain (indent : Nat) (folds : Bool) (text : Text) (pen : Pen) : Pen :=
  let pen := if pen.hasGap then pen else pen.put " "
  writePlainRuns indent folds true (runs text) pen.settle

def writeSingleRuns (indent : Nat) (folds : Bool) (isFirst : Bool) : List Text → Pen → Pen
  | [], pen => pen
  | run :: others, pen =>
      let canFold := folds && !isFirst && !others.isEmpty && isFold run pen
      let pen := match run.head?.map RunKind.of with
        | some .spaces => if canFold then pen.indentTo indent else pen.put run
        | some .breaks => writeBreaks indent run pen
        | _ => pen.put (Text.replacePoint '\'' "''" run)
      writeSingleRuns indent folds false others pen

def writeSingle (indent : Nat) (folds : Bool) (text : Text) (pen : Pen) : Pen :=
  (writeSingleRuns indent folds true (runs text) (pen.mark "'" true false)).mark "'" false false

/-- The code points that have a short escape, with what follows the backslash. -/
def shortEscapes : List (Nat × Char) :=
  [(0, '0'), (7, 'a'), (8, 'b'), (9, 't'), (10, 'n'), (11, 'v'), (12, 'f'), (13, 'r'), (27, 'e'),
    (34, '"'), (92, '\\'), (0x85, 'N'), (0xA0, '_'), (0x2028, 'L'), (0x2029, 'P')]

def upperHexadecimal (width number : Nat) : Text :=
  (Text.hexadecimal width number).map fun point : CodePoint =>
    if point.isBetween 'a' 'f' then CodePoint.ofChar (Char.ofNat (point.val - 32)) else point

/-- The escape of a code point, if it needs one between double quotes. -/
def escape? (point : CodePoint) : Option Text :=
  match shortEscapes.lookup point.val with
  | some letter => some ['\\', letter]
  | none =>
      if isDirect point then none
      else if point.val < 0x100 then some ("\\x" ++ upperHexadecimal 2 point.val)
      else if point.val < 0x10000 then some ("\\u" ++ upperHexadecimal 4 point.val)
      else some ("\\U" ++ upperHexadecimal 8 point.val)

/-- Ends a line between double quotes; a space at the start of the next one needs a backslash. -/
def breakDouble (indent : Nat) (next? : Option CodePoint) (pen : Pen) : Pen :=
  let pen := ((pen.put "\\").indentTo indent).settle
  let space : CodePoint := ' '
  if next? = some space then pen.put "\\" else pen

/--
Writes the code points between double quotes. Those of `pending` are due already: lines end
between the text that is due and the next code point.
-/
def writeDoubleRest (indent : Nat) (folds : Bool) (isFirst : Bool) (pending : Text) :
    Text → Pen → Pen
  | [], pen => pen.put pending
  | point :: rest, pen =>
      let mayFold := folds && !isFirst && !rest.isEmpty
      match escape? point with
      | some escape =>
          let pen := (pen.put pending).put escape
          let pen :=
            if mayFold && lineWidth + 1 < pen.column then breakDouble indent rest.head? pen else pen
          writeDoubleRest indent folds false [] rest pen
      | none =>
          let isPlace := point = ' ' || pending.isEmpty
          if mayFold && isPlace && lineWidth < pen.column + pending.length then
            let pen := breakDouble indent (some point) (pen.put pending)
            writeDoubleRest indent folds false [point] rest pen
          else
            writeDoubleRest indent folds false (pending ++ [point]) rest pen

def writeDouble (indent : Nat) (folds : Bool) (text : Text) (pen : Pen) : Pen :=
  (writeDoubleRest indent folds true [] text (pen.mark "\"" true false)).mark "\"" false false

def ScalarStyle.write (style : ScalarStyle) (indent : Nat) (folds : Bool) (text : Text)
    (pen : Pen) : Pen :=
  match style with
  | plain => writePlain indent folds text pen
  | single => writeSingle indent folds text pen
  | double => writeDouble indent folds text pen

end ComponentInliner.Yaml
