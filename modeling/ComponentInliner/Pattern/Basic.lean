import ComponentInliner.OrderedMap
import ComponentInliner.Text.CaseMapping
import ComponentInliner.Text.Classes

/-!
# Patterns

A pattern describes texts: sets of code points, boundaries between them, sequences, choices and
repetitions, and references to what a part of it took before. Filters use patterns to say which
module ids they mean, so all that matters is whether a pattern occurs somewhere in a text.

`Pattern.run` looks for an occurrence that begins at one place and lets something else go on behind
it. The ways in which a pattern can occur are tried one after the other, and the first that lets
the rest go on is taken; that decides what groups hold when something refers to them.
-/

namespace ComponentInliner

/-- How a part of a pattern is to be read. -/
structure PatternMode where
  ignoresCase : Bool
  pointMatchesAll : Bool
  /-- Lines begin and end at line feeds. -/
  seesLines : Bool
  /-- White space and comments in the pattern are skipped. -/
  isVerbose : Bool
  /-- Classes and case know the characters of ASCII alone. -/
  isAscii : Bool
  deriving DecidableEq, Repr

/-- The mode that patterns are read in unless they say otherwise. -/
def PatternMode.plain : PatternMode :=
  ⟨false, false, false, false, false⟩

/-- The classes of code points that have a name. -/
inductive NamedClass where
  | digit
  | blank
  | word
  deriving DecidableEq, Repr

def NamedClass.holds (isAscii : Bool) (named : NamedClass) (point : CodePoint) : Bool :=
  let general := match named with
    | .digit => point.isDecimalDigit
    | .blank => point.isBlank && !(isAscii && 28 ≤ point.val && point.val ≤ 31)
    | .word => point.isWord
  general && (!isAscii || point.val < 128)

/-- A member of a set of code points. -/
inductive SetMember where
  | range (first last : CodePoint)
  | named (isNegated : Bool) (kind : NamedClass)
  deriving DecidableEq, Repr

/-- Whether a code point is a member of a set, read in a mode. -/
def SetMember.holds (mode : PatternMode) (point : CodePoint) : SetMember → Bool
  | .range first last =>
      let within (number : Nat) : Bool := first.val ≤ number && number ≤ last.val
      if mode.ignoresCase then
        if mode.isAscii then
          let lower := point.asciiLower.val
          within lower || within point.val || (97 ≤ lower && lower ≤ 122 && within (lower - 32))
        else
          point.caseVariants.any within
      else
        within point.val
  | .named isNegated kind => kind.holds mode.isAscii point != isNegated

/-- A condition on the place between two code points. -/
inductive Boundary where
  | textStart
  | lineStart
  /-- The end of the text, or the line feed that ends it. -/
  | textEnd
  | lineEnd
  | lastEnd
  | wordEdge
  | wordInside
  deriving DecidableEq, Repr

/-- A place in a text between two code points. -/
structure Place where
  offset : Nat
  before : Text
  rest : Text
  deriving DecidableEq, Repr

namespace Place

def start (text : Text) : Place :=
  ⟨0, [], text⟩

/-- The whole text that a place is in. -/
def text (place : Place) : Text :=
  place.before.reverse ++ place.rest

/-- The place one code point further, if its code point satisfies a condition. -/
def step? (accepts : CodePoint → Bool) (place : Place) : Option Place :=
  match place.rest with
  | [] => none
  | point :: rest =>
      if accepts point then some ⟨place.offset + 1, point :: place.before, rest⟩ else none

/-- The place so many code points before. -/
def back? : (count : Nat) → Place → Option Place
  | 0, place => some place
  | count + 1, ⟨offset, point :: before, rest⟩ => back? count ⟨offset - 1, before, point :: rest⟩
  | _ + 1, ⟨_, [], _⟩ => none

/-- The place behind a text, each of whose code points is one that is taken for the next. -/
def behind? (isTakenFor : CodePoint → CodePoint → Bool) : Text → Place → Option Place
  | [], place => some place
  | expected :: text, place => (place.step? (isTakenFor expected)).bind (behind? isTakenFor text)

end Place

def Boundary.holds (mode : PatternMode) (place : Place) : Boundary → Bool
  | .textStart => place.before.isEmpty
  | .lineStart => place.before.head?.all fun point : CodePoint => point = '\n'
  | .textEnd => place.rest.isEmpty || place.rest = "\n"
  | .lineEnd => place.rest.head?.all fun point : CodePoint => point = '\n'
  | .lastEnd => place.rest.isEmpty
  | .wordEdge => wordBefore != wordAfter
  | .wordInside => wordBefore == wordAfter
where
  wordBefore : Bool := place.before.head?.any (NamedClass.word.holds mode.isAscii)
  wordAfter : Bool := place.rest.head?.any (NamedClass.word.holds mode.isAscii)

/-- How a repetition goes about its rounds. -/
inductive RepetitionKind where
  /-- As many rounds as possible are tried first. -/
  | greedy
  /-- As few rounds as possible are tried first. -/
  | lazy
  /-- As many rounds as possible are made, and what a round took is not taken otherwise. -/
  | possessive
  deriving DecidableEq, Repr

/-- How many code points an occurrence of a pattern takes, at least and at most. -/
structure Widths where
  least : Nat
  most : Nat
  deriving DecidableEq, Repr

namespace Widths

/-- Widths are not told apart from this one on. -/
def limit : Nat := 0x10000000000000000

def capped (widths : Widths) : Widths :=
  ⟨min widths.least limit, min widths.most limit⟩

def exactly (width : Nat) : Widths :=
  ⟨width, width⟩

/-- The widths of one after the other. -/
def append (first second : Widths) : Widths :=
  capped ⟨first.least + second.least, first.most + second.most⟩

/-- The widths of one or the other. -/
def either (left right : Widths) : Widths :=
  ⟨min left.least right.least, max left.most right.most⟩

/-- The widths of rounds: at least `least` of them, at most `most` if there is a bound. -/
def rounds (least : Nat) (most : Option Nat) (round : Widths) : Widths :=
  let longest := match most with
    | some most => round.most * most
    | none => if round.most = 0 then 0 else limit
  capped ⟨round.least * least, longest⟩

end Widths

inductive Pattern where
  | empty
  | oneOf (mode : PatternMode) (isNegated : Bool) (members : List SetMember)
  | boundary (mode : PatternMode) (boundary : Boundary)
  | sequence (first second : Pattern)
  | choice (left right : Pattern)
  /-- At least `least` times, and at most `most` times if there is a bound. -/
  | repetition (kind : RepetitionKind) (least : Nat) (most : Option Nat) (body : Pattern)
  /-- The body in the first way in which it occurs, and in no other. -/
  | atomic (body : Pattern)
  /-- The body, which other parts refer to by a number. -/
  | capture (group : Nat) (body : Pattern)
  /-- What a group took last; `widths` are those of its body. -/
  | reference (mode : PatternMode) (group : Nat) (widths : Widths)
  /-- One or another, depending on whether a group took anything. -/
  | conditional (group : Nat) (taken untaken : Pattern)
  /-- The body does, or does not, begin here; nothing is taken. -/
  | lookahead (isNegated : Bool) (body : Pattern)
  /-- The body does, or does not, end here; nothing is taken. -/
  | lookbehind (isNegated : Bool) (body : Pattern)
  deriving DecidableEq, Repr

/-- Where a group last began or ended. -/
inductive GroupMark where
  | first (group : Nat)
  | last (group : Nat)
  deriving DecidableEq, Repr

/-- A place that was come to, with what the groups have taken on the way. -/
structure Progress where
  place : Place
  marks : OrderedMap GroupMark Nat

namespace Progress

def start (place : Place) : Progress :=
  ⟨place, .empty⟩

/-- Notes the place as the beginning or the end of a group. -/
def mark (mark : GroupMark) (progress : Progress) : Progress :=
  { progress with marks := progress.marks.insert mark progress.place.offset }

def moveTo (place : Place) (progress : Progress) : Progress :=
  { progress with place := place }

/-- What a group took last, unless it began again since then. -/
def taken? (group : Nat) (progress : Progress) : Option Text := do
  let first ← progress.marks.get? (.first group)
  let last ← progress.marks.get? (.last group)
  if last < first then none else some ((progress.place.text.drop first).take (last - first))

end Progress

/-- What goes on from a place: it fails, or it says where it came to. -/
abbrev Onward := Progress → Option Progress

namespace Pattern

/-- Whether a code point is taken for another one in a mode. -/
def isTakenFor (mode : PatternMode) (expected point : CodePoint) : Bool :=
  if !mode.ignoresCase then expected = point
  else if mode.isAscii then expected.asciiLower = point.asciiLower
  else expected.lowerNumber = point.lowerNumber

/-- The body in the first way in which it occurs, and in no other. -/
def firstWay (body : Onward → Onward) : Onward → Onward :=
  fun next progress => (body some progress).bind next

/-- So many rounds of a body. -/
def allRounds (body : Onward → Onward) : (count : Nat) → Onward → Onward
  | 0, next, progress => next progress
  | count + 1, next, progress => body (allRounds body count next) progress

/--
At most so many rounds of a body. After a round that took nothing there is no other one;
`lastStart?` is the offset at which the round before began.
-/
def someRounds (isLazy : Bool) (body : Onward → Onward) :
    (count : Nat) → (lastStart? : Option Nat) → Onward → Onward
  | 0, _, next, progress => next progress
  | count + 1, lastStart?, next, progress =>
      let start := progress.place.offset
      if lastStart? = some start then
        next progress
      else if isLazy then
        (next progress).orElse fun _ =>
          body (someRounds isLazy body count (some start) next) progress
      else
        (body (someRounds isLazy body count (some start) next) progress).orElse fun _ =>
          next progress

/-- A repetition of a body. Beyond its least rounds, those of a text are one for each code point
that is left and one that takes nothing. -/
def repeated (isLazy : Bool) (least : Nat) (most : Option Nat) (body : Onward → Onward) :
    Onward → Onward :=
  fun next progress =>
    let count := (most.map (· - least)).getD (progress.place.rest.length + 1)
    allRounds body least (someRounds isLazy body count none next) progress

/-- Goes on from a place if something was found there, or if it was not. -/
def looked (isNegated : Bool) (found? : Option Progress) : Onward → Onward :=
  fun next progress =>
    if isNegated then
      if found?.isSome then none else next progress
    else
      found?.bind fun found => next (found.moveTo progress.place)

/-- The fewest and the most code points that an occurrence takes. -/
def widths : Pattern → Widths
  | .empty | .boundary _ _ | .lookahead _ _ | .lookbehind _ _ => .exactly 0
  | .oneOf _ _ _ => .exactly 1
  | .sequence first second => first.widths.append second.widths
  | .choice left right | .conditional _ left right => left.widths.either right.widths
  | .repetition _ least most body => body.widths.rounds least most
  | .atomic body | .capture _ body => body.widths
  | .reference _ _ widths => widths

/-- Goes on behind an occurrence of a pattern: the first one for which that succeeds. -/
def run : Pattern → Onward → Onward
  | .empty, next, progress => next progress
  | .oneOf mode isNegated members, next, progress =>
      let accepts (point : CodePoint) : Bool :=
        members.any (SetMember.holds mode point) != isNegated
      (progress.place.step? accepts).bind fun place => next (progress.moveTo place)
  | .boundary mode condition, next, progress =>
      if condition.holds mode progress.place then next progress else none
  | .sequence first second, next, progress => first.run (second.run next) progress
  | .choice left right, next, progress =>
      (left.run next progress).orElse fun _ => right.run next progress
  | .repetition kind least most body, next, progress =>
      match kind with
      | .greedy => repeated false least most body.run next progress
      | .lazy => repeated true least most body.run next progress
      | .possessive => firstWay (repeated false least most (firstWay body.run)) next progress
  | .atomic body, next, progress => firstWay body.run next progress
  | .capture group body, next, progress =>
      body.run (fun found => next (found.mark (.last group))) (progress.mark (.first group))
  | .reference mode group _, next, progress => do
      let taken ← progress.taken? group
      let place ← progress.place.behind? (isTakenFor mode) taken
      next (progress.moveTo place)
  | .conditional group taken untaken, next, progress =>
      if (progress.taken? group).isSome then taken.run next progress
      else untaken.run next progress
  | .lookahead isNegated body, next, progress =>
      looked isNegated (body.run some progress) next progress
  | .lookbehind isNegated body, next, progress =>
      let found? := (progress.place.back? body.widths.least).bind fun start =>
        body.run some (progress.moveTo start)
      looked isNegated found? next progress

/-- Whether a pattern occurs in the text after some code points. -/
def occursFrom (pattern : Pattern) (offset : Nat) (before : Text) : Text → Bool
  | [] => (pattern.run some (.start ⟨offset, before, []⟩)).isSome
  | point :: rest =>
      (pattern.run some (.start ⟨offset, before, point :: rest⟩)).isSome ||
        occursFrom pattern (offset + 1) (point :: before) rest

def occursIn (pattern : Pattern) (text : Text) : Bool :=
  pattern.occursFrom 0 [] text

/-- A pattern and its parts, from the outside to the inside and from the left to the right. -/
def parts : Pattern → List Pattern
  | .sequence first second => .sequence first second :: (parts first ++ parts second)
  | .choice left right => .choice left right :: (parts left ++ parts right)
  | .conditional group taken untaken =>
      .conditional group taken untaken :: (parts taken ++ parts untaken)
  | .repetition kind least most body => .repetition kind least most body :: parts body
  | .atomic body => .atomic body :: parts body
  | .capture group body => .capture group body :: parts body
  | .lookahead isNegated body => .lookahead isNegated body :: parts body
  | .lookbehind isNegated body => .lookbehind isNegated body :: parts body
  | pattern => [pattern]

end Pattern

end ComponentInliner
