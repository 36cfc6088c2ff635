import ComponentInliner.Pattern.Head

/-!
# Reading patterns

`Pattern.parse` reads a written pattern. The groups that are open are levels, the innermost first;
each knows the alternatives read in it and the items of the last one. A lexeme adds to the innermost
level, repeats its last item, opens a level or closes it. What may go wrong in a pattern as a whole
is looked for at the end.
-/

namespace ComponentInliner.Pattern

/-- Counts from this one on are too large. -/
def countLimit : Nat := 4294967295

/-- The count with given digits; no digits are no count. -/
def countOf? (digits : Text) : Reader (Option Nat) := do
  if digits.isEmpty then return none
  if digits.length > digitLimit then fail .longCount
  let count := numberOf 10 digits
  if count ≥ countLimit then fail .largeCount
  return some count

/-- The bounds of a repetition in braces, if what follows the brace is one. -/
def readCounts? (afterBrace : Nat) : Reader (Option (Nat × Option Nat)) := attempt do
  let low ← readAllWhile CodePoint.isAsciiDigit
  let high ← if ← accept ',' then readAllWhile CodePoint.isAsciiDigit else pure low
  if !(← accept '}') then
    return none
  let least := (← countOf? low).getD 0
  let most ← countOf? high
  if most.any (· < least) then
    failAt .reversedCounts afterBrace
  return some (least, most)

/-- The bounds of the repetition that a character means, if it means one. -/
def readRepetition? (character : CodePoint) : Reader (Option (Nat × Option Nat)) := do
  if character = '?' then return some (0, some 1)
  else if character = '*' then return some (0, none)
  else if character = '+' then return some (1, none)
  else if ← isNext '}' then return none
  else readCounts? (← position)

def readRepetitionKind : Reader RepetitionKind := do
  if ← accept '?' then return .lazy
  else if ← accept '+' then return .possessive
  else return .greedy

/-- Repeats the last of the items read, which come last first. -/
def repeatLast (start : Nat) (least : Nat) (most : Option Nat) : List Item → Reader (List Item)
  | [] => failAt .nothingToRepeat start
  | ⟨kind, pattern⟩ :: items => do
      match kind with
      | .boundary => failAt .nothingToRepeat start
      | .repetition => failAt .multipleRepeat start
      | .plain =>
          return ⟨.repetition, .repetition (← readRepetitionKind) least most pattern⟩ :: items

def lineStep (_ : Unit) : Reader (Step Unit Unit) := do
  match ← advance with
  | none => return .done ()
  | some lexeme => return if lexeme.isPlain '\n' then .done () else .again ()

/-- Skips a comment up to the end of the line. -/
def skipLine : Reader Unit :=
  readOn lineStep ()

/-- White space that a verbose pattern may hold. -/
def isSkipped (point : CodePoint) : Bool :=
  point.val = 32 || (9 ≤ point.val && point.val ≤ 13)

/-- The pattern of items that come last first. -/
def sequenceOf : List Item → Pattern
  | [] => .empty
  | item :: items => items.foldl (fun after item => .sequence item.pattern after) item.pattern

/-- An open group, or the whole pattern. -/
structure Level where
  kind : GroupKind
  mode : PatternMode
  /-- Where the parenthesis stands. -/
  start : Nat
  /-- What was known about bodies that are looked back over before the group began. -/
  behindGroups? : Option Nat
  /-- The alternatives before the last one. -/
  alternatives? : Option Pattern
  /-- The items of the last alternative, the last of them first. -/
  items : List Item

namespace Level

def add (item : Item) (level : Level) : Level :=
  { level with items := item :: level.items }

/-- The alternatives of a level. -/
def pattern (level : Level) : Pattern :=
  match level.alternatives? with
  | none => sequenceOf level.items
  | some others => .choice others (sequenceOf level.items)

/-- The pattern of a group that ends. -/
def closed (level : Level) : Pattern :=
  match level.kind with
  | .plain => level.pattern
  | .atomic => .atomic level.pattern
  | .numbered group => .capture group level.pattern
  | .conditional group =>
      match level.alternatives? with
      | none => .conditional group (sequenceOf level.items) .empty
      | some taken => .conditional group taken (sequenceOf level.items)
  | .look isAhead isNegated =>
      if isAhead then .lookahead isNegated level.pattern else .lookbehind isNegated level.pattern

end Level

/-- Ends an alternative of the innermost level. -/
def endAlternative (level : Level) : Reader Level := do
  if let .conditional _ := level.kind then
    if level.alternatives?.isSome then
      failBack .thirdBranch 0
  let _ ← advance
  return { level with alternatives? := some level.pattern, items := [] }

/-- Ends the innermost level, the item for which belongs to the next one. -/
def closeLevel (level outer : Level) : Reader Level := do
  let _ ← advance
  learn fun found =>
    let groups := match level.kind with
      | .numbered group => found.groups.set group (some level.pattern.widths)
      | _ => found.groups
    { found with groups := groups, behindGroups? := level.behindGroups? }
  return outer.add ⟨.plain, level.closed⟩

/-- The innermost level, and the levels around it from the inside to the outside. -/
abbrev Levels := Level × List Level

/-- Reads what an opening parenthesis begins, and opens a level for it if it begins a group. -/
def openLevel (start : Nat) (level : Level) (outer : List Level) : Reader Levels := do
  let behindGroups? := (← findings).behindGroups?
  match ← readHead level.mode start with
  | .comment => return (level, outer)
  | .item item => return (level.add item, outer)
  | .group kind mode => return (⟨kind, mode, start, behindGroups?, none, []⟩, level :: outer)
  | .flags added =>
      let isFirst := outer.isEmpty && level.alternatives?.isNone && level.items.isEmpty
      if !isFirst then
        failAt .misplacedFlags start
      learn fun found => { found with flags := found.flags ++ added }
      return ({ level with mode := withFlags true added level.mode }, outer)

/-- Reads on in the innermost level, where a lexeme has just been read at a position. -/
def readItem (start : Nat) (lexeme : Lexeme) (level : Level) (outer : List Level) :
    Reader Levels := do
  let mode := level.mode
  match lexeme with
  | .escaped point => return (level.add (← readEscape mode point), outer)
  | .plain point =>
      if mode.isVerbose && isSkipped point then
        return (level, outer)
      else if mode.isVerbose && point = '#' then
        skipLine
        return (level, outer)
      else if point = '[' then
        let isNegated ← accept '^'
        let members ← readMembers start
        return (level.add ⟨.plain, .oneOf mode isNegated members⟩, outer)
      else if point = '?' ∨ point = '*' ∨ point = '+' ∨ point = '\x7b' then
        match ← readRepetition? point with
        | none => return (level.add (literalItem mode point), outer)
        | some (least, most) =>
            let items ← repeatLast start least most level.items
            return ({ level with items := items }, outer)
      else if point = '.' then
        let excluded : List SetMember := if mode.pointMatchesAll then [] else [.range '\n' '\n']
        return (level.add ⟨.plain, .oneOf .plain true excluded⟩, outer)
      else if point = '^' then
        let condition := if mode.seesLines then Boundary.lineStart else .textStart
        return (level.add ⟨.boundary, .boundary mode condition⟩, outer)
      else if point = '$' then
        let condition := if mode.seesLines then Boundary.lineEnd else .textEnd
        return (level.add ⟨.boundary, .boundary mode condition⟩, outer)
      else if point = '(' then
        openLevel start level outer
      else
        return (level.add (literalItem mode point), outer)

/-- Reads what comes next, on the innermost level. -/
def levelStep (levels : Levels) : Reader (Step Levels Pattern) := do
  let (level, outer) := levels
  let start ← position
  match ← peek with
  | none =>
      if outer.isEmpty then return .done level.pattern
      else failAt .unterminatedGroup level.start
  | some lexeme =>
      if lexeme.isPlain '|' then
        return .again (← endAlternative level, outer)
      else if lexeme.isPlain ')' then
        match outer with
        | [] => return .done level.pattern
        | next :: outer => return .again (← closeLevel level next, outer)
      else
        let _ ← advance
        return .again (← readItem start lexeme level outer)

/-- Checks that there are the groups that conditions are about. -/
def checkConditions : Reader Unit := do
  let found ← findings
  match found.conditions.find? fun (group, _) => found.groups.length ≤ group with
  | some (group, position) => failAt (.unknownGroup group) position
  | none => return ()

/-- Reads a whole pattern, and the flags that it has as a whole. -/
def readWhole : Reader (Pattern × List Char) := do
  let pattern ← readOn levelStep (⟨.plain, .plain, 0, none, none, []⟩, [])
  let flags := (← findings).flags
  if 'a' ∈ flags ∧ 'u' ∈ flags then
    fail .opposedFlags
  match ← peek with
  | none =>
      checkConditions
      return (pattern, flags)
  | some _ => failBack .unbalancedParenthesis 0

/-- The most code points that can be looked back over. -/
def behindLimit : Nat := 4294967295

/-- What is wrong with a stretch that is looked back over. -/
def behindFault? (body : Widths) : Option PatternFault :=
  if body.least > behindLimit then some .farBehind
  else if body.least = body.most then none
  else some .varyingWidth

/-- What is wrong with a part of a pattern, its own parts aside. -/
def partFault? (flags : List Char) : Pattern → Option PatternFault
  | .repetition kind _ _ _ =>
      if 't' ∈ flags then some (.repetitionInTemplate kind) else none
  | .lookbehind _ body => behindFault? body.widths
  | _ => none

def parse (text : Text) : Except PatternFault Pattern := do
  let (next?, rest) ← nextLexeme text.length text
  let ((pattern, flags), _) ← readWhole.run ⟨text.length, next?, rest, .none⟩
  match pattern.parts.findSome? (partFault? flags) with
  | none => return pattern
  | some fault => throw fault

end ComponentInliner.Pattern
