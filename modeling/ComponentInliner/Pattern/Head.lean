import ComponentInliner.Number.Numeral
import ComponentInliner.Pattern.Escape

/-!
# Heads of groups

What follows an opening parenthesis says what kind of group it begins, or that it begins none:
flags for the whole pattern, a comment, and a reference to a group by its name stand in parentheses
as well.
-/

namespace ComponentInliner.Pattern

/-- The flags that a pattern may turn on. -/
def knownFlags : List Char := ['i', 'L', 'm', 's', 'x', 'a', 't', 'u']

def flagOf? (lexeme : Lexeme) : Option Char :=
  knownFlags.find? fun flag => lexeme.isPlain flag

def flagProblem (otherwise : PatternProblem) (lexeme : Lexeme) : PatternProblem :=
  match lexeme with
  | .plain point => if point.isLetter then .unknownFlag else otherwise
  | .escaped _ => otherwise

/-- The flags that only the whole pattern may turn on. -/
def wholeFlags : List Char := ['t']

/-- What a group with flags says. -/
inductive FlagChange where
  | whole (added : List Char)
  | within (added removed : List Char)

/-- The flags before the last one that was read, and that one. -/
abbrev FlagsRead := List Char × Char

/-- Reads what follows a flag to turn off. -/
def removedStep (added : List Char) (read : FlagsRead) : Reader (Step FlagsRead FlagChange) := do
  let (removed, flag) := read
  if flag ∈ ['a', 'u', 'L'] then
    failBack .fixedFlags 0
  let removed := removed ++ [flag]
  match ← advance with
  | none => failBack .missingColon 0
  | some lexeme =>
      if lexeme.isPlain ':' then
        if removed.any wholeFlags.contains then failBack (.wholeFlag false) 1
        else if removed.any added.contains then failBack .flagOnAndOff 1
        else return .done (.within added removed)
      else
        match flagOf? lexeme with
        | some flag => return .again (removed, flag)
        | none => failBack (flagProblem .missingColon lexeme) lexeme.text.length

/-- Reads the flags to turn off, the first of which was read, up to the colon. -/
def readRemoved (added : List Char) (first : Char) : Reader FlagChange :=
  readOn (removedStep added) ([], first)

/-- Reads what follows the minus sign in a group with flags. -/
def readMinus (added : List Char) : Reader FlagChange := do
  match ← advance with
  | none => failBack .missingFlag 0
  | some lexeme =>
      match flagOf? lexeme with
      | some flag => readRemoved added flag
      | none => failBack (flagProblem .missingFlag lexeme) lexeme.text.length

/-- Reads what follows a flag to turn on. -/
def addedStep (read : FlagsRead) : Reader (Step FlagsRead FlagChange) := do
  let (added, flag) := read
  if flag = 'L' then
    failBack .localeFlag 0
  let added := added ++ [flag]
  if 'a' ∈ added ∧ 'u' ∈ added then
    failBack .conflictingFlags 0
  match ← advance with
  | none => failBack .missingFlagEnd 0
  | some lexeme =>
      let hasBody := lexeme.isPlain ':' || lexeme.isPlain '-'
      if lexeme.isPlain ')' then return .done (.whole added)
      else if hasBody && added.any wholeFlags.contains then failBack (.wholeFlag true) 1
      else if lexeme.isPlain ':' then return .done (.within added [])
      else if lexeme.isPlain '-' then return .done (← readMinus added)
      else
        match flagOf? lexeme with
        | some flag => return .again (added, flag)
        | none => failBack (flagProblem .missingFlagEnd lexeme) lexeme.text.length

/-- Reads the flags to turn on, the first of which was read, and what follows them. -/
def readAdded (first : Char) : Reader FlagChange :=
  readOn addedStep ([], first)

def withFlags (isOn : Bool) (flags : List Char) (mode : PatternMode) : PatternMode :=
  let change (flag : Char) (current : Bool) : Bool := if flag ∈ flags then isOn else current
  ⟨change 'i' mode.ignoresCase, change 's' mode.pointMatchesAll, change 'm' mode.seesLines,
    change 'x' mode.isVerbose, change 'a' mode.isAscii && !(isOn && flags.contains 'u')⟩

/-- The groups that a pattern may have. -/
inductive GroupKind where
  | plain
  | atomic
  | numbered (group : Nat)
  | conditional (group : Nat)
  | look (isAhead isNegated : Bool)
  deriving DecidableEq, Repr

/-- What an opening parenthesis begins. -/
inductive GroupHead where
  | group (kind : GroupKind) (mode : PatternMode)
  | item (item : Item)
  | flags (added : List Char)
  | comment

/-- Begins a group that others can refer to, whose name was read. -/
def openGroup (name? : Option Text) : Reader GroupKind := do
  let found ← findings
  let group := found.groups.length
  learn fun found => { found with groups := found.groups ++ [none] }
  if let some name := name? then
    match found.names.lookup name with
    | some former => failBack (.redefinedName name group former) (name.length + 1)
    | none => learn fun found => { found with names := (name, group) :: found.names }
  return .numbered group

def readName (terminator : Char) : Reader Text := do
  let name ← readUntil terminator "group name"
  if name.isIdentifier then return name else failBack (.badName name) (name.length + 1)

/-- Reads on in a comment that began at a position. -/
def commentStep (start : Nat) (_ : Unit) : Reader (Step Unit Unit) := do
  match ← advance with
  | none => failAt .unterminatedComment start
  | some lexeme => return if lexeme.isPlain ')' then .done () else .again ()

def skipComment (start : Nat) : Reader Unit :=
  readOn (commentStep start) ()

/-- The number of a group with a name that was read up to the code point after it. -/
def groupNamed (name : Text) : Reader Nat := do
  match (← findings).names.lookup name with
  | some group => return group
  | none => failBack (.unknownName name) (name.length + 1)

/-- Reads what follows `?P` in a group head. -/
def readNamedHead (mode : PatternMode) : Reader GroupHead := do
  if ← accept '<' then
    let name ← readName '>'
    return .group (← openGroup (some name)) mode
  else if ← accept '=' then
    let name ← readName ')'
    return .item (← referenceItem mode (← groupNamed name) (name.length + 1))
  else
    match ← advance with
    | none => failBack .unexpectedEnd 0
    | some lexeme => failBack (.unknownExtension ('P' :: lexeme.text)) (lexeme.text.length + 2)

/-- Begins to look ahead or back. -/
def openLook (isAhead isNegated : Bool) : Reader GroupKind := do
  if !isAhead then
    learn fun found =>
      { found with behindGroups? := some (found.behindGroups?.getD found.groups.length) }
  return .look isAhead isNegated

/-- Reads what follows `?<` in a group head. -/
def readBehindHead : Reader GroupKind := do
  match ← advance with
  | none => failBack .unexpectedEnd 0
  | some lexeme =>
      if lexeme.isPlain '=' then openLook false false
      else if lexeme.isPlain '!' then openLook false true
      else failBack (.unknownExtension ('<' :: lexeme.text)) (lexeme.text.length + 2)

/-- Numbers of groups from this one on are too large. -/
def groupLimit : Nat := 1073741823

/-- Numerals with more digits than this are not read. -/
def digitLimit : Nat := 4300

/-- The number of a group that a condition gives as a numeral. -/
def groupNumbered (numeral : Text) : Reader Nat := do
  let back := numeral.length + 1
  let digits := (numeral.filter CodePoint.isDecimalDigit).length
  match Number.readInteger? 10 numeral with
  | some (.ofNat group) =>
      if digits > digitLimit then failBack (.badName numeral) back
      else if group = 0 then failBack .groupZero back
      else if group ≥ groupLimit then failBack (.unknownGroup group) back
      else
        let start := (← position) - back
        learn fun found =>
          if (found.conditions.lookup group).isSome then found
          else { found with conditions := found.conditions ++ [(group, start)] }
        return group
  | _ => failBack (.badName numeral) back

/-- Reads the condition of a group that depends on what another group took. -/
def readCondition : Reader GroupKind := do
  let name ← readUntil ')' "group name"
  let group ← if name.isIdentifier then groupNamed name else groupNumbered name
  checkBehind group
  return .conditional group

/-- Reads what follows the opening parenthesis of a group that began at a position. -/
def readHead (mode : PatternMode) (start : Nat) : Reader GroupHead := do
  if !(← accept '?') then
    return .group (← openGroup none) mode
  match ← advance with
  | none => failBack .unexpectedEnd 0
  | some lexeme =>
      if lexeme.isPlain 'P' then readNamedHead mode
      else if lexeme.isPlain ':' then return .group .plain mode
      else if lexeme.isPlain '>' then return .group .atomic mode
      else if lexeme.isPlain '#' then
        skipComment start
        return .comment
      else if lexeme.isPlain '=' then return .group (← openLook true false) mode
      else if lexeme.isPlain '!' then return .group (← openLook true true) mode
      else if lexeme.isPlain '<' then return .group (← readBehindHead) mode
      else if lexeme.isPlain '(' then return .group (← readCondition) mode
      else
        let change? ← if lexeme.isPlain '-' then some <$> readMinus []
          else (flagOf? lexeme).mapM readAdded
        match change? with
        | none => failBack (.unknownExtension lexeme.text) (lexeme.text.length + 1)
        | some (.whole added) => return .flags added
        | some (.within added removed) =>
            return .group .plain (withFlags false removed (withFlags true added mode))

end ComponentInliner.Pattern
