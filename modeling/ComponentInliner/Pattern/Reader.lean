import ComponentInliner.Pattern.Basic
import ComponentInliner.Pattern.Fault

/-!
# The reader of patterns

A written pattern is read lexeme by lexeme: a lexeme is a code point, or a backslash with the code
point after it. The reader sees one lexeme ahead. A backslash at the very end is noticed as soon as
the lexeme before it is read.

Whatever is read in several steps is read by `readOn`. Every step that goes on takes a lexeme, so
what is left to read bounds the number of steps.
-/

namespace ComponentInliner.Pattern

/-- What a pattern is written with: a code point, or an escaped one. -/
inductive Lexeme where
  | plain (point : CodePoint)
  | escaped (point : CodePoint)
  deriving DecidableEq, Repr

namespace Lexeme

def text : Lexeme → Text
  | .plain point => [point]
  | .escaped point => ['\\', point]

/-- Whether a lexeme is a given character that is not escaped. -/
def isPlain (character : Char) (lexeme : Lexeme) : Bool :=
  lexeme = .plain character

end Lexeme

/-- What is known about a pattern from what was read of it. -/
structure Findings where
  /-- The flags of the whole pattern. -/
  flags : List Char
  /-- The widths of the groups that are closed, from the group 0, which never is. -/
  groups : List (Option Widths)
  names : List (Text × Nat)
  /-- The groups that conditions are about, with the first place where one is. -/
  conditions : List (Nat × Nat)
  /-- In a body that is looked back over, the number of groups before it. -/
  behindGroups? : Option Nat

namespace Findings

/-- What is known when nothing was read yet. -/
def none : Findings :=
  ⟨[], [.none], [], [], .none⟩

/-- The widths of a group that is closed. -/
def closed? (findings : Findings) (group : Nat) : Option Widths :=
  (findings.groups[group]?).join

end Findings

/-- How far a pattern has been read. -/
structure Reading where
  size : Nat
  next? : Option Lexeme
  rest : Text
  findings : Findings

namespace Reading

/-- The number of code points that are left to read. -/
def left (reading : Reading) : Nat :=
  (reading.next?.map Lexeme.text |>.getD []).length + reading.rest.length

def position (reading : Reading) : Nat :=
  reading.size - reading.left

end Reading

/-- What reads a part of a pattern, or finds what is wrong with it. Nothing is read twice. -/
structure Reader (Result : Type) where
  run : Reading → Except PatternFault (Result × Reading)
  keeps : ∀ {before result after}, run before = .ok (result, after) → after.left ≤ before.left

namespace Reader

variable {Result Next : Type}

/-- Reads nothing. -/
def give (result : Result) : Reader Result where
  run reading := .ok (result, reading)
  keeps returned := by
    cases returned
    exact Nat.le_refl _

/-- Reads one part after the other. -/
def andThen (first : Reader Result) (next : Result → Reader Next) : Reader Next where
  run before :=
    match first.run before with
    | .error fault => .error fault
    | .ok (result, middle) => (next result).run middle
  keeps returned := by
    split at returned
    · cases returned
    · next onFirst => exact Nat.le_trans ((next _).keeps returned) (first.keeps onFirst)

instance : Monad Reader where
  pure := give
  bind := andThen

end Reader

def fail {Result : Type} (fault : PatternFault) : Reader Result where
  run _ := .error fault
  keeps returned := nomatch returned

def reading : Reader Reading where
  run reading := .ok (reading, reading)
  keeps returned := by
    cases returned
    exact Nat.le_refl _

def findings : Reader Findings := do
  return (← reading).findings

/-- Learns something about the pattern. -/
def learn (change : Findings → Findings) : Reader Unit where
  run reading := .ok ((), { reading with findings := change reading.findings })
  keeps returned := by
    cases returned
    exact Nat.le_refl _

/-- Reads a part if it is there; otherwise nothing is read. -/
def attempt {Result : Type} (reader : Reader (Option Result)) : Reader (Option Result) where
  run before :=
    match reader.run before with
    | .error fault => .error fault
    | .ok (none, _) => .ok (none, before)
    | .ok (some result, after) => .ok (some result, after)
  keeps returned := by
    split at returned
    · cases returned
    · cases returned
      exact Nat.le_refl _
    · next found =>
        cases returned
        exact reader.keeps found

/-- The faults at a position some code points before the next lexeme. -/
def failBack {Result : Type} (problem : PatternProblem) (back : Nat) : Reader Result := do
  fail (.malformed problem ((← reading).position - back))

/-- The faults at a given position. -/
def failAt {Result : Type} (problem : PatternProblem) (position : Nat) : Reader Result :=
  fail (.malformed problem position)

def nextLexeme (size : Nat) : Text → Except PatternFault (Option Lexeme × Text)
  | [] => .ok (none, [])
  | point :: rest =>
      if point = '\\' then
        match rest with
        | [] => .error (.malformed .escapeAtEnd (size - 1))
        | escaped :: rest => .ok (some (.escaped escaped), rest)
      else
        .ok (some (.plain point), rest)

/-- A lexeme is as long as what is taken for it. -/
theorem length_nextLexeme {size : Nat} {text rest : Text} {next? : Option Lexeme}
    (found : nextLexeme size text = .ok (next?, rest)) :
    (next?.map Lexeme.text |>.getD []).length + rest.length = text.length := by
  unfold nextLexeme at found
  split at found
  · cases found
    rfl
  · split at found
    · split at found <;> cases found
      simp +arith [Lexeme.text]
    · cases found
      simp +arith [Lexeme.text]

/-- The next lexeme; it is not read yet. -/
def peek : Reader (Option Lexeme) := do
  return (← reading).next?

def position : Reader Nat := do
  return (← reading).position

def advance : Reader (Option Lexeme) where
  run reading := do
    let (next?, rest) ← nextLexeme reading.size reading.rest
    return (reading.next?, { reading with next? := next?, rest := rest })
  keeps {before _ _} returned := by
    cases found : nextLexeme before.size before.rest with
    | error fault =>
        rw [found] at returned
        cases returned
    | ok lexeme =>
        rw [found] at returned
        cases returned
        exact Nat.le_trans (Nat.le_of_eq (length_nextLexeme found)) (Nat.le_add_left ..)

def isNext (character : Char) : Reader Bool := do
  return (← peek).any (Lexeme.isPlain character)

/-- Reads the next lexeme if it is a given character. -/
def accept (character : Char) : Reader Bool := do
  if ← isNext character then
    let _ ← advance
    return true
  return false

/-- How a step of something that is read in several steps ends. -/
inductive Step (State Result : Type) where
  | again (state : State)
  | done (result : Result)

/-- Makes at most so many steps, up to one that comes to a result. -/
def readSteps {State Result : Type} (step : State → Reader (Step State Result)) :
    (count : Nat) → State → Reader Result
  | 0, _ => failBack .unexpectedEnd 0
  | count + 1, state => do
      match ← step state with
      | .again next => readSteps step count next
      | .done result => return result

/-- Reads in steps, each of which but the last takes a lexeme. -/
def readOn {State Result : Type} (step : State → Reader (Step State Result)) (state : State) :
    Reader Result := do
  readSteps step ((← reading).left + 1) state

/-- Reads the next lexeme if it is a code point of a class. -/
def acceptWhere? (accepts : CodePoint → Bool) : Reader (Option CodePoint) := do
  match ← peek with
  | some (.plain point) =>
      if accepts point then
        let _ ← advance
        return some point
      else
        return none
  | _ => return none

/-- Reads at most `count` lexemes that are code points of a class. -/
def readWhile (accepts : CodePoint → Bool) : (count : Nat) → Reader Text
  | 0 => return []
  | count + 1 => do
      match ← acceptWhere? accepts with
      | some point => return point :: (← readWhile accepts count)
      | none => return []

def classStep (accepts : CodePoint → Bool) (read : Text) : Reader (Step Text Text) := do
  match ← acceptWhere? accepts with
  | some point => return .again (read ++ [point])
  | none => return .done read

/-- Reads all lexemes up to one that is no code point of a class. -/
def readAllWhile (accepts : CodePoint → Bool) : Reader Text :=
  readOn (classStep accepts) []

def nameStep (terminator : Char) (what : String) (read : Text) : Reader (Step Text Text) := do
  match ← advance with
  | none =>
      if read.isEmpty then failBack (.missingName what) 0
      else failBack (.unterminatedName terminator) read.length
  | some lexeme =>
      if !lexeme.isPlain terminator then return .again (read ++ lexeme.text)
      else if read.isEmpty then failBack (.missingName what) 1
      else return .done read

/-- Reads up to a terminator and drops it. -/
def readUntil (terminator : Char) (what : String) : Reader Text :=
  readOn (nameStep terminator what) []

end ComponentInliner.Pattern
