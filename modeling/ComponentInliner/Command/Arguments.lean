import ComponentInliner.Text.DecimalDigit
import ComponentInliner.Text.Basic

/-!
# Command line arguments

The words of a command line are options with their values, and operands. The first operand is the
entry document and the others that follow it directly are component paths. Long options may be
shortened as long as they stay unambiguous. A value stands in the next word, after an equals sign,
or directly after the letter of a short option. After two dashes every word is an operand.
-/

namespace ComponentInliner

/-- What a command line asks for. -/
structure CommandArguments where
  entry : Text
  componentPaths : List Text
  output? : Option Text
  configuration? : Option Text
  omitsRuntime : Bool
  hidesIssues : Bool
  keepsStyles : Bool
  checksDependencies : Bool
  failsOnWarnings : Bool
  logLevel? : Option Text
  deriving DecidableEq

namespace CommandArguments

inductive CommandOption where
  | help
  | output
  | configuration
  | omitRuntime
  | hideIssues
  | keepStyles
  | checkDependencies
  | failOnWarnings
  | logLevel
  deriving DecidableEq, Repr

namespace CommandOption

def longNames : List (Text × CommandOption) :=
  [("--help", help), ("--output", output), ("--config", configuration),
    ("--no-inline-runtime", omitRuntime), ("--no-validate", hideIssues),
    ("--no-optimize-styles", keepStyles), ("--strict-dependencies", checkDependencies),
    ("--fail-on-warnings", failOnWarnings), ("--log-level", logLevel)]

def letters : List (CodePoint × CommandOption) :=
  [('h', help), ('o', output)]

def takesValue : CommandOption → Bool
  | output | configuration | logLevel => true
  | _ => false

/-- The levels that the option for the log accepts. -/
def levels : List Text := ["DEBUG", "INFO", "WARNING", "ERROR", "CRITICAL"]

def accepts (option : CommandOption) (content : Text) : Bool :=
  option ≠ logLevel || content ∈ levels

end CommandOption

/-- How a command line ends without a run. -/
inductive Refusal where
  | help
  | usage
  deriving DecidableEq, Repr

/-! ## What the words are -/

/-- What a word of a command line is. -/
inductive Word where
  | operand (text : Text)
  | separator
  | flag (option : CommandOption)
  | setting (option : CommandOption) (content : Text)
  /-- An option whose value is in the next word, perhaps behind the letter that asks for help. -/
  | needsValue (option : CommandOption) (isBehindHelp : Bool)
  | unknown
  | malformed
  deriving DecidableEq

def dashes : Text := "--"

/-- A text before and after its first equals sign; nothing follows if there is none. -/
def splitEquals (text : Text) : Text × Option Text :=
  match Text.splitFirst? "=" text with
  | some (before, after) => (before, some after)
  | none => (text, none)

def ofOption (option : CommandOption) (attached? : Option Text) : Word :=
  match attached? with
  | some content => if option.takesValue then .setting option content else .malformed
  | none => if option.takesValue then .needsValue option false else .flag option

/-- The word for an option without value by its letter, with other letters after it. -/
def ofLetters (option : CommandOption) : (rest : Text) → Word
  | [] => ofOption option none
  | next :: rest =>
      if option.takesValue then .setting option (if next = '=' then rest else next :: rest)
      else if next = '-' || next = '=' then .malformed
      else
        match CommandOption.letters.lookup next with
        | none => .flag option
        | some other =>
            match ofLetters other rest with
            | .needsValue waiting _ => .needsValue waiting true
            | .malformed => .malformed
            | _ => .flag option

/-- Whether a text is a dash and a decimal number. -/
def isNegativeNumber (text : Text) : Bool :=
  match text with
  | [] => false
  | dash :: rest =>
      let digits := rest.dropWhile CodePoint.isDecimalDigit
      let endsHere (tail : Text) : Bool := tail.isEmpty || tail = "\n"
      dash = '-' && match digits with
        | [] => !rest.isEmpty
        | point :: fraction =>
            let tail := fraction.dropWhile CodePoint.isDecimalDigit
            (endsHere digits && digits.length < rest.length) ||
              (point = '.' && tail.length < fraction.length && endsHere tail)

/-- What a word that looks like an option, but is none, counts as. -/
def ofStranger (text : Text) : Word :=
  let space : CodePoint := ' '
  if isNegativeNumber text || space ∈ text then .operand text else .unknown

/-- What a word with two dashes in front is; ambiguous words are refused. -/
def ofLongName (text : Text) : Except Refusal Word :=
  let (name, attached?) := splitEquals text
  match CommandOption.longNames.lookup name with
  | some option => .ok (ofOption option attached?)
  | none =>
      match CommandOption.longNames.filter fun entry => Text.startsWith entry.1 name with
      | [] => .ok (ofStranger text)
      | [(_, option)] => .ok (ofOption option attached?)
      | _ => .error .usage

/-- What a word with a single dash in front is. -/
def ofShortName (text : Text) : Word :=
  match text.drop 1 with
  | [] => .operand text
  | letter :: rest =>
      match CommandOption.letters.lookup letter with
      | some option => ofLetters option rest
      | none => ofStranger text

/-- What a word before the two dashes is. -/
def ofText (text : Text) : Except Refusal Word :=
  if text.startsWith dashes then ofLongName text
  else if text.startsWith "-" then .ok (ofShortName text)
  else .ok (.operand text)

/-- What the words of a command line are. -/
def words : List Text → Except Refusal (List Word)
  | [] => .ok []
  | text :: texts => do
      if text = dashes then
        return .separator :: texts.map .operand
      else
        let word ← ofText text
        return word :: (← words texts)

/-! ## What the words ask for -/

/-- What is known after some of the words. -/
structure Progress where
  entry? : Option Text
  isOpen : Bool
  following : List Text
  hasExtras : Bool
  /-- The option that waits for its value, and whether help is given then. -/
  waiting? : Option (CommandOption × Bool)
  arguments : CommandArguments

namespace Progress

def start : Progress :=
  ⟨none, false, [], false, none, ⟨[], [], none, none, false, false, false, false, false, none⟩⟩

/-- Takes an operand: the entry document, a component path, or one too many. -/
def takeOperand (text : Text) (progress : Progress) : Progress :=
  if progress.entry?.isNone then { progress with entry? := some text, isOpen := true }
  else if progress.isOpen then { progress with following := progress.following ++ [text] }
  else { progress with hasExtras := true }

/-- Takes the two dashes. They count as a word among the component paths. -/
def takeSeparator (progress : Progress) : Progress :=
  if progress.entry?.isNone || (progress.isOpen && progress.following.isEmpty) then progress
  else progress.takeOperand dashes

def takeFlag (option : CommandOption) (progress : Progress) : Except Refusal Progress :=
  let arguments := progress.arguments
  let changed : Except Refusal CommandArguments := match option with
    | .help => .error .help
    | .omitRuntime => .ok { arguments with omitsRuntime := true }
    | .hideIssues => .ok { arguments with hidesIssues := true }
    | .keepStyles => .ok { arguments with keepsStyles := true }
    | .checkDependencies => .ok { arguments with checksDependencies := true }
    | .failOnWarnings => .ok { arguments with failsOnWarnings := true }
    | .output | .configuration | .logLevel => .ok arguments
  changed.map fun arguments => { progress with arguments := arguments, isOpen := false }

def takeSetting (option : CommandOption) (content : Text) (progress : Progress) :
    Except Refusal Progress :=
  let arguments := progress.arguments
  let changed := match option with
    | .output => { arguments with output? := some content }
    | .configuration => { arguments with configuration? := some content }
    | .logLevel => { arguments with logLevel? := some content }
    | _ => arguments
  if option.accepts content then
    .ok { progress with arguments := changed, isOpen := false, waiting? := none }
  else
    .error .usage

def take (progress : Progress) (word : Word) : Except Refusal Progress :=
  match progress.waiting?, word with
  | some (option, isBehindHelp), .operand text =>
      if isBehindHelp then .error .help else progress.takeSetting option text
  | some _, _ => .error .usage
  | none, .operand text => .ok (progress.takeOperand text)
  | none, .separator => .ok progress.takeSeparator
  | none, .flag option => progress.takeFlag option
  | none, .setting option content => progress.takeSetting option content
  | none, .needsValue option isBehindHelp =>
      .ok { progress with waiting? := some (option, isBehindHelp), isOpen := false }
  | none, .unknown => .ok { progress with hasExtras := true, isOpen := false }
  | none, .malformed => .error .usage

def finish (progress : Progress) : Except Refusal CommandArguments :=
  match progress.entry? with
  | some entry =>
      if progress.hasExtras || progress.waiting?.isSome then .error .usage
      else .ok { progress.arguments with
        entry := entry, componentPaths := progress.following.erase dashes }
  | none => .error .usage

end Progress

def parse (texts : List Text) : Except Refusal CommandArguments := do
  (← (← words texts).foldlM Progress.take Progress.start).finish

end CommandArguments

end ComponentInliner
