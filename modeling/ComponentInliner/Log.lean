import ComponentInliner.Text.Basic

/-!
# Log records

What the program tells while it works. A record has a level, the name of the logger it belongs to
and a message. `BuildEvent` lists the events of a build with the record that each one makes.
-/

namespace ComponentInliner

/-- How urgent a record is. -/
inductive LogLevel where
  | debug
  | info
  | warning
  | error
  | critical
  deriving DecidableEq, Repr

namespace LogLevel

/-- All levels, the least urgent first. -/
def all : List LogLevel := [.debug, .info, .warning, .error, .critical]

def text : LogLevel → String
  | .debug => "DEBUG"
  | .info => "INFO"
  | .warning => "WARNING"
  | .error => "ERROR"
  | .critical => "CRITICAL"

def rank : LogLevel → Nat
  | .debug => 10
  | .info => 20
  | .warning => 30
  | .error => 40
  | .critical => 50

end LogLevel

structure LogRecord where
  level : LogLevel
  logger : Text
  message : Text
  deriving DecidableEq

namespace Log

/-- The logger that all others belong to. -/
def rootLogger : String := "boredom_compiler"

/-- The logger for a name: the name itself below the root logger, else the name put below it. -/
def loggerName (name : Text) : Text :=
  if name = rootLogger ∨ name.startsWith (rootLogger ++ "." : String) then name
  else rootLogger ++ "." ++ name

end Log

inductive BuildEvent where
  | started (root : Text)
  | skipped (moduleId : Text)
  | registered (moduleId name : Text)
  | rejected (moduleId : Text) (issueCount : Nat)
  | warned (message : Text)
  | sorted (names : List Text)
  | runtimeInlined (path : Text)
  | runtimeMissing (searched : Nat)
  | chunksPruned (names : List Text)

namespace BuildEvent

/-- The record that an event makes; nothing is said when no chunk was pruned. -/
def record? (logger : Text) : BuildEvent → Option LogRecord
  | .started root =>
      let place : Text := if root.isEmpty then "." else root
      some ⟨.debug, logger, "Starting component build in " ++ place⟩
  | .skipped moduleId => some ⟨.debug, logger, "Skipping " ++ moduleId ++ ": filtered out"⟩
  | .registered moduleId name =>
      some ⟨.debug, logger, "Registered component '" ++ name ++ "' from " ++ moduleId⟩
  | .rejected moduleId issueCount =>
      some ⟨.debug, logger,
        "No component record for " ++ moduleId ++ " (" ++ Text.ofNat issueCount ++ " issue(s))"⟩
  | .warned message => some ⟨.warning, logger, message⟩
  | .sorted names =>
      some ⟨.info, logger,
        "Inlining " ++ Text.ofNat names.length ++ " component(s): " ++ Text.joinWith ", " names⟩
  | .runtimeInlined path => some ⟨.debug, logger, "Inlined runtime from " ++ path⟩
  | .runtimeMissing searched =>
      some ⟨.warning, logger,
        "Could not find boreDOM runtime, using external script (searched " ++
          Text.ofNat searched ++ " path(s))"⟩
  | .chunksPruned names =>
      if names.isEmpty then
        none
      else
        some ⟨.debug, logger,
          "Removed inlined chunks: " ++
            Text.joinWith ", " (names.mergeSort Text.lexicographicLe)⟩

end BuildEvent

end ComponentInliner
