import ComponentInliner.Config.Section
import ComponentInliner.FileTree
import ComponentInliner.Log

/-!
# Where log records go

Records from a level on are shown on the console, and are added to a file as well if one is named.
A level is a word in any casing; a word that names no level counts as `INFO`. The level `NOTSET`
leaves the choice to the world around the program, which shows warnings and what is worse.
-/

namespace ComponentInliner

/-- Why records cannot go where a configuration says. -/
inductive SinkFault where
  | levelNotText
  | formatName
  | formatTableName
  | fileNotText
  | file (fault : FileFault)
  deriving DecidableEq, Repr

/-- Where records go. -/
structure LogSink where
  rank : Nat
  file? : Option Path

namespace LogSink

def levelWords : List (Text × Nat) :=
  [("DEBUG", 10), ("INFO", 20), ("WARNING", 30), ("WARN", 30), ("ERROR", 40), ("CRITICAL", 50),
    ("FATAL", 50), ("NOTSET", 0)]

/-- The word for the level that is taken without a choice. -/
def usualWord : Text := "INFO"

/-- The words that mean something else than a level. -/
def otherWords : List (Text × SinkFault) :=
  [("BASIC_FORMAT", .formatName), ("_STYLES", .formatTableName)]

/-- The upper-case form of a letter that words for levels may have. -/
def upperLetter (point : CodePoint) : CodePoint :=
  if point.isBetween 'a' 'z' then CodePoint.ofChar (Char.ofNat (point.val - 32))
  else if point.val = 0x131 then 'I'
  else if point.val = 0x17F then 'S'
  else point

def rankOf (word : Text) : Except SinkFault Nat :=
  let upper := word.map upperLetter
  match otherWords.lookup upper with
  | some fault => .error fault
  | none => .ok ((levelWords.lookup upper).getD LogLevel.info.rank)

/-- The word for the level that a setting asks for; without one the environment decides. -/
def levelWord (environment : Environment) : Setting → Except SinkFault Text
  | .null => .ok (environment.logLevel?.getD usualWord)
  | .text content => .ok content
  | _ => .error .levelNotText

/-- Makes sure that a file for records is there. -/
def openFile (tree : FileTree) (path : Path) : Except FileFault FileTree :=
  match tree.readBytes path with
  | .ok _ => .ok tree
  | .error .missing => tree.writeBytes path []
  | .error fault => .error fault

/-- The sink that settings for the level and the file ask for; the file is made if it is missing. -/
def ofSettings (tree : FileTree) (environment : Environment) (level file : Setting) :
    Except SinkFault (LogSink × FileTree) := do
  let rank ← rankOf (← levelWord environment level)
  if file.isOn then
    match file with
    | .text content =>
        let path := (Path.ofText content).resolve tree.workingDirectory
        return (⟨rank, some path⟩, ← (openFile tree path).mapError .file)
    | _ => throw .fileNotText
  else
    return (⟨rank, none⟩, tree)

def threshold (sink : LogSink) : Nat :=
  if sink.rank = 0 then LogLevel.warning.rank else sink.rank

def shows (sink : LogSink) (record : LogRecord) : Bool :=
  sink.threshold ≤ record.level.rank

def line (record : LogRecord) : Text :=
  record.logger ++ " - " ++ record.level.text ++ " - " ++ record.message ++ "\n"

/--
Adds records to the file of a sink. Records that are not shown are left out, and so are those with
text that has no encoding.
-/
def append (sink : LogSink) (records : List LogRecord) (tree : FileTree) : FileTree :=
  match sink.file? with
  | none => tree
  | some path =>
      let lines := (records.filter sink.shows).filterMap fun record => Text.encode? (line record)
      match tree.readBytes path with
      | .error _ => tree
      | .ok present => (tree.writeBytes path (present ++ lines.flatten)).toOption.getD tree

end LogSink

end ComponentInliner
