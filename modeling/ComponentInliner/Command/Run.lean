import ComponentInliner.Build.Compiler
import ComponentInliner.Command.Arguments
import ComponentInliner.Command.ModuleFiles
import ComponentInliner.Config.Configuration
import ComponentInliner.Log.Sink

/-!
# Runs of the command

A run reads the configuration of the entry document's directory, says where log records go, looks
at the modules of all component paths, edits the entry document and writes it to the output
file. It works on a file tree and gives the tree that it leaves behind, together with the records
that it shows. What it did before it failed stays done.
-/

namespace ComponentInliner

/-- Why a run breaks off. -/
inductive RunFault where
  | configuration (fault : ConfigurationFault)
  | sink (fault : SinkFault)
  | filterWithoutEntries
  | filterPattern (fault : PatternFault)
  | build (fault : BuildFault)
  /-- The entry document has the name of a script and was dropped as one. -/
  | entryDropped
  | unencodable

/-- What a run has come to. -/
structure RunState where
  tree : FileTree
  build : BuildState

/-- A step of a run. The files, the session and the log stay if it breaks off. -/
abbrev RunM := ExceptT RunFault (StateM RunState)

/-- What a run leaves behind. -/
structure RunOutcome where
  ending : Except RunFault Nat
  tree : FileTree
  shown : List LogRecord

namespace Run

def logger : String := "boredom_compiler.cli"

def say (level : LogLevel) (message : Text) : RunM Unit :=
  modify fun state =>
    { state with
      build := { state.build with log := state.build.log ++ [⟨level, logger, message⟩] } }

def currentTree : RunM FileTree := do
  return (← get).tree

def currentSession : RunM Session := do
  return (← get).build.session

def ofBuild {α : Type} (step : BuildM α) : RunM α := do
  let (outcome, after) := step.run.run (← get).build
  modify fun state => { state with build := after }
  match outcome with
  | .ok result => return result
  | .error fault => throw (.build fault)

def start (root : Text) : RunM Unit :=
  modify fun state =>
    let begun := Compiler.start root
    { state with build := ⟨begun.session, state.build.log ++ begun.log⟩ }

/-- What is said about a file that cannot be read or written. -/
def faultMessage (fault : FileFault) : Text :=
  match fault with
  | .missing => "No such file or directory"
  | .isDirectory => "Is a directory"
  | .notDirectory => "Not a directory"
  | .notText => "Not a text in UTF-8"

def cannotRead (path : Path) (fault : FileFault) : Text :=
  "Cannot read " ++ path.text ++ ": " ++ faultMessage fault

def cannotWrite (path : Path) (fault : FileFault) : Text :=
  "Cannot write " ++ path.text ++ ": " ++ faultMessage fault

/-- The options of a build after the command line has had its say. -/
def withArguments (arguments : CommandArguments) (options : BuildOptions) : BuildOptions :=
  { options with
    inlinesRuntime := options.inlinesRuntime && !arguments.omitsRuntime
    reportsIssues := options.reportsIssues && !arguments.hidesIssues
    compactsStyles := options.compactsStyles && !arguments.keepsStyles
    checksDependencies := options.checksDependencies || arguments.checksDependencies }

def visitFile (compiler : Compiler) (path : Path) : RunM Unit := do
  let moduleId := ModuleId.normalize path.text
  if compiler.filter.accepts moduleId then
    match (← currentTree).readText path with
    | .ok source =>
        let _ ← ofBuild (compiler.transform source moduleId)
    | .error fault =>
        let message := cannotRead path fault
        ofBuild (Compiler.changeSession fun session => session.warn message)
        say .warning message

def visitPath (compiler : Compiler) (path : Path) : RunM Unit := do
  match PathContent.of (← currentTree) path with
  | .files paths => paths.forM (visitFile compiler)
  | .missing path => say .warning (PathContent.missingMessage path)

def makeDirectory (path : Path) : RunM (Except FileFault Unit) := do
  match (← currentTree).makeDirectory path with
  | .ok tree =>
      modify fun state => { state with tree := tree }
      return .ok ()
  | .error fault => return .error fault

def writeBytes (path : Path) (bytes : Text.Bytes) : RunM (Except FileFault Unit) := do
  match (← currentTree).writeBytes path bytes with
  | .ok tree =>
      modify fun state => { state with tree := tree }
      return .ok ()
  | .error fault => return .error fault

/-- Writes the document. The file is there, and empty, before the document turns out to be bad. -/
def writeDocument (path : Path) (document? : Option Text) : RunM (Except FileFault Unit) := do
  match ← makeDirectory path.parent with
  | .error fault => return .error fault
  | .ok () =>
      match document? with
      | none => throw .entryDropped
      | some document =>
          match ← writeBytes path [] with
          | .error fault => return .error fault
          | .ok () =>
              match Text.encode? document with
              | some bytes => writeBytes path bytes
              | none => throw .unencodable

def exitStatus (arguments : CommandArguments) (session : Session) : Nat :=
  if arguments.failsOnWarnings && !session.warnings.isEmpty then 1 else 0

/-- Ends a run whose document is written to a file. -/
def reportWritten (arguments : CommandArguments) (path : Path) : RunM Nat := do
  let session ← currentSession
  say .info ("Wrote " ++ path.text ++ " (" ++ Text.ofNat session.components.size ++
    " component(s), " ++ Text.ofNat session.warnings.length ++ " warning(s))")
  return exitStatus arguments session

/-- The file that is written: the one that is named, or one below the project root. -/
def outputPath (arguments : CommandArguments) (root : Path) (name : Text) : Path :=
  match arguments.output? with
  | some output => if output.isEmpty then root.below ["dist", name] else Path.ofText output
  | none => root.below ["dist", name]

def compile (compiler : Compiler) (arguments : CommandArguments) (entry : Path) (document : Text) :
    RunM Nat := do
  let root := entry.parent
  let workingDirectory := (← currentTree).workingDirectory
  start root.text
  let given := arguments.componentPaths.map fun path =>
    (Path.ofText path).resolve workingDirectory
  (if given.isEmpty then [root] else given).forM (visitPath compiler)
  let tree ← currentTree
  let bundle ← ofBuild (compiler.finalize tree ⟨[(entry.name, ⟨entry.name, document⟩)]⟩)
  let output := outputPath arguments root entry.name
  match ← writeDocument output ((bundle.get? entry.name).map Asset.source) with
  | .ok () => reportWritten arguments output
  | .error fault =>
      say .error (cannotWrite output fault)
      return 1

def compilerOf (arguments : CommandArguments) (configuration : Configuration) :
    Except FilterFault Compiler := do
  let options ← configuration.options
  (Compiler.ofOptions (withArguments arguments options)).mapError .failure

def compileEntry (arguments : CommandArguments) (configuration : Configuration) (entry : Path) :
    RunM Nat := do
  match compilerOf arguments configuration with
  | .error (.failure failure) =>
      say .error ("Invalid configuration: " ++ failure.text)
      return 1
  | .error .notEntries => throw .filterWithoutEntries
  | .error (.pattern fault) => throw (.filterPattern fault)
  | .ok compiler =>
      match (← currentTree).readText entry with
      | .ok document => compile compiler arguments entry document
      | .error fault =>
          say .error (cannotRead entry fault)
          return 1

def sinkOf (tree : FileTree) (environment : Environment) (arguments : CommandArguments)
    (logging : LoggingSection) : Except SinkFault (LogSink × FileTree) :=
  let level := (arguments.logLevel?.map Setting.text).getD logging.level
  LogSink.ofSettings tree environment level
    (if logging.writesFile.isOn then logging.file else .null)

end Run

def Run.entryPath (tree : FileTree) (arguments : CommandArguments) : Path :=
  (Path.ofText arguments.entry).resolve tree.workingDirectory

/-- A run of the command. Records are shown once the configuration is loaded. -/
def Run.perform (tree : FileTree) (environment : Environment) (arguments : CommandArguments) :
    RunOutcome :=
  let entry := Run.entryPath tree arguments
  let loaded := Configuration.load tree environment (arguments.configuration?.getD [])
    entry.parent.text
  match loaded with
  | .error fault => ⟨.error (.configuration fault), tree, []⟩
  | .ok (configuration, _) =>
      match Run.sinkOf tree environment arguments configuration.logging with
      | .error fault => ⟨.error (.sink fault), tree, []⟩
      | .ok (sink, tree) =>
          let initial : RunState := ⟨tree, ⟨Session.begin [], []⟩⟩
          let (ending, final) := (Run.compileEntry arguments configuration entry).run.run initial
          let log := final.build.log
          ⟨ending, sink.append log final.tree, log.filter sink.shows⟩

end ComponentInliner
