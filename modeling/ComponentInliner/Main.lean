import ComponentInliner.Command.Run

/-!
# The command

Reads the part of the file system that a run looks at, performs the run, writes back what it
changed, and shows its records.
-/

namespace ComponentInliner.Main

def systemPath (parts : List Text) : String :=
  (Path.text ⟨.root, parts⟩).toStringLossy

/-- Adds what stands at a place to a tree, with all that is below it down to a depth. -/
def readPlace (depth : Nat) (parts : List Text) (tree : FileTree) : IO FileTree := do
  let place := (← IO.currentDir) / systemPath parts
  if ← place.isDir then
    let tree := tree.addDirectory parts
    match depth with
    | 0 => return tree
    | depth + 1 =>
        let entries ← place.readDir
        entries.foldlM (fun tree entry =>
          readPlace depth (parts ++ [Text.ofString entry.fileName]) tree) tree
  else if ← place.pathExists then
    let bytes ← IO.FS.readBinFile place
    return tree.addFile parts bytes.toList
  else
    return tree

def depthLimit : Nat := 256

def readPaths (paths : List Path) (tree : FileTree) : IO FileTree :=
  paths.foldlM (fun tree path =>
    readPlace depthLimit (path.resolve tree.workingDirectory).parts tree) tree

/-- The tree without files, with the working directory of the program. -/
def emptyTree : IO FileTree := do
  let here ← IO.currentDir
  let parts := Path.partsOf (Text.ofString here.toString)
  return (⟨.empty, parts⟩ : FileTree).addDirectory parts

def readEnvironment : IO Environment := do
  let read (name : String) : IO (Option Text) := do
    return (← IO.getEnv name).map Text.ofString
  return ⟨← read "BOREDOM_NO_INLINE_RUNTIME", ← read "BOREDOM_STRICT_DEPENDENCIES",
    ← read "BOREDOM_LOG_LEVEL"⟩

/-- The paths that the command line names, or that a run looks at without being told. -/
def namedPaths (tree : FileTree) (arguments : CommandArguments) : List Path :=
  let named := arguments.configuration?.toList ++ arguments.output?.toList
  let entry := Run.entryPath tree arguments
  entry.parent :: (arguments.componentPaths ++ named).map Path.ofText

def configuredPaths (tree : FileTree) (environment : Environment)
    (arguments : CommandArguments) : List Path :=
  let root := (Run.entryPath tree arguments).parent.text
  let given := arguments.configuration?.getD []
  match Configuration.load tree environment given root with
  | .error _ => []
  | .ok (configuration, _) =>
      let filename := Compiler.asPartOfText configuration.runtime.filename
      let searchPaths := configuration.runtime.searchPaths.filterMap Setting.text?
      let logFile := (configuration.logging.file.text?.map Path.ofText).toList
      RuntimeScript.candidates root filename searchPaths ++ logFile

def writeChanges (before after : FileTree) : IO Unit :=
  after.entries.entries.forM fun (parts, entry) => do
    if before.entries.get? parts ≠ some entry then
      match entry with
      | .directory => IO.FS.createDirAll (systemPath parts)
      | .file bytes => IO.FS.writeBinFile (systemPath parts) ⟨bytes.toArray⟩

/-- Shows the records of a run and gives its exit status. -/
def report (outcome : RunOutcome) : IO UInt32 := do
  for record in outcome.shown do
    IO.eprint (LogSink.line record).toStringLossy
  match outcome.ending with
  | .ok status => return status.toUInt32
  | .error _ =>
      IO.eprintln "boredom-build: the run broke off"
      return 1

/-- How the command is called. -/
def usage : String :=
  "usage: boredom-build [-h] [-o OUTPUT] [--config CONFIG] [--no-inline-runtime] " ++
    "[--no-validate] [--no-optimize-styles] [--strict-dependencies] [--fail-on-warnings] " ++
    "[--log-level LEVEL] index_html [component_paths ...]"

/-- Performs the run that a command line asks for. -/
def perform (arguments : CommandArguments) : IO UInt32 := do
  let environment ← readEnvironment
  let tree ← emptyTree
  let named ← readPaths (namedPaths tree arguments) tree
  let before ← readPaths (configuredPaths named environment arguments) named
  let outcome := Run.perform before environment arguments
  writeChanges before outcome.tree
  report outcome

end ComponentInliner.Main

/-- Compiles an entry document and its components into one document. -/
def main (texts : List String) : IO UInt32 :=
  match ComponentInliner.CommandArguments.parse (texts.map ComponentInliner.Text.ofString) with
  | .ok arguments => ComponentInliner.Main.perform arguments
  | .error .help => do
      IO.println ComponentInliner.Main.usage
      return 0
  | .error .usage => do
      IO.eprintln ComponentInliner.Main.usage
      return 2
