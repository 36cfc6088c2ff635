import ComponentInliner.Build.Options
import ComponentInliner.Build.RuntimeScript
import ComponentInliner.Build.Session
import ComponentInliner.Component.Analysis
import ComponentInliner.Component.Cycle
import ComponentInliner.Component.Order
import ComponentInliner.Component.Report
import ComponentInliner.Html.Document
import ComponentInliner.Html.Triplet
import ComponentInliner.ModuleId

/-!
# Builds

A build looks at modules one after the other and then edits the documents of a bundle: the
components go in front of the end of the body, dependencies first, the runtime takes the place of
its script tag, and the starting scripts are removed. The script files of the bundle are dropped,
since documents hold all that is left of them.

Every step may change the session and adds to the log.
-/

namespace ComponentInliner

/-- What a build has come to. -/
structure BuildState where
  session : Session
  log : List LogRecord

/-- Why a build ends early. -/
inductive BuildFault where
  | analysis (fault : Component.AnalysisFault)
  | notText

/-- A step of a build. The log and the session stay if it ends early. -/
abbrev BuildM := ExceptT BuildFault (StateM BuildState)

/-- A file of the bundle. -/
structure Asset where
  fileName : Text
  source : Text

/-- The files of a build by key. -/
abbrev Bundle := OrderedMap Text Asset

/-- A compiler: its options and the filter that they describe. -/
structure Compiler where
  options : BuildOptions
  filter : ModuleFilter

namespace Compiler

def ofOptions (options : BuildOptions) : Except Failure Compiler := do
  return ⟨options, ← ModuleFilter.ofChoices options.includeChoice options.excludeChoice⟩

def buildLogger : String := "boredom_compiler.compiler"

def documentLogger : String := "boredom_compiler.codegen.html_inliner"

def graphLogger : String := "boredom_compiler.graph.component_graph"

def tell (records : List LogRecord) : BuildM Unit :=
  modify fun state => { state with log := state.log ++ records }

/-- Adds the record of an event to the log. -/
def note (logger : String) (event : BuildEvent) : BuildM Unit :=
  tell (event.record? logger).toList

def changeSession (change : Session → Session) : BuildM Unit :=
  modify fun state => { state with session := change state.session }

def currentSession : BuildM Session := do
  return (← get).session

/-- Keeps a warning about a module or the dependencies, and logs it. -/
def report (message : Text) : BuildM Unit := do
  changeSession fun session => session.warn message
  note buildLogger (.warned message)

def sessionWarning (message : Text) : Text :=
  Component.warningMark ++ " " ++ message

def start (root : Text) : BuildState :=
  ⟨Session.begin root, (BuildEvent.record? buildLogger (.started root)).toList⟩

/-- Takes the outcome of an analysis into the session. -/
def recordComponent (moduleId : Text) (analysis : Analysis) : BuildM Unit := do
  let session ← currentSession
  if analysis.component?.isNone then
    tell (session.removalLog moduleId)
  changeSession fun session => session.record moduleId analysis.component?

/-- Finds out whether a source is a component. -/
def analyzed (source : Text) : BuildM Analysis :=
  match Component.analyze source with
  | .ok analysis => return analysis
  | .error fault => throw (.analysis fault)

/-- Looks at a module. There is no analysis if the filter does not accept the module. -/
def transform (compiler : Compiler) (source givenId : Text) : BuildM (Option Analysis) := do
  let moduleId := ModuleId.normalize givenId
  if !compiler.filter.accepts moduleId then
    note buildLogger (.skipped moduleId)
    return none
  let analysis ← analyzed source
  recordComponent moduleId analysis
  match analysis.component? with
  | some record => note buildLogger (.registered moduleId record.name)
  | none =>
      if analysis.looksLikeComponent then
        note buildLogger (.rejected moduleId analysis.issues.length)
  if compiler.options.reportsIssues && !analysis.issues.isEmpty && analysis.looksLikeComponent then
    report (Component.issueReport moduleId (analysis.issues.map fun issue => issue.message))
  return some analysis

/-- The components in the order in which they are written. -/
def orderedComponents : BuildM (List ComponentRecord) := do
  let sorted := (← currentSession).graph.sorted
  tell [⟨.debug, graphLogger, "Sorted " ++ Text.ofNat sorted.length ++ " component(s)"⟩]
  note documentLogger (.sorted (sorted.map fun entry => entry.2.name))
  return sorted.map Prod.snd

def requireText (setting : Setting) : BuildM Text :=
  match setting.text? with
  | some text => return text
  | none => throw .notText

def asPartOfText (setting : Setting) : Text :=
  setting.text?.getD setting.shown

/-- The code of the runtime, if it is found and not blank. -/
def runtimeCode (compiler : Compiler) (tree : FileTree) : BuildM (Option Text) := do
  let root := (← currentSession).root
  let filename := asPartOfText compiler.options.runtimeName
  let searchPaths ← compiler.options.searchPaths.mapM requireText
  match RuntimeScript.find tree root filename searchPaths with
  | .missing searched =>
      note documentLogger (.runtimeMissing searched)
      changeSession fun session => session.warn
        (sessionWarning ("Could not find " ++ filename ++ " runtime, using external script"))
      return none
  | .found path code =>
      if code.all CodePoint.isBlank then
        tell [⟨.warning, documentLogger,
          "Runtime file " ++ path.text ++ " is empty, using external script"⟩]
        changeSession fun session => session.warn
          (sessionWarning (filename ++ " runtime is empty, using external script"))
        return none
      else
        note documentLogger (.runtimeInlined path.text)
        return some code

/-- Puts the triplets of components into a document, or says why that cannot be done. -/
def insertComponents (compiler : Compiler) (records : List ComponentRecord) (document : Text) :
    BuildM Text := do
  let markup := Html.renderTriplets compiler.options.compactsStyles records
  match Html.insertBeforeBodyClose document markup with
  | some written => return written
  | none =>
      if !records.isEmpty then
        changeSession fun session => session.warn
          (sessionWarning ("No " ++ Html.bodyClose ++ " found, components were not inlined"))
        tell [⟨.warning, documentLogger,
          "No " ++ Html.bodyClose ++ " in document, skipped " ++ Text.ofNat records.length ++
            " component(s)"⟩]
      return document

/-- The code of the runtime, if it is to be inlined. -/
def inlinedRuntime (compiler : Compiler) (tree : FileTree) : BuildM (Option Text) :=
  if compiler.options.inlinesRuntime then runtimeCode compiler tree else return none

/-- Puts the code of the runtime into a document, if there is one. -/
def insertRuntime (compiler : Compiler) (code? : Option Text) (document : Text) : BuildM Text :=
  match code? with
  | some code => do
      let filename ← requireText compiler.options.runtimeName
      return Html.inlineRuntime code filename document
  | none => return document

def edit (compiler : Compiler) (tree : FileTree) (document : Text) : BuildM Text := do
  let records ← orderedComponents
  let withComponents ← insertComponents compiler records document
  let code? ← inlinedRuntime compiler tree
  let withRuntime ← insertRuntime compiler code? withComponents
  return Html.removeBootstrap (← requireText compiler.options.bootstrapName) withRuntime

/-- Whether a file of the bundle is a script that documents no longer need. -/
def isPruned (compiler : Compiler) (key : Text) : Bool :=
  key.endsWith ".js" && compiler.options.runtimeName.text? != some key

def editAsset (compiler : Compiler) (tree : FileTree) (asset : Asset) : BuildM Asset := do
  if asset.fileName.endsWith ".html" then
    return ⟨asset.fileName, ← compiler.edit tree asset.source⟩
  else
    return asset

/-- Ends a build: edits the documents of the bundle and drops its scripts. -/
def finalize (compiler : Compiler) (tree : FileTree) (bundle : Bundle) : BuildM Bundle := do
  if compiler.options.checksDependencies then
    for problem in (← currentSession).graph.diagnostics do
      report (sessionWarning problem)
  let edited ← bundle.entries.mapM fun (key, asset) => do
    return (key, ← editAsset compiler tree asset)
  let (pruned, kept) := edited.partition fun entry => compiler.isPruned entry.1
  note buildLogger (.chunksPruned (pruned.map Prod.fst))
  return ⟨kept⟩

def buildDocument (compiler : Compiler) (tree : FileTree) (document : Text)
    (modules : List (Text × Text)) : BuildM Text := do
  for (moduleId, source) in modules do
    let _ ← compiler.transform source moduleId
  let name : Text := "index.html"
  let bundle ← compiler.finalize tree ⟨[(name, ⟨name, document⟩)]⟩
  return ((bundle.get? name).map Asset.source).getD document

end Compiler

end ComponentInliner
