import ComponentInliner.Build.Options
import ComponentInliner.Config.Section
import ComponentInliner.FileTree
import ComponentInliner.Json.Parse
import ComponentInliner.Json.Print
import ComponentInliner.Log
import ComponentInliner.Yaml.Parse
import ComponentInliner.Yaml.Print

/-!
# Configurations

A configuration is read from a file that is named, or else from the first file with a usual name
in the project root. Files that end in `.yaml` or `.yml` are read and written as YAML and all
others as JSON. A file that is missing or cannot be read is no failure: the log says so, and the
usual configuration is taken.
-/

namespace ComponentInliner

/-- A configuration with the file that it was read from. -/
structure Configuration where
  file? : Option Path
  root : Path
  build : BuildSection
  runtime : RuntimeSection
  logging : LoggingSection

/-- Why there is no configuration. -/
inductive ConfigurationFault where
  | sections (fault : SectionFault)
  | yaml (fault : Yaml.Fault)

inductive SaveFault where
  | file (fault : FileFault)
  /-- Data that the format of the file has no place for. -/
  | unprintable

namespace Configuration

def logger : String := "boredom_compiler.utils.config"

/-- The names of configuration files, the first choice first. -/
def usualNames : List Text :=
  ["boredom.config.yaml", "boredom.config.yml", "boredom.config.json"]

/-- The directory of a project, which is the working directory if none is named. -/
def rootOf (tree : FileTree) (root : Text) : Path :=
  if root.isEmpty then ⟨.root, tree.workingDirectory⟩ else Path.ofText root

/-- The file to read: the one that is named, or one with a usual name that exists. -/
def chosenFile? (tree : FileTree) (root : Path) (given : Text) : Option Path :=
  if given.isEmpty then
    (usualNames.map fun name => root.below [name]).find? fun path => (tree.lookup? path).isSome
  else
    some (Path.ofText given)

def isYaml (path : Path) : Bool :=
  let extensions : List Text := [".yaml", ".yml"]
  path.extension.map CodePoint.asciiLower ∈ extensions

/-- The setting in a file; nothing if the file cannot be read. -/
def readSetting (tree : FileTree) (path : Path) : Except ConfigurationFault (Option Setting) :=
  match tree.readText path with
  | .error _ => .ok none
  | .ok content =>
      if isYaml path then
        match Yaml.parse content with
        | .ok setting => .ok (some setting)
        | .error .malformed => .ok none
        | .error fault => .error (.yaml fault)
      else
        .ok (Json.parse? content)

/-- The setting of a configuration file, and what the log says about it. -/
def loadSetting (tree : FileTree) (file? : Option Path) :
    Except ConfigurationFault (Setting × LogRecord) := do
  let usual : Setting := .mapping []
  match file? with
  | none => return (usual, ⟨.debug, logger, "No configuration file found, using defaults"⟩)
  | some path =>
      if (tree.lookup? path).isNone then
        return (usual, ⟨.warning, logger,
          "Configuration file " ++ path.text ++ " not found, using defaults"⟩)
      else
        match ← readSetting tree path with
        | none => return (usual, ⟨.error, logger, "Failed to load configuration: " ++ path.text⟩)
        | some setting =>
            return (if setting.isOn then setting else usual,
              ⟨.info, logger, "Loaded configuration from " ++ path.text⟩)

def load (tree : FileTree) (environment : Environment) (given root : Text) :
    Except ConfigurationFault (Configuration × List LogRecord) := do
  let rootPath := rootOf tree root
  let file? := chosenFile? tree rootPath given
  let (setting, record) ← loadSetting tree file?
  let sections : Except SectionFault Configuration := do
    return {
      file? := file?
      root := rootPath
      build := ← BuildSection.ofSetting environment setting
      runtime := ← RuntimeSection.ofSetting BuildOptions.usualRuntime BuildOptions.usualBootstrap
        setting
      logging := ← LoggingSection.ofSetting environment setting }
  match sections with
  | .ok configuration => return (configuration, [record])
  | .error fault => throw (.sections fault)

def options (configuration : Configuration) : Except FilterFault BuildOptions := do
  let choice (filters : Option (List Filter)) : FilterChoice :=
    filters.map fun filters => filters.map FilterEntry.filter
  return {
    inlinesRuntime := configuration.build.inlinesRuntime.isOn
    reportsIssues := configuration.build.reportsIssues.isOn
    compactsStyles := configuration.build.compactsStyles.isOn
    checksDependencies := configuration.build.checksDependencies.isOn
    includeChoice := choice (← Filter.listOfSetting configuration.build.componentInclude)
    excludeChoice := choice (← Filter.listOfSetting configuration.build.componentExclude)
    runtimeName := configuration.runtime.filename
    bootstrapName := configuration.runtime.bootstrapName
    searchPaths := configuration.runtime.searchPaths }

/-- A mapping with names for keys. -/
def named (entries : List (Text × Setting)) : Setting :=
  .mapping (entries.map fun (name, setting) => (.text name, setting))

/-- A configuration as the setting that is written to files. -/
def setting (configuration : Configuration) : Setting :=
  named [
    ("build", named [
      ("inline_runtime", configuration.build.inlinesRuntime),
      ("validate_components", configuration.build.reportsIssues),
      ("optimize_styles", configuration.build.compactsStyles),
      ("strict_dependencies", configuration.build.checksDependencies),
      ("component_include", configuration.build.componentInclude),
      ("component_exclude", configuration.build.componentExclude)]),
    ("runtime", named [
      ("filename", configuration.runtime.filename),
      ("bootstrap_filename", configuration.runtime.bootstrapName),
      ("search_paths", .list configuration.runtime.searchPaths)]),
    ("logging", named [
      ("level", configuration.logging.level),
      ("enable_file_logging", configuration.logging.writesFile),
      ("log_file", configuration.logging.file)])]

def fileText? (configuration : Configuration) (path : Path) : Option Text :=
  if isYaml path then some (Yaml.print configuration.setting)
  else Json.print? 0 configuration.setting

/-- The file that a configuration is saved to: the one that is named, or the one it came from. -/
def target (configuration : Configuration) (given : Text) : Path :=
  if given.isEmpty then
    configuration.file?.getD (configuration.root.below ["boredom.config.json"])
  else
    Path.ofText given

def save (configuration : Configuration) (tree : FileTree) (given : Text) :
    Except SaveFault (FileTree × List LogRecord) := do
  let path := configuration.target given
  let opened ← (tree.writeBytes path []).mapError .file
  match (configuration.fileText? path).bind Text.encode? with
  | none => throw .unprintable
  | some bytes =>
      let written ← (opened.writeBytes path bytes).mapError .file
      return (written, [⟨.info, logger, "Configuration saved to " ++ path.text⟩])

end Configuration

end ComponentInliner
