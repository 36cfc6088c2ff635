import ComponentInliner.Config.Setting

/-!
# Sections of a configuration

A configuration has a section for the build, one for the runtime script and one for the log. Each
setting of a section is kept as it was written; settings that are missing have usual values, and
variables of the environment go before what is written.
-/

namespace ComponentInliner

/-- What the environment of the program says about a build. -/
structure Environment where
  omitsRuntime? : Option Text
  checksDependencies? : Option Text
  logLevel? : Option Text

namespace Environment

def empty : Environment := ⟨none, none, none⟩

def ofVariables (entries : List (String × Text)) : Environment :=
  ⟨entries.lookup "BOREDOM_NO_INLINE_RUNTIME", entries.lookup "BOREDOM_STRICT_DEPENDENCIES",
    entries.lookup "BOREDOM_LOG_LEVEL"⟩

/-- Whether a variable switches something on. -/
def isOn (content? : Option Text) : Bool :=
  let words : List Text := ["1", "true", "yes"]
  content?.any fun content => content.map CodePoint.asciiLower ∈ words

end Environment

structure BuildSection where
  inlinesRuntime : Setting
  reportsIssues : Setting
  compactsStyles : Setting
  checksDependencies : Setting
  componentInclude : Setting
  componentExclude : Setting

structure RuntimeSection where
  filename : Setting
  bootstrapName : Setting
  /-- Where the runtime is looked for first. -/
  searchPaths : List Setting

structure LoggingSection where
  level : Setting
  writesFile : Setting
  file : Setting

/-- Why a configuration has no sections. -/
inductive SectionFault where
  | notMapping
  | noEntries
  deriving DecidableEq, Repr

namespace Setting

def membersOf : Setting → Except SectionFault (List (Setting × Setting))
  | .mapping entries => .ok entries
  | _ => .error .notMapping

/-- A member of a mapping, or a value that is taken without it. -/
def memberOr (fallback : Setting) (name : Text) (entries : List (Setting × Setting)) : Setting :=
  let isNamed (entry : Setting × Setting) : Bool := entry.1.text? = some name
  ((entries.find? isNamed).map Prod.snd).getD fallback

/-- The members of a section; a section that is missing has none. -/
def sectionOf (name : Text) (configuration : Setting) :
    Except SectionFault (List (Setting × Setting)) := do
  membersOf (memberOr (.mapping []) name (← membersOf configuration))

def entriesOf (setting : Setting) : Except SectionFault (List Setting) :=
  match setting.entries? with
  | some entries => .ok entries
  | none => .error .noEntries

end Setting

def BuildSection.ofSetting (environment : Environment) (configuration : Setting) :
    Except SectionFault BuildSection := do
  let entries ← configuration.sectionOf "build"
  let omitsRuntime := Environment.isOn environment.omitsRuntime?
  let checksDependencies := Environment.isOn environment.checksDependencies?
  let written (name : Text) (fallback : Bool) : Setting :=
    Setting.memberOr (.boolean fallback) name entries
  return {
    inlinesRuntime := if omitsRuntime then .boolean false else written "inline_runtime" true
    reportsIssues := written "validate_components" true
    compactsStyles := written "optimize_styles" true
    checksDependencies :=
      if checksDependencies then .boolean true else written "strict_dependencies" false
    componentInclude := Setting.memberOr .null "component_include" entries
    componentExclude := Setting.memberOr .null "component_exclude" entries }

def RuntimeSection.ofSetting (usualRuntime usualBootstrap : Text) (configuration : Setting) :
    Except SectionFault RuntimeSection := do
  let entries ← configuration.sectionOf "runtime"
  return {
    filename := Setting.memberOr (.text usualRuntime) "filename" entries
    bootstrapName := Setting.memberOr (.text usualBootstrap) "bootstrap_filename" entries
    searchPaths := ← Setting.entriesOf (Setting.memberOr (.list []) "search_paths" entries) }

def LoggingSection.ofSetting (environment : Environment) (configuration : Setting) :
    Except SectionFault LoggingSection := do
  let entries ← configuration.sectionOf "logging"
  let written := Setting.memberOr (.text "INFO") "level" entries
  return {
    level := (environment.logLevel?.map Setting.text).getD written
    writesFile := Setting.memberOr (.boolean false) "enable_file_logging" entries
    file := Setting.memberOr (.text "boredom-compiler.log") "log_file" entries }

end ComponentInliner
