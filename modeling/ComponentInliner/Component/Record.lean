import ComponentInliner.Module.Parse

/-!
# Components

A component is a module that exports `metadata`, `style`, `template` and `logic`. Its record
holds what the document needs: the folded metadata, style sheet and markup, and the source of
the logic function. Problems found while looking for a component are `Issue`s; a fatal issue
means that there is no record, a warning that a field of the metadata was left out.
-/

namespace ComponentInliner

/-- The exports of a component. -/
inductive RequiredExport where
  | metadata
  | style
  | template
  | logic
  deriving DecidableEq, Repr

namespace RequiredExport

/-- The exports of a component in the order in which they are looked for. -/
def all : List RequiredExport := [.metadata, .style, .template, .logic]

def name : RequiredExport → String
  | .metadata => "metadata"
  | .style => "style"
  | .template => "template"
  | .logic => "logic"

end RequiredExport

/-- The fields of the metadata that are lists of strings. -/
inductive ListField where
  | dependencies
  | props
  | events
  deriving DecidableEq, Repr

def ListField.name : ListField → String
  | .dependencies => "dependencies"
  | .props => "props"
  | .events => "events"

/-- The folded metadata of a component. -/
structure Metadata where
  name : Text
  version? : Option Text
  dependencies : List Text
  props : List Text
  events : List Text
  deriving DecidableEq

/-- All that is needed to write a component into a document. -/
structure ComponentRecord where
  metadata : Metadata
  style : Text
  template : Text
  logicSource : Text
  deriving DecidableEq

def ComponentRecord.name (record : ComponentRecord) : Text :=
  record.metadata.name

/-- How much an issue matters. -/
inductive Severity where
  | fatal
  | warning
  deriving DecidableEq, Repr

def Severity.text : Severity → String
  | .fatal => "fatal"
  | .warning => "warning"

/-- A problem of a component module. -/
inductive Issue where
  | unreadable (fault : ModuleFault)
  | missingExport (required : RequiredExport)
  | metadataNotObject
  | nameNotGiven
  | notConstantString (required : RequiredExport)
  | logicNotFunction
  | versionNotString
  | notArray (field : ListField)
  | notOnlyStrings (field : ListField)
  deriving DecidableEq, Repr

namespace Issue

/-- How much an issue matters. -/
def severity : Issue → Severity
  | .versionNotString | .notArray _ | .notOnlyStrings _ => .warning
  | _ => .fatal

def isFatal (issue : Issue) : Bool :=
  issue.severity = .fatal

/-- What is said about an issue. -/
def message : Issue → String
  | .unreadable fault => "Failed to parse module: " ++ fault.message
  | .missingExport required => "Missing required export " ++ quoted required.name ++ "."
  | .metadataNotObject => quoted "metadata" ++ " must be a statically analyzable object."
  | .nameNotGiven => quoted "metadata.name" ++ " must be a non-empty string."
  | .notConstantString required => quoted required.name ++ " must resolve to a static string."
  | .logicNotFunction => quoted "logic" ++ " must resolve to a function export."
  | .versionNotString => quoted "metadata.version" ++ " should be a string."
  | .notArray field => quoted ("metadata." ++ field.name) ++ " should be an array of strings."
  | .notOnlyStrings field => quoted ("metadata." ++ field.name) ++ " should contain only strings."
where
  quoted (name : String) : String := "\x60" ++ name ++ "\x60"

end Issue

/-- What is found out about a module. -/
structure Analysis where
  component? : Option ComponentRecord
  issues : List Issue
  looksLikeComponent : Bool
  deriving DecidableEq

def Analysis.fatalIssues (analysis : Analysis) : List Issue :=
  analysis.issues.filter Issue.isFatal

end ComponentInliner
