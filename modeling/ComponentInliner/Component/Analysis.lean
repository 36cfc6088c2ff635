import ComponentInliner.Component.Hint
import ComponentInliner.Component.Record
import ComponentInliner.Module.Fold

/-!
# Finding components

`analyze` decides from the source of a module whether it is a component. The four exports are
folded or, for the logic, looked up; all problems are collected before the answer is given, so
that one analysis reports them together.
-/

namespace ComponentInliner

namespace Component

/-- A result with the issues found on the way to it. -/
structure Checked (Result : Type) where
  result? : Option Result
  issues : List Issue

def readVersion (value : Value) : Checked Text :=
  match value with
  | .undefined => ⟨none, []⟩
  | .string text => ⟨some text, []⟩
  | _ => ⟨none, [.versionNotString]⟩

/-- The strings of a list field of the metadata; a field that is no array has none. -/
def readList (field : ListField) (value : Value) : List Text × List Issue :=
  match value with
  | .undefined => ([], [])
  | .array _ elements =>
      let strings := elements.filterMap Value.text?
      (strings, if strings.length = elements.length then [] else [.notOnlyStrings field])
  | _ => ([], [.notArray field])

/-- The metadata that an object describes. -/
def readMetadata (properties : OrderedMap Text Value) : Checked Metadata :=
  let property (name : String) : Value := (properties.get? (Text.ofString name)).getD .undefined
  match property "name" with
  | .string name =>
      if name.all CodePoint.isBlank then
        ⟨none, [.nameNotGiven]⟩
      else
        let version := readVersion (property "version")
        let (dependencies, dependencyIssues) := readList .dependencies (property "dependencies")
        let (props, propIssues) := readList .props (property "props")
        let (events, eventIssues) := readList .events (property "events")
        ⟨some ⟨name, version.result?, dependencies, props, events⟩,
          version.issues ++ dependencyIssues ++ propIssues ++ eventIssues⟩
  | _ => ⟨none, [.nameNotGiven]⟩

def checkMetadata (folded : Option Value) : Checked Metadata :=
  match folded with
  | some (.record _ properties) => readMetadata properties
  | _ => ⟨none, [.metadataNotObject]⟩

def checkString (required : RequiredExport) (folded : Option Value) : Checked Text :=
  match folded with
  | some (.string text) => ⟨some text, []⟩
  | _ => ⟨none, [.notConstantString required]⟩

/-- The definition that the logic export means: one name is looked up, and no more. -/
def logicDefinition? (bindings : BindingTable) : ExportTarget → Option Definition
  | .unresolved _ => none
  | .definition (.expression (.identifier _ name)) => bindings.get? name
  | .definition definition => some definition

def checkLogic (module : Module) (bindings : BindingTable) (target : ExportTarget) :
    Checked Text :=
  match logicDefinition? bindings target with
  | some definition =>
      if definition.isFunction then ⟨some (module.textAt definition.span), []⟩
      else ⟨none, [.logicNotFunction]⟩
  | none => ⟨none, [.logicNotFunction]⟩

def foldTarget (bindings : BindingTable) (limit : Nat) : ExportTarget → FoldM (Option Value)
  | .definition definition => Fold.foldDefinition (Fold.fold bindings limit []) definition
  | .unresolved _ => return none

/-- The exports of a component, found in an export table. -/
structure Exports where
  metadata : ExportTarget
  style : ExportTarget
  template : ExportTarget
  logic : ExportTarget

def exported? (exports : ExportTable) (required : RequiredExport) : Option ExportTarget :=
  (exports.get? (Text.ofString required.name)).map ExportEntry.target

/-- The exports of a component, if none is missing. -/
def Exports.find? (exports : ExportTable) : Option Exports := do
  return ⟨← exported? exports .metadata, ← exported? exports .style, ← exported? exports .template,
    ← exported? exports .logic⟩

def presentExports (exports : ExportTable) : List RequiredExport :=
  RequiredExport.all.filter fun required => (exported? exports required).isSome

/-- Whether a module seems to be meant as a component: it has metadata, or two of the others. -/
def seemsComponent (exports : ExportTable) : Bool :=
  let present := presentExports exports
  present.contains .metadata || present.length ≥ 2

structure FoldedExports where
  metadata : Option Value
  style : Option Value
  template : Option Value

/-- Folds the exports of a component one after another. -/
def foldExports (bindings : BindingTable) (limit : Nat) (exports : Exports) :
    FoldM FoldedExports := do
  let metadata ← foldTarget bindings limit exports.metadata
  let style ← foldTarget bindings limit exports.style
  let template ← foldTarget bindings limit exports.template
  return ⟨metadata, style, template⟩

/-- What the exports of a component amount to. -/
def checkExports (module : Module) (bindings : BindingTable) (exports : Exports)
    (folded : FoldedExports) : Analysis :=
  let metadata := checkMetadata folded.metadata
  let style := checkString .style folded.style
  let template := checkString .template folded.template
  let logic := checkLogic module bindings exports.logic
  let issues := metadata.issues ++ style.issues ++ template.issues ++ logic.issues
  let component? := do
    return (⟨← metadata.result?, ← style.result?, ← template.result?, ← logic.result?⟩ :
      ComponentRecord)
  ⟨component?, issues.filter Issue.isFatal ++ issues.filter (fun issue => !issue.isFatal), true⟩

/-- The analysis of a parsed module whose expressions are folded down to a limit. -/
def analyzeModule (limit : Nat) (module : Module) : Except ValueFault Analysis :=
  let bindings := module.bindings
  let exports := module.exportsWith bindings
  if seemsComponent exports then
    match Exports.find? exports with
    | some found =>
        ((foldExports bindings limit found).run.run .empty).1.map
          (checkExports module bindings found)
    | none =>
        let missing := RequiredExport.all.filter fun required => (exported? exports required).isNone
        .ok ⟨none, missing.map .missingExport, true⟩
  else
    .ok ⟨none, [], false⟩

/-- Why an analysis, and the run it belongs to, comes to no answer. -/
inductive AnalysisFault where
  | source (fault : ModuleFault)
  | value (fault : ValueFault)
  deriving DecidableEq, Repr

/-- Finds out whether a source is a component, with the statements that a reader gives, folding its
expressions down to a limit. -/
def analyzeWith (read : Script.SourceReader) (limit : Nat) (source : Text) :
    Except AnalysisFault Analysis :=
  match Module.parseWith read source with
  | .ok module => (analyzeModule limit module).mapError .value
  | .error fault =>
      if fault.isReported then
        .ok ⟨none, [.unreadable fault], Hint.looksLikeComponent source⟩
      else
        .error (.source fault)

/-- Finds out whether a source is a component, folding its expressions down to a limit. -/
def analyzeWithin (limit : Nat) (source : Text) : Except AnalysisFault Analysis :=
  analyzeWith Script.readStatements limit source

def analyze (source : Text) : Except AnalysisFault Analysis :=
  analyzeWithin Fold.nestingLimit source

end Component

end ComponentInliner
