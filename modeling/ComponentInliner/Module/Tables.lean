import ComponentInliner.Module.Node

/-!
# Binding and export tables

The names that a module declares at its top level, and the names it exports. A declarator without
an initial value, and a pattern, declare nothing here. A name that is declared or exported again
keeps its place and takes the later meaning.
-/

namespace ComponentInliner

open Script

/-- The top-level names of a module with what they stand for. -/
abbrev BindingTable := OrderedMap Text Definition

/-- What an exported name refers to. -/
inductive ExportTarget where
  | definition (definition : Definition)
  /-- An entry of an export clause whose local name is not defined here. -/
  | unresolved (span : Span)

namespace ExportTarget

def span : ExportTarget → Span
  | .definition meaning => meaning.span
  | .unresolved span => span

def isFunction : ExportTarget → Bool
  | .definition meaning => meaning.isFunction
  | .unresolved _ => false

end ExportTarget

structure ExportEntry where
  target : ExportTarget
  sourceText : Text

/-- The exported names of a module in order. -/
abbrev ExportTable := OrderedMap Text ExportEntry

/-- The names that a declaration defines, in order. -/
def definitionsOf : Declaration Node → List (Text × Definition)
  | .variables _ declarators => declarators.filterMap fun declarator =>
      match declarator.target, declarator.initial with
      | .name name, some node => some (name.text, .expression node)
      | _, _ => none
  | .function head => [(head.name.text, .function head)]
  | .classLike head => [(head.name.text, .classLike head)]

def topLevelDefinitions : ModuleStatement → List (Text × Definition)
  | .declaration declaration | .exportDeclaration declaration => definitionsOf declaration
  | _ => []

def Module.bindings (module : Module) : BindingTable :=
  .ofList (module.body.flatMap topLevelDefinitions)

/-- What a local name of an export clause refers to. -/
def resolveExport (bindings : BindingTable) (isReexport : Bool)
    (specifier : Specifier ExportLabel) : ExportTarget :=
  match isReexport, bindings.get? specifier.localName.text with
  | false, some definition => .definition definition
  | _, _ => .unresolved specifier.span

/-- The names that a statement exports, in order. -/
def exportsOf (bindings : BindingTable) : ModuleStatement → List (Text × ExportTarget)
  | .exportDeclaration declaration =>
      (definitionsOf declaration).map fun (name, definition) => (name, .definition definition)
  | .exportClause specifiers source => specifiers.map fun specifier =>
      ((specifier.alias?.getD specifier.localName).text,
        resolveExport bindings source.isSome specifier)
  | _ => []

def Module.exportsWith (module : Module) (bindings : BindingTable) : ExportTable :=
  .ofList ((module.body.flatMap (exportsOf bindings)).map fun (name, target) =>
    (name, ⟨target, module.textAt target.span⟩))

def Module.exportTable (module : Module) : ExportTable :=
  module.exportsWith module.bindings

end ComponentInliner
