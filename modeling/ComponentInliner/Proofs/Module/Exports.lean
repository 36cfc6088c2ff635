import Mathlib.Data.List.Lattice
import Mathlib.Data.List.Nodup
import Mathlib.Data.List.Pairwise
import ComponentInliner.Proofs.Component.Classification
import ComponentInliner.Proofs.Fold.Locality

/-!
# Two ways to export a declaration

A declaration may be exported in place, or it may be followed by an export clause with the names
that it declares. A clause looks its names up among all definitions of the module, of which the last
one counts. A declaration that is exported in place offers its own definitions, and nothing for a
name without an initial value. So the two ways agree as long as the last definition of a name is in
the declaration that exports it (`exportTable_inPlace`).

The model keeps no names of a pattern. Here they are given by the place of the pattern.
-/

namespace ComponentInliner

open Script Component Fold

section Statements

variable (boundBy : Span → List Name)

/-- The names that are declared by what stands on the left of an initial value. -/
def targetNames : Target → List Name
  | .name name => [name]
  | .pattern span => boundBy span

/-- The names that a declaration declares, in order. -/
def declaredNames : Declaration Node → List Name
  | .variables _ declarators => declarators.flatMap fun declarator =>
      targetNames boundBy declarator.target
  | .function head => [head.name]
  | .classLike head => [head.name]

/-- The names that a statement exports by a declaration or a clause. -/
def exportedNames : ModuleStatement → List Text
  | .exportDeclaration declaration => (declaredNames boundBy declaration).map Name.text
  | .exportClause specifiers _ => specifiers.map fun specifier =>
      (specifier.alias?.getD specifier.localName).text
  | _ => []

/-- An entry of an export clause that exports a name as it is. -/
def specifierOf (name : Name) : Specifier ExportLabel :=
  ⟨name.span, .identifier name, none⟩

/-- A declaration that is exported in place is replaced by the plain declaration and a clause. -/
def detach : ModuleStatement → List ModuleStatement
  | .exportDeclaration declaration => [.declaration declaration,
      .exportClause ((declaredNames boundBy declaration).map specifierOf) none]
  | statement => [statement]

def Module.detached (module : Module) : Module :=
  { module with body := module.body.flatMap (detach boundBy) }

end Statements

/-- What an exported name of a module refers to. -/
def Module.target? (module : Module) (name : Text) : Option ExportTarget :=
  (module.exportTable.get? name).map ExportEntry.target

variable {boundBy : Span → List Name} {module : Module} {statement other : ModuleStatement}
  {declaration : Declaration Node} {bindings : BindingTable} {name : Text} {target : ExportTarget}

section Names

/-- A declaration defines no name that it does not declare. -/
theorem definitionsOf_sublist (declaration : Declaration Node) :
    ((definitionsOf declaration).map Prod.fst).Sublist
      ((declaredNames boundBy declaration).map Name.text) := by
  cases declaration with
  | function | classLike => exact .refl _
  | «variables» kind declarators =>
      induction declarators with
      | nil => exact .refl _
      | cons declarator rest ih =>
          rcases declarator with ⟨own | span, initial⟩
          · cases initial with
            | none => exact ih.trans (List.sublist_cons_self ..)
            | some node => exact ih.cons_cons _
          · have added : ((declaredNames boundBy (.variables kind rest)).map Name.text).Sublist
                ((declaredNames boundBy (.variables kind (⟨.pattern span, initial⟩ :: rest))).map
                  Name.text) :=
              (List.sublist_append_right ..).map _
            exact ih.trans added

theorem exportsOf_sublist (statement : ModuleStatement) :
    ((exportsOf bindings statement).map Prod.fst).Sublist (exportedNames boundBy statement) := by
  cases statement with
  | exportDeclaration declaration =>
      simpa [exportsOf, exportedNames, Function.comp_def] using definitionsOf_sublist declaration
  | exportClause specifiers source => simp [exportsOf, exportedNames, Function.comp_def]
  | declaration | importing | exportDefault | exportAll | other => exact .refl _

/-- A name that is exported once is exported by one statement. -/
theorem eq_of_exportedNames (distinct : (module.body.flatMap (exportedNames boundBy)).Nodup)
    (mem : statement ∈ module.body) (exported : name ∈ exportedNames boundBy statement)
    (otherMem : other ∈ module.body) (again : name ∈ exportedNames boundBy other) :
    statement = other := by
  by_contra different
  have symmetric : Std.Symm (Function.onFun List.Disjoint (exportedNames boundBy)) :=
    ⟨fun _ _ => List.Disjoint.symm⟩
  exact (List.nodup_flatMap.mp distinct).2.forall mem otherMem different exported again

/-- Statements that do not share a name that they export export no name twice. -/
theorem distinct_exports (distinct : (module.body.flatMap (exportedNames boundBy)).Nodup) :
    ((module.body.flatMap (exportsOf bindings)).map Prod.fst).Nodup := by
  rw [List.map_flatMap]
  rcases List.nodup_flatMap.mp distinct with ⟨each, apart⟩
  refine List.nodup_flatMap.mpr ⟨fun statement mem => (each statement mem).sublist
    (exportsOf_sublist statement), apart.imp fun disjoint => ?_⟩
  exact List.disjoint_of_subset_left (exportsOf_sublist _).subset
    (List.disjoint_of_subset_right (exportsOf_sublist _).subset disjoint)

/-- A name that is exported once refers to what the statement that exports it says. -/
theorem target?_eq_some_iff (distinct : (module.body.flatMap (exportedNames boundBy)).Nodup) :
    module.target? name = some target ↔
      ∃ statement ∈ module.body, (name, target) ∈ exportsOf module.bindings statement := by
  let withText (exported : Text × ExportTarget) : Text × ExportEntry :=
    (exported.1, ⟨exported.2, module.textAt exported.2.span⟩)
  have distinctEntries :
      (((module.body.flatMap (exportsOf module.bindings)).map withText).map Prod.fst).Nodup := by
    rw [List.map_map]
    exact distinct_exports distinct
  have found (entry : ExportEntry) : module.exportTable.get? name = some entry ↔
      ∃ exported ∈ module.body.flatMap (exportsOf module.bindings),
        withText exported = (name, entry) := by
    rw [← List.mem_map]
    exact OrderedMap.get?_ofList_eq_some_iff distinctEntries
  rw [← List.mem_flatMap, Module.target?, Option.map_eq_some_iff]
  constructor
  · rintro ⟨entry, get, rfl⟩
    rcases (found entry).mp get with ⟨exported, mem, ⟨⟩⟩
    exact mem
  · intro mem
    exact ⟨⟨target, module.textAt target.span⟩, (found _).mpr ⟨_, mem, rfl⟩, rfl⟩

/-- A name that is exported in place refers to what the declaration itself defines it as. -/
theorem target?_of_exportDeclaration
    (distinct : (module.body.flatMap (exportedNames boundBy)).Nodup)
    (mem : .exportDeclaration declaration ∈ module.body)
    (declared : name ∈ (declaredNames boundBy declaration).map Name.text) :
    module.target? name = some target ↔
      ∃ definition, (name, definition) ∈ definitionsOf declaration ∧
        target = .definition definition := by
  rw [target?_eq_some_iff distinct]
  constructor
  · rintro ⟨statement, statementMem, exports⟩
    have again : name ∈ exportedNames boundBy statement :=
      (exportsOf_sublist statement).subset (List.mem_map_of_mem exports)
    cases eq_of_exportedNames distinct mem declared statementMem again
    rcases List.mem_map.mp exports with ⟨⟨_, definition⟩, defines, ⟨⟩⟩
    exact ⟨definition, defines, rfl⟩
  · rintro ⟨definition, defines, rfl⟩
    exact ⟨_, mem, List.mem_map.mpr ⟨_, defines, rfl⟩⟩

/-- A name stands for its last definition. -/
theorem bindings_get? (module : Module) (name : Text) :
    module.bindings.get? name = (module.definitionsFor name).getLast?.map Prod.snd :=
  OrderedMap.get?_ofList _ name

theorem mem_definitionsFor {definition : Definition}
    (mem : .exportDeclaration declaration ∈ module.body)
    (defines : (name, definition) ∈ definitionsOf declaration) :
    (name, definition) ∈ module.definitionsFor name :=
  List.mem_filter.mpr ⟨List.mem_flatMap.mpr ⟨_, mem, defines⟩, by simp⟩

/-- What the exporting declaration and the module mean by a name is the same exactly if no other
definition of the name is the last one. -/
theorem target?_eq_bindings_iff
    (distinct : (module.body.flatMap (exportedNames boundBy)).Nodup)
    (mem : .exportDeclaration declaration ∈ module.body)
    (declared : name ∈ (declaredNames boundBy declaration).map Name.text) :
    module.target? name = (module.bindings.get? name).map .definition ↔
      ∀ last, (module.definitionsFor name).getLast? = some last →
        last ∈ definitionsOf declaration := by
  rw [bindings_get?]
  cases ends : (module.definitionsFor name).getLast? with
  | none =>
      have undefined : module.target? name = none := by
        refine Option.eq_none_iff_forall_ne_some.mpr fun target refers => ?_
        rcases (target?_of_exportDeclaration distinct mem declared).mp refers with
          ⟨definition, defines, -⟩
        have defined := mem_definitionsFor mem defines
        rw [List.getLast?_eq_none_iff.mp ends] at defined
        cases defined
      exact iff_of_true undefined nofun
  | some last =>
      have named : last.1 = name := by
        simpa using (List.mem_filter.mp (List.mem_of_getLast? ends)).2
      subst named
      have refers := @target?_of_exportDeclaration _ _ _ _ (.definition last.2) distinct mem
        declared
      constructor
      · rintro same _ ⟨⟩
        rcases refers.mp same with ⟨definition, defines, ⟨⟩⟩
        exact defines
      · intro own
        exact refers.mpr ⟨last.2, own last rfl, rfl⟩

end Names

section Styles

/-- A name that is exported in place refers to what it means in the whole module. -/
def Module.AgreesInPlace (boundBy : Span → List Name) (module : Module) (name : Text) : Prop :=
  ∀ declaration, .exportDeclaration declaration ∈ module.body →
    name ∈ (declaredNames boundBy declaration).map Name.text →
      module.target? name = (module.bindings.get? name).map .definition

theorem bindings_detached : (module.detached boundBy).bindings = module.bindings := by
  have onStatement (statement : ModuleStatement) :
      (detach boundBy statement).flatMap topLevelDefinitions = topLevelDefinitions statement := by
    cases statement <;> simp [detach, topLevelDefinitions]
  simp [Module.bindings, Module.detached, List.flatMap_assoc, onStatement]

theorem exportedNames_detached : (module.detached boundBy).body.flatMap (exportedNames boundBy) =
    module.body.flatMap (exportedNames boundBy) := by
  have onStatement (statement : ModuleStatement) :
      (detach boundBy statement).flatMap (exportedNames boundBy) =
        exportedNames boundBy statement := by
    cases statement <;>
      simp [detach, exportedNames, specifierOf, ExportLabel.text, Function.comp_def]
  simp [Module.detached, List.flatMap_assoc, onStatement]

theorem resolveExport_specifierOf {own : Name} {definition : Definition} :
    resolveExport bindings false (specifierOf own) = .definition definition ↔
      bindings.get? own.text = some definition := by
  have named : (specifierOf own).localName.text = own.text := rfl
  unfold resolveExport
  rw [named]
  cases bindings.get? own.text <;> simp

theorem mem_exportsOf_exportDeclaration {definition : Definition} :
    (name, .definition definition) ∈ exportsOf bindings (.exportDeclaration declaration) ↔
      (name, definition) ∈ definitionsOf declaration := by
  constructor
  · intro exports
    rcases List.mem_map.mp exports with ⟨_, defines, ⟨⟩⟩
    exact defines
  · exact fun defines => List.mem_map.mpr ⟨_, defines, rfl⟩

theorem mem_exportsOf_detached {definition : Definition} :
    (name, .definition definition) ∈
        (detach boundBy (.exportDeclaration declaration)).flatMap (exportsOf bindings) ↔
      name ∈ (declaredNames boundBy declaration).map Name.text ∧
        bindings.get? name = some definition := by
  simp only [detach, List.flatMap_cons, List.flatMap_nil, exportsOf, List.nil_append,
    List.append_nil, List.map_map, List.mem_map]
  constructor
  · rintro ⟨own, mem, exports⟩
    rcases Prod.mk.inj exports with ⟨rfl, resolves⟩
    exact ⟨⟨own, mem, rfl⟩, resolveExport_specifierOf.mp resolves⟩
  · rintro ⟨⟨own, mem, rfl⟩, found⟩
    exact ⟨own, mem, Prod.ext rfl (resolveExport_specifierOf.mpr found)⟩

/-- If the tables agree at a name, a clause offers what the declaration before it defines. -/
theorem mem_exportsOf_detach {definition : Definition}
    (agrees : module.AgreesInPlace boundBy name)
    (distinct : (module.body.flatMap (exportedNames boundBy)).Nodup)
    (mem : statement ∈ module.body) :
    (name, .definition definition) ∈ (detach boundBy statement).flatMap
        (exportsOf module.bindings) ↔
      (name, .definition definition) ∈ exportsOf module.bindings statement := by
  cases statement with
  | exportDeclaration declaration =>
      rw [mem_exportsOf_detached, mem_exportsOf_exportDeclaration]
      constructor
      · rintro ⟨declared, found⟩
        have refers := agrees declaration mem declared
        rw [found] at refers
        rcases (target?_of_exportDeclaration distinct mem declared).mp refers with
          ⟨_, defines, ⟨⟩⟩
        exact defines
      · intro defines
        have declared : name ∈ (declaredNames boundBy declaration).map Name.text :=
          (definitionsOf_sublist declaration).subset (List.mem_map_of_mem defines)
        have refers := (target?_of_exportDeclaration distinct mem declared).mpr
          ⟨definition, defines, rfl⟩
        rw [agrees declaration mem declared] at refers
        rcases Option.map_eq_some_iff.mp refers with ⟨_, found, ⟨⟩⟩
        exact ⟨declared, found⟩
  | _ => simp [detach]

/-- If the tables agree at a name, both styles export the same definition under it. -/
theorem target?_detached {definition : Definition} (agrees : module.AgreesInPlace boundBy name)
    (distinct : (module.body.flatMap (exportedNames boundBy)).Nodup) :
    (module.detached boundBy).target? name = some (.definition definition) ↔
      module.target? name = some (.definition definition) := by
  have distinctDetached :
      ((module.detached boundBy).body.flatMap (exportedNames boundBy)).Nodup := by
    rw [exportedNames_detached]
    exact distinct
  rw [target?_eq_some_iff distinct, target?_eq_some_iff distinctDetached, bindings_detached,
    ← List.mem_flatMap, Module.detached, List.flatMap_assoc, List.mem_flatMap]
  exact exists_congr fun statement => and_congr_right (mem_exportsOf_detach agrees distinct)

end Styles

namespace Component

variable {exports : Exports} {folded : FoldedExports} {limit : Nat} {record : ComponentRecord}

/-- The export of a component that is required under a name. -/
def Exports.targetOf (exports : Exports) : RequiredExport → ExportTarget
  | .metadata => exports.metadata
  | .style => exports.style
  | .template => exports.template
  | .logic => exports.logic

theorem Exports.find?_eq_some_iff : Exports.find? module.exportTable = some exports ↔
    ∀ required : RequiredExport,
      module.target? (Text.ofString required.name) = some (exports.targetOf required) := by
  constructor
  · intro found
    rcases Option.bind_eq_some_iff.mp found with ⟨metadata, hasMetadata, found⟩
    rcases Option.bind_eq_some_iff.mp found with ⟨style, hasStyle, found⟩
    rcases Option.bind_eq_some_iff.mp found with ⟨template, hasTemplate, found⟩
    rcases Option.bind_eq_some_iff.mp found with ⟨logic, hasLogic, ⟨⟩⟩
    intro required
    cases required
    exacts [hasMetadata, hasStyle, hasTemplate, hasLogic]
  · intro has
    have onTable (required : RequiredExport) :
        exported? module.exportTable required = some (exports.targetOf required) := has required
    simp [Exports.find?, onTable, Exports.targetOf]

/-- Nothing is folded for an export that cannot be resolved. -/
theorem foldTarget_unresolved {span : Span} {bindings : BindingTable} {result : Option Value}
    {before after : FoldMemo} (ran : Runs (foldTarget bindings limit (.unresolved span)) before
      result after) : result = none :=
  (Runs.pure_iff.mp ran).1.symm

/-- The exports that show a record are resolved. -/
theorem Shows.resolved (shows : Shows module exports folded record)
    (inTurn : FoldsInTurn limit module.bindings exports folded) (required : RequiredExport) :
    ∃ definition, exports.targetOf required = .definition definition := by
  rcases foldsInTurn_iff.mp inTurn with ⟨_, _, _, onMetadata, onStyle, onTemplate⟩
  rcases shows with ⟨⟨_, _, metadata, -⟩, style, template, logic⟩
  cases resolves : exports.targetOf required with
  | definition definition => exact ⟨definition, rfl⟩
  | unresolved span =>
      cases required with
      | metadata =>
          rw [show exports.metadata = _ from resolves] at onMetadata
          cases metadata.symm.trans (foldTarget_unresolved onMetadata)
      | style =>
          rw [show exports.style = _ from resolves] at onStyle
          cases style.symm.trans (foldTarget_unresolved onStyle)
      | template =>
          rw [show exports.template = _ from resolves] at onTemplate
          cases template.symm.trans (foldTarget_unresolved onTemplate)
      | logic =>
          rw [show exports.logic = _ from resolves] at logic
          rcases logic with ⟨_, found, -⟩
          cases found

theorem find?_detached
    (agrees : ∀ required : RequiredExport,
      module.AgreesInPlace boundBy (Text.ofString required.name))
    (distinct : (module.body.flatMap (exportedNames boundBy)).Nodup)
    (shows : Shows module exports folded record)
    (inTurn : FoldsInTurn limit module.bindings exports folded) :
    Exports.find? (module.detached boundBy).exportTable = some exports ↔
      Exports.find? module.exportTable = some exports := by
  rw [Exports.find?_eq_some_iff, Exports.find?_eq_some_iff]
  refine forall_congr' fun required => ?_
  rcases shows.resolved inTurn required with ⟨definition, resolves⟩
  rw [resolves]
  exact target?_detached (agrees required) distinct

theorem shows_detached : Shows (module.detached boundBy) exports folded record ↔
    Shows module exports folded record := by
  have sameBindings : (module.detached boundBy).bindings = module.bindings := bindings_detached
  constructor
  · rintro ⟨metadata, style, template, logic⟩
    rw [sameBindings] at logic
    exact ⟨metadata, style, template, logic⟩
  · rintro ⟨metadata, style, template, logic⟩
    rw [← sameBindings] at logic
    exact ⟨metadata, style, template, logic⟩

/-- If the tables agree at the names of a component, both styles give the same component. -/
theorem exists_component_detached_iff
    (agrees : ∀ required : RequiredExport,
      module.AgreesInPlace boundBy (Text.ofString required.name))
    (distinct : (module.body.flatMap (exportedNames boundBy)).Nodup) :
    (∃ analysis, analyzeModule limit (module.detached boundBy) = .ok analysis ∧
        analysis.component? = some record) ↔
      ∃ analysis, analyzeModule limit module = .ok analysis ∧
        analysis.component? = some record := by
  rw [exists_component_iff, exists_component_iff]
  refine exists_congr fun exports => exists_congr fun folded => ?_
  rw [shows_detached, bindings_detached]
  refine and_congr_left ?_
  rintro ⟨inTurn, shows⟩
  exact find?_detached agrees distinct shows inTurn

end Component

/--
A module that exports no name twice. A name that is exported in place refers to what the exporting
declaration itself defines it as, and to nothing if that defines nothing for it. This is what the
name means in the whole module exactly if the last definition of the name, if there is one, is in
the exporting declaration. If that holds for the names that a component has to export, as far as
they are exported in place, then export clauses behind the plain declarations give the same
component.
-/
theorem Module.exportTable_inPlace (boundBy : Span → List Name) (module : Module)
    (distinct : (module.body.flatMap (exportedNames boundBy)).Nodup) :
    (∀ declaration, .exportDeclaration declaration ∈ module.body →
      ∀ name ∈ (declaredNames boundBy declaration).map Name.text,
        (∀ target, module.target? name = some target ↔ ∃ definition,
          (name, definition) ∈ definitionsOf declaration ∧ target = .definition definition) ∧
        (module.target? name = (module.bindings.get? name).map .definition ↔
          ∀ last, (module.definitionsFor name).getLast? = some last →
            last ∈ definitionsOf declaration)) ∧
    ((∀ required : RequiredExport,
        module.AgreesInPlace boundBy (Text.ofString required.name)) → ∀ limit record,
      (∃ analysis, analyzeModule limit (module.detached boundBy) = .ok analysis ∧
        analysis.component? = some record) ↔
      ∃ analysis, analyzeModule limit module = .ok analysis ∧
        analysis.component? = some record) := by
  refine ⟨fun declaration mem name declared => ⟨fun target => ?_, ?_⟩, fun agrees _ _ => ?_⟩
  · exact target?_of_exportDeclaration distinct mem declared
  · exact target?_eq_bindings_iff distinct mem declared
  · exact exists_component_detached_iff agrees distinct

/-- A component whose style sheet is declared for a second time where it is exported. -/
theorem Module.exportTable_inPlace_of_last :
    let boundBy (_ : Span) : List Name := []
    let style (start : Nat) (text raw : Text) : Declaration Node :=
      .variables "var" [⟨.name ⟨⟨start, start + 5⟩, "style"⟩,
        some (.literal ⟨start + 6, start + 9⟩ (.string text) raw)⟩]
    let metadata : Node := .object ⟨36, 46⟩ [.pair ⟨37, 45⟩ (.identifier ⟨37, 41⟩ "name") false
      (.literal ⟨42, 45⟩ (.string "x") "'x'")]
    let others : Declaration Node := .variables "const" [⟨.name ⟨⟨27, 35⟩, "metadata"⟩, metadata⟩,
      ⟨.name ⟨⟨47, 55⟩, "template"⟩, some (.literal ⟨56, 58⟩ (.string []) "''")⟩,
      ⟨.name ⟨⟨59, 64⟩, "logic"⟩, some (.arrow ⟨65, 70⟩ false)⟩]
    let module : Module := ⟨("var style='a';export const metadata=\x7bname:'x'\x7d,template=''," ++
        "logic=()=>1;export var style='b';").toList,
      [.declaration (style 4 "a" "'a'"), .exportDeclaration others,
        .exportDeclaration (style 82 "b" "'b'")]⟩
    (module.body.flatMap (exportedNames boundBy)).Nodup ∧
      (∀ required : RequiredExport,
        module.AgreesInPlace boundBy (Text.ofString required.name)) ∧
      ∃ analysis, analyzeModule nestingLimit (module.detached boundBy) = .ok analysis ∧
        analysis.component? = some ⟨⟨"x", none, [], [], []⟩, "b", [], "()=>1"⟩ := by
  intro boundBy style metadata others module
  have distinct : (module.body.flatMap (exportedNames boundBy)).Nodup := by decide
  rcases exportTable_inPlace boundBy module distinct with ⟨onNames, onComponents⟩
  have agrees (required : RequiredExport) :
      module.AgreesInPlace boundBy (Text.ofString required.name) := by
    intro declaration mem declared
    cases required with
    | metadata | template | logic => rfl
    | style =>
        have either : declaration = others ∨ declaration = style 82 "b" "'b'" := by
          simpa [module] using mem
        rcases either with rfl | rfl
        · exact absurd declared (by decide)
        · have ends : (module.definitionsFor "style").getLast? =
              (definitionsOf (style 82 "b" "'b'")).head? := rfl
          refine (onNames _ mem _ declared).2.mpr fun last isLast => ?_
          exact List.mem_of_head? (ends ▸ isLast)
  refine ⟨distinct, agrees, (onComponents agrees nestingLimit _).mpr ?_⟩
  have found : (analyzeModule nestingLimit module).toOption.bind Analysis.component? =
      some ⟨⟨"x", none, [], [], []⟩, "b", [], "()=>1"⟩ := by
    decide +kernel
  rcases Option.bind_eq_some_iff.mp found with ⟨analysis, answered, component⟩
  exact ⟨analysis, toOption_eq_some.mp answered, component⟩

/-- The name and the initial value of a variable, and whether it is exported in place. -/
def initialized? : ModuleStatement → Option (Bool × Text × Text)
  | .exportDeclaration (.variables _ [⟨.name name, some (.literal _ _ raw)⟩]) =>
      some (true, name.text, raw)
  | .declaration (.variables _ [⟨.name name, some (.literal _ _ raw)⟩]) =>
      some (false, name.text, raw)
  | _ => none

theorem exists_of_initialized? {isExported : Bool} {raw : Text}
    (isVariable : initialized? statement = some (isExported, name, raw)) :
    ∃ kind place span literal, ∃ declaration : Declaration Node,
      declaration = .variables kind [⟨.name ⟨place, name⟩, some (.literal span literal raw)⟩] ∧
        statement = if isExported then .exportDeclaration declaration
          else .declaration declaration := by
  unfold initialized? at isVariable
  split at isVariable
  · cases isVariable
    exact ⟨_, _, _, _, _, rfl, rfl⟩
  · cases isVariable
    exact ⟨_, _, _, _, _, rfl, rfl⟩
  · cases isVariable

/-- A variable is declared for a second time after it was exported in place. -/
theorem Module.not_agreesInPlace_of_redeclared : ∃ module : Module,
    Module.parse "export var style = 'a'; var style = 'b';" = .ok module ∧
      ∀ boundBy, (module.body.flatMap (exportedNames boundBy)).Nodup ∧
        ¬module.AgreesInPlace boundBy "style" := by
  have read : (Module.parse "export var style = 'a'; var style = 'b';").toOption.map
      (·.body.map initialized?) =
        some [some (true, ("style" : Text), ("'a'" : Text)), some (false, "style", "'b'")] := by
    decide +kernel
  rcases Option.map_eq_some_iff.mp read with ⟨⟨source, body⟩, parsed, shape⟩
  rcases List.map_eq_cons_iff.mp shape with ⟨first, rest, rfl, isFirst, shape⟩
  rcases List.map_eq_cons_iff.mp shape with ⟨second, rest, rfl, isSecond, shape⟩
  cases List.map_eq_nil_iff.mp shape
  rcases exists_of_initialized? isFirst with ⟨kind, place, span, literal, _, rfl, rfl⟩
  rcases exists_of_initialized? isSecond with ⟨kind', place', span', literal', _, rfl, rfl⟩
  refine ⟨_, toOption_eq_some.mp parsed, fun boundBy => ⟨List.nodup_singleton _, fun agrees => ?_⟩⟩
  have same := agrees _ (List.mem_cons_self ..) (List.mem_singleton_self _)
  -- The two initial values are spelled differently.
  cases same

end ComponentInliner
