import ComponentInliner.Proofs.Component.Analysis
import ComponentInliner.Proofs.Fold.Descent

/-!
# What makes a component

The exports of a module are checked one after the other, and each check leaves a result or a fatal
issue (`Checked.Decides`). So there is a component exactly if every check has a result, and its
record is made of these results.

The exports are folded in turn by one folder, which knows more and more. To a folder that knows
nothing an expression may nest too deep that the folder in turn can fold. The other way round, what
folders that know nothing find is found in turn as well.
-/

namespace ComponentInliner

open Fold Script

/-- There is a component exactly if the module seems to be one and no issue is fatal, and the fatal
issues come first. -/
structure Analysis.Sorted (analysis : Analysis) : Prop where
  component : analysis.component? = none ↔
    analysis.looksLikeComponent = false ∨ ∃ issue ∈ analysis.issues, issue.isFatal = true
  fatalFirst : ∃ fatal warnings, analysis.issues = fatal ++ warnings ∧
    (∀ issue ∈ fatal, issue.isFatal = true) ∧ ∀ issue ∈ warnings, issue.isFatal = false

namespace Component

/-- A check has a result exactly if there is something to be found, and a fatal issue if not. -/
structure Checked.Decides {Result : Type} (checked : Checked Result) (finds : Result → Prop) :
    Prop where
  result : ∀ result, checked.result? = some result ↔ finds result
  fatal : checked.result? = none ↔ ∃ issue ∈ checked.issues, issue.isFatal = true

/-- The strings in a value that is an array; other values have none. -/
def stringsIn : Option Value → List Text
  | some (.array _ elements) => elements.filterMap Value.text?
  | _ => []

/-- The metadata that the properties of an object give. -/
structure GivesMetadata (properties : OrderedMap Text Value) (metadata : Metadata) : Prop where
  name : properties.get? "name" = some (.string metadata.name)
  notBlank : ∃ point ∈ metadata.name, point.isBlank = false
  version : metadata.version? = (properties.get? "version").bind Value.text?
  dependencies : metadata.dependencies = stringsIn (properties.get? "dependencies")
  props : metadata.props = stringsIn (properties.get? "props")
  events : metadata.events = stringsIn (properties.get? "events")

/-- The record that the folded exports of a module show. -/
structure Shows (module : Module) (exports : Exports) (folded : FoldedExports)
    (record : ComponentRecord) : Prop where
  metadata : ∃ span properties, folded.metadata = some (.record span properties) ∧
    GivesMetadata properties record.metadata
  style : folded.style = some (.string record.style)
  template : folded.template = some (.string record.template)
  logic : ∃ definition, logicDefinition? module.bindings exports.logic = some definition ∧
    definition.isFunction = true ∧ record.logicSource = module.textAt definition.span

namespace Checked.Decides

variable {Result : Type} {finds : Result → Prop} {result : Result} {issues : List Issue}

theorem missing {issue : Issue} (isFatal : issue.isFatal = true)
    (nothing : ∀ result, ¬finds result) : Decides ⟨none, [issue]⟩ finds where
  result result := iff_of_false nofun (nothing result)
  fatal := iff_of_true rfl ⟨issue, List.mem_singleton.mpr rfl, isFatal⟩

theorem found (harmless : ∀ issue ∈ issues, issue.isFatal = false)
    (only : ∀ other, finds other ↔ result = other) : Decides ⟨some result, issues⟩ finds where
  result other := (Option.some.injEq result other ▸ (only other).symm :)
  fatal := by
    refine iff_of_false nofun ?_
    rintro ⟨issue, mem, isFatal⟩
    rw [harmless issue mem] at isFatal
    cases isFatal

end Checked.Decides

section Checks

theorem readVersion_result (value? : Option Value) :
    (readVersion (value?.getD .undefined)).result? = value?.bind Value.text? := by
  rcases value? with _ | value
  · rfl
  · cases value <;> rfl

theorem readVersion_issues {value : Value} {issue : Issue}
    (mem : issue ∈ (readVersion value).issues) : issue.isFatal = false := by
  cases value with
  | undefined | string => cases mem
  | _ =>
      rw [List.mem_singleton.mp mem]
      rfl

theorem readList_result (field : ListField) (value? : Option Value) :
    (readList field (value?.getD .undefined)).1 = stringsIn value? := by
  rcases value? with _ | value
  · rfl
  · cases value <;> rfl

theorem readList_issues {field : ListField} {value : Value} {issue : Issue}
    (mem : issue ∈ (readList field value).2) : issue.isFatal = false := by
  cases value with
  | undefined => cases mem
  | array origin elements =>
      unfold readList at mem
      dsimp only at mem
      split at mem
      · cases mem
      · rw [List.mem_singleton.mp mem]
        rfl
  | _ =>
      rw [List.mem_singleton.mp mem]
      rfl

/-- An object without a name that can be seen gives no metadata. -/
theorem readMetadata_nameless {properties : OrderedMap Text Value}
    (nameless : ∀ name, properties.get? "name" = some (.string name) →
      name.all CodePoint.isBlank = true) :
    readMetadata properties = ⟨none, [.nameNotGiven]⟩ := by
  unfold readMetadata
  cases named : properties.get? "name" with
  | none => simp [named]
  | some value =>
      cases value with
      | string name => simp [named, nameless name named]
      | _ => simp [named]

theorem readMetadata_decides (properties : OrderedMap Text Value) :
    (readMetadata properties).Decides (GivesMetadata properties) := by
  by_cases named : ∃ name, properties.get? "name" = some (.string name) ∧
      name.all CodePoint.isBlank = false
  · rcases named with ⟨name, named, visible⟩
    have read : readMetadata properties =
        ⟨some ⟨name, (properties.get? "version").bind Value.text?,
            stringsIn (properties.get? "dependencies"), stringsIn (properties.get? "props"),
            stringsIn (properties.get? "events")⟩,
          (readVersion ((properties.get? "version").getD .undefined)).issues ++
            (readList .dependencies ((properties.get? "dependencies").getD .undefined)).2 ++
            (readList .props ((properties.get? "props").getD .undefined)).2 ++
            (readList .events ((properties.get? "events").getD .undefined)).2⟩ := by
      simp [readMetadata, named, visible, readVersion_result, readList_result]
    rw [read]
    apply Checked.Decides.found
    · intro issue mem
      simp only [List.mem_append] at mem
      rcases mem with ((mem | mem) | mem) | mem
      · exact readVersion_issues mem
      · exact readList_issues mem
      · exact readList_issues mem
      · exact readList_issues mem
    · intro metadata
      constructor
      · intro gives
        rcases metadata with ⟨name', version?, dependencies, props, events⟩
        rcases gives with ⟨named', -, rfl, rfl, rfl, rfl⟩
        cases named.symm.trans named'
        rfl
      · rintro rfl
        rcases List.all_eq_false.mp visible with ⟨point, mem, isVisible⟩
        exact ⟨named, ⟨point, mem, by simpa using isVisible⟩, rfl, rfl, rfl, rfl⟩
  · have nameless : ∀ name, properties.get? "name" = some (.string name) →
        name.all CodePoint.isBlank = true := by
      intro name found
      by_contra visible
      exact named ⟨name, found, by simpa using visible⟩
    rw [readMetadata_nameless nameless]
    apply Checked.Decides.missing rfl
    rintro metadata ⟨found, ⟨point, mem, visible⟩⟩
    have isBlank := List.all_eq_true.mp (nameless _ found) point mem
    cases visible.symm.trans isBlank

theorem checkMetadata_decides (folded : Option Value) :
    (checkMetadata folded).Decides fun metadata =>
      ∃ span properties, folded = some (.record span properties) ∧
        GivesMetadata properties metadata := by
  by_cases isRecord : ∃ span properties, folded = some (.record span properties)
  · rcases isRecord with ⟨span, properties, rfl⟩
    have decides := readMetadata_decides properties
    refine ⟨fun metadata => (decides.result metadata).trans ?_, decides.fatal⟩
    constructor
    · intro gives
      exact ⟨span, properties, rfl, gives⟩
    · rintro ⟨span', properties', same, gives⟩
      cases same
      exact gives
  · have checked : checkMetadata folded = ⟨none, [.metadataNotObject]⟩ := by
      rcases folded with _ | value
      · rfl
      · cases value with
        | record span properties => exact absurd ⟨span, properties, rfl⟩ isRecord
        | _ => rfl
    rw [checked]
    apply Checked.Decides.missing rfl
    rintro metadata ⟨span, properties, same, -⟩
    exact isRecord ⟨span, properties, same⟩

theorem checkString_decides (required : RequiredExport) (folded : Option Value) :
    (checkString required folded).Decides fun text => folded = some (.string text) := by
  by_cases isString : ∃ text, folded = some (.string text)
  · rcases isString with ⟨text, rfl⟩
    exact .found (List.forall_mem_nil _) fun other => by simp
  · have checked : checkString required folded = ⟨none, [.notConstantString required]⟩ := by
      rcases folded with _ | value
      · rfl
      · cases value with
        | string text => exact absurd ⟨text, rfl⟩ isString
        | _ => rfl
    rw [checked]
    exact .missing rfl fun text same => isString ⟨text, same⟩

theorem checkLogic_decides (module : Module) (bindings : BindingTable) (target : ExportTarget) :
    (checkLogic module bindings target).Decides fun source =>
      ∃ definition, logicDefinition? bindings target = some definition ∧
        definition.isFunction = true ∧ source = module.textAt definition.span := by
  unfold checkLogic
  cases found : logicDefinition? bindings target with
  | none => exact .missing rfl fun source ⟨definition, same, _⟩ => nomatch same
  | some definition =>
      by_cases isFunction : definition.isFunction = true
      · simp only [isFunction, if_true]
        apply Checked.Decides.found (List.forall_mem_nil _)
        intro source
        constructor
        · rintro ⟨other, same, -, rfl⟩
          cases same
          rfl
        · rintro rfl
          exact ⟨definition, rfl, isFunction, rfl⟩
      · simp only [isFunction]
        apply Checked.Decides.missing rfl
        rintro source ⟨other, same, isFunction', -⟩
        cases same
        exact isFunction isFunction'

end Checks

section Analyses

variable {module : Module} {exports : Exports} {folded : FoldedExports} {limit : Nat}

theorem checkExports_component? {record : ComponentRecord} :
    (checkExports module module.bindings exports folded).component? = some record ↔
      Shows module exports folded record := by
  have metadata := (checkMetadata_decides folded.metadata).result record.metadata
  have style := (checkString_decides .style folded.style).result record.style
  have template := (checkString_decides .template folded.template).result record.template
  have logic := (checkLogic_decides module module.bindings exports.logic).result record.logicSource
  constructor
  · intro found
    rcases Option.bind_eq_some_iff.mp found with ⟨_, hasMetadata, found⟩
    rcases Option.bind_eq_some_iff.mp found with ⟨_, hasStyle, found⟩
    rcases Option.bind_eq_some_iff.mp found with ⟨_, hasTemplate, found⟩
    rcases Option.bind_eq_some_iff.mp found with ⟨_, hasLogic, ⟨⟩⟩
    exact ⟨metadata.mp hasMetadata, style.mp hasStyle, template.mp hasTemplate, logic.mp hasLogic⟩
  · intro shows
    simp only [checkExports, metadata.mpr shows.metadata, style.mpr shows.style,
      template.mpr shows.template, logic.mpr shows.logic]
    rfl

theorem bind_eq_none {First Second Third Fourth Result : Type} (first : Option First)
    (second : Option Second) (third : Option Third) (fourth : Option Fourth)
    (make : First → Second → Third → Fourth → Result) :
    (do return make (← first) (← second) (← third) (← fourth)) = none ↔
      first = none ∨ second = none ∨ third = none ∨ fourth = none := by
  cases first <;> cases second <;> cases third <;> cases fourth <;> simp

theorem checkExports_sorted : (checkExports module module.bindings exports folded).Sorted := by
  have metadata := (checkMetadata_decides folded.metadata).fatal
  have style := (checkString_decides .style folded.style).fatal
  have template := (checkString_decides .template folded.template).fatal
  have logic := (checkLogic_decides module module.bindings exports.logic).fatal
  constructor
  · have unfinished : (checkExports module module.bindings exports folded).component? = none ↔
        (checkMetadata folded.metadata).result? = none ∨
          (checkString .style folded.style).result? = none ∨
          (checkString .template folded.template).result? = none ∨
          (checkLogic module module.bindings exports.logic).result? = none := by
      exact bind_eq_none _ _ _ _ ComponentRecord.mk
    have anyFatal (issues : List Issue) :
        (∃ issue ∈ issues.filter Issue.isFatal ++ issues.filter (fun issue => !issue.isFatal),
          issue.isFatal = true) ↔ ∃ issue ∈ issues, issue.isFatal = true := by
      constructor
      · rintro ⟨issue, mem, isFatal⟩
        rcases List.mem_append.mp mem with mem | mem
        · exact ⟨issue, (List.mem_filter.mp mem).1, isFatal⟩
        · exact ⟨issue, (List.mem_filter.mp mem).1, isFatal⟩
      · rintro ⟨issue, mem, isFatal⟩
        exact ⟨issue, List.mem_append_left _ (List.mem_filter.mpr ⟨mem, isFatal⟩), isFatal⟩
    rw [unfinished, metadata, style, template, logic]
    simp only [checkExports, Bool.true_eq_false, false_or]
    rw [anyFatal]
    simp only [List.mem_append, or_and_right, exists_or, or_assoc]
  · refine ⟨_, _, rfl, ?_, ?_⟩
    · intro issue mem
      simpa using (List.mem_filter.mp mem).2
    · intro issue mem
      simpa using (List.mem_filter.mp mem).2

theorem componentExports?_eq : componentExports? module = Exports.find? module.exportTable := by
  cases found : Exports.find? module.exportTable with
  | none => simp [componentExports?, found]
  | some exports =>
      rcases Option.bind_eq_some_iff.mp found with ⟨metadata, hasMetadata, -⟩
      have seems : seemsComponent module.exportTable = true := by
        simp [seemsComponent, presentExports, RequiredExport.all, hasMetadata]
      simp [componentExports?, seems, found]

/-- A module in which an export of a component is missing is no component. -/
theorem analyzeModule_unfound (limit : Nat) (unfound : Exports.find? module.exportTable = none) :
    ∃ analysis, analyzeModule limit module = .ok analysis ∧ analysis.component? = none ∧
      analysis.Sorted ∧ (analysis.looksLikeComponent = false → analysis.issues = []) := by
  by_cases seems : seemsComponent module.exportTable = true
  · let missing := RequiredExport.all.filter fun required =>
      (exported? module.exportTable required).isNone
    have someMissing : ∃ required, required ∈ missing := by
      by_contra noneMissing
      have present (required : RequiredExport) (mem : required ∈ RequiredExport.all) :
          ∃ target, exported? module.exportTable required = some target := by
        rw [← Option.isSome_iff_exists, ← Option.not_isNone]
        by_contra isMissing
        exact noneMissing ⟨required, List.mem_filter.mpr ⟨mem, by simpa using isMissing⟩⟩
      rcases present .metadata (by decide) with ⟨metadata, hasMetadata⟩
      rcases present .style (by decide) with ⟨style, hasStyle⟩
      rcases present .template (by decide) with ⟨template, hasTemplate⟩
      rcases present .logic (by decide) with ⟨logic, hasLogic⟩
      simp [Exports.find?, hasMetadata, hasStyle, hasTemplate, hasLogic] at unfound
    refine ⟨⟨none, missing.map .missingExport, true⟩, ?_, rfl, ?_, nofun⟩
    · unfold Module.exportTable at seems unfound
      simp [analyzeModule, seems, unfound, missing, Module.exportTable]
    · have allFatal : ∀ issue ∈ missing.map Issue.missingExport, issue.isFatal = true := by
        intro issue mem
        rcases List.mem_map.mp mem with ⟨required, -, rfl⟩
        rfl
      rcases someMissing with ⟨required, mem⟩
      refine ⟨iff_of_true rfl (.inr ⟨.missingExport required, ?_, rfl⟩), _, [], ?_, allFatal, ?_⟩
      · exact List.mem_map_of_mem mem
      · rw [List.append_nil]
      · exact List.forall_mem_nil _
  · refine ⟨⟨none, [], false⟩, ?_, rfl, ?_, fun _ => rfl⟩
    · unfold Module.exportTable at seems
      simp [analyzeModule, seems]
    · exact ⟨iff_of_true rfl (.inl rfl), [], [], rfl, List.forall_mem_nil _, List.forall_mem_nil _⟩

end Analyses

section Folders

variable {bindings : BindingTable} {limit : Nat} {exports : Exports} {folded : FoldedExports}
  {target : ExportTarget}

/-- A folder that folds the exports one after the other comes to the results. -/
def FoldsInTurn (limit : Nat) (bindings : BindingTable) (exports : Exports)
    (folded : FoldedExports) : Prop :=
  ((foldExports bindings limit exports).run.run .empty).1 = .ok folded

/-- Folders that know nothing come to the results, one for each export. -/
structure FoldsAfresh (limit : Nat) (bindings : BindingTable) (exports : Exports)
    (folded : FoldedExports) : Prop where
  metadata : ((foldTarget bindings limit exports.metadata).run.run .empty).1 = .ok folded.metadata
  style : ((foldTarget bindings limit exports.style).run.run .empty).1 = .ok folded.style
  template : ((foldTarget bindings limit exports.template).run.run .empty).1 = .ok folded.template

/-- No export has another result, but some may have none. -/
structure FoldedExports.Within (fewer folded : FoldedExports) : Prop where
  metadata : fewer.metadata = none ∨ fewer.metadata = folded.metadata
  style : fewer.style = none ∨ fewer.style = folded.style
  template : fewer.template = none ∨ fewer.template = folded.template

theorem foldTarget_exceeded (target : ExportTarget) :
    (exceeding bindings).Keeps (foldTarget bindings limit target)
      (foldTarget bindings limit target) := by
  cases target with
  | unresolved span => exact .pure
  | definition definition =>
      cases definition with
      | expression node => exact fold_exceeded bindings le_rfl [] node
      | function head | classLike head => exact .pure

theorem foldsInTurn_iff : FoldsInTurn limit bindings exports folded ↔ ∃ first second third,
    Runs (foldTarget bindings limit exports.metadata) .empty folded.metadata first ∧
      Runs (foldTarget bindings limit exports.style) first folded.style second ∧
      Runs (foldTarget bindings limit exports.template) second folded.template third := by
  unfold FoldsInTurn
  rw [comesTo_iff]
  constructor
  · rintro ⟨third, ran⟩
    rcases Runs.bind_iff.mp ran with ⟨metadata, first, onMetadata, ran⟩
    rcases Runs.bind_iff.mp ran with ⟨style, second, onStyle, ran⟩
    rcases Runs.bind_iff.mp ran with ⟨template, last, onTemplate, ran⟩
    rcases Runs.pure_iff.mp ran with ⟨rfl, rfl⟩
    exact ⟨first, second, last, onMetadata, onStyle, onTemplate⟩
  · rintro ⟨first, second, third, onMetadata, onStyle, onTemplate⟩
    refine ⟨third, Runs.andThen onMetadata ?_⟩
    refine Runs.andThen onStyle (Runs.andThen onTemplate ?_)
    exact Runs.idle

/-- What folders that know nothing find is found in turn. -/
theorem FoldsAfresh.inTurn {metadata style template : Value}
    (afresh : FoldsAfresh limit bindings exports ⟨some metadata, some style, some template⟩) :
    FoldsInTurn limit bindings exports ⟨some metadata, some style, some template⟩ := by
  rcases comesTo_iff.mp afresh.metadata with ⟨afterMetadata, onMetadata⟩
  rcases comesTo_iff.mp afresh.style with ⟨afterStyle, onStyle⟩
  rcases comesTo_iff.mp afresh.template with ⟨afterTemplate, onTemplate⟩
  have sureEmpty := FoldMemo.Sure.empty bindings
  rcases foldTarget_exceeded _ _ _ _ onMetadata _ sureEmpty sureEmpty (.refl _) with
    ⟨-, first, inTurnMetadata, sureFirst, -⟩
  rcases foldTarget_exceeded _ _ _ _ onStyle first sureEmpty sureFirst (.of_empty first) with
    ⟨-, second, inTurnStyle, sureSecond, -⟩
  rcases foldTarget_exceeded _ _ _ _ onTemplate second sureEmpty sureSecond (.of_empty second) with
    ⟨-, third, inTurnTemplate, -, -⟩
  exact foldsInTurn_iff.mpr ⟨first, second, third, inTurnMetadata, inTurnStyle, inTurnTemplate⟩

theorem FoldsInTurn.tells {enough : Prop} (inTurn : FoldsInTurn limit bindings exports folded)
    (fits : enough → ∀ node ∈ exports.foldedNodes,
      node.nesting + definitionNesting [] bindings ≤ limit) :
    folded.Tells bindings enough exports := by
  have meets : ((Watched.nothing bindings).terms enough (fun _ => True) []).Meets
      (foldExports bindings limit exports) fun folded => folded.Tells bindings enough exports ∧
        (enough → ∀ _ ∈ exports.foldedNodes, True) :=
    foldExports_meets (fun _ _ _ _ => trivial) (fun _ _ => trivial) (fun _ _ => trivial) fits
  rcases comesTo_iff.mp inTurn with ⟨after, ran⟩
  exact (meets.runs Watched.knows_empty ran).2.1

/-- A folder that knows nothing finds the value of an export, or nothing if there is no room. -/
theorem foldTarget_afresh {enough : Prop} {value : Value} (has : target.Has bindings value)
    (fits : enough → ∀ node, target.node? = some node →
      node.nesting + definitionNesting [] bindings ≤ limit) :
    ∃ result, ((foldTarget bindings limit target).run.run .empty).1 = .ok result ∧
      (result = none ∨ result = some value) ∧ (enough → result = some value) := by
  rcases has with ⟨node, stands, denotes⟩
  have meets : ((Watched.nothing bindings).terms enough
      (Relation.ReflTransGen (Demands bindings) node) []).Meets
      (foldTarget bindings limit target) fun result => Tells enough (target.Has bindings) result ∧
        (enough → ∀ node, target.node? = some node → True) := by
    refine foldTarget_meets (fun _ _ reaches demands => reaches.tail demands) ?_
      (fun _ _ => trivial) fits
    intro other stands'
    cases stands.symm.trans stands'
    exact .refl
  have ran := meets .empty Watched.knows_empty
  split at ran
  · next result after outcome =>
      refine ⟨result, by rw [outcome], ?_, fun isEnough => ?_⟩
      · cases result with
        | none => exact .inl rfl
        | some found =>
            rcases ran.2.1.sound found rfl with ⟨other, stands', denotes'⟩
            cases stands.symm.trans stands'
            rw [denotes.unique denotes']
            exact .inr rfl
      · exact ran.2.1.complete isEnough value ⟨node, stands, denotes⟩
  · next fault after outcome =>
      rcases ran with ⟨⟨⟨bad, reaches, breaks⟩, -⟩, -⟩
      exact absurd breaks (denotes.unbroken reaches)

/-- Folders that know nothing find the values that are found in turn, or nothing where there is no
room. -/
theorem FoldsInTurn.afresh {enough : Prop} {metadata style template : Value}
    (inTurn : FoldsInTurn limit bindings exports ⟨some metadata, some style, some template⟩)
    (fits : enough → ∀ node ∈ exports.foldedNodes,
      node.nesting + definitionNesting [] bindings ≤ limit) :
    ∃ fresh, FoldsAfresh limit bindings exports fresh ∧
      fresh.Within ⟨some metadata, some style, some template⟩ ∧
      (enough → fresh = ⟨some metadata, some style, some template⟩) := by
  have tells := inTurn.tells fits
  have isFolded (target : ExportTarget)
      (mem : target ∈ [exports.metadata, exports.style, exports.template]) (isEnough : enough)
      (node : Node) (stands : target.node? = some node) :
      node.nesting + definitionNesting [] bindings ≤ limit :=
    fits isEnough node (List.mem_filterMap.mpr ⟨target, mem, stands⟩)
  rcases foldTarget_afresh tells.metadata.holding (isFolded exports.metadata (by simp)) with
    ⟨freshMetadata, onMetadata, withinMetadata, sameMetadata⟩
  rcases foldTarget_afresh tells.style.holding (isFolded exports.style (by simp)) with
    ⟨freshStyle, onStyle, withinStyle, sameStyle⟩
  rcases foldTarget_afresh tells.template.holding (isFolded exports.template (by simp)) with
    ⟨freshTemplate, onTemplate, withinTemplate, sameTemplate⟩
  refine ⟨⟨freshMetadata, freshStyle, freshTemplate⟩, ⟨onMetadata, onStyle, onTemplate⟩,
    ⟨withinMetadata, withinStyle, withinTemplate⟩, fun isEnough => ?_⟩
  rw [sameMetadata isEnough, sameStyle isEnough, sameTemplate isEnough]

end Folders

section Sources

variable {read : SourceReader} {limit : Nat} {source : Text} {module : Module} {exports : Exports}
  {analysis : Analysis}

theorem analyzeWith_unparsed {fault : ModuleFault}
    (failed : Module.parseWith read source = .error fault)
    (answered : analyzeWith read limit source = .ok analysis) :
    analysis = ⟨none, [.unreadable fault], Hint.looksLikeComponent source⟩ := by
  simp only [analyzeWith, failed] at answered
  split at answered
  · exact (Except.ok.inj answered).symm
  · cases answered

theorem analyzeWith_parsed (parsed : Module.parseWith read source = .ok module)
    (answered : analyzeWith read limit source = .ok analysis) :
    analyzeModule limit module = .ok analysis := by
  simp only [analyzeWith, parsed] at answered
  cases returned : analyzeModule limit module with
  | error fault => simp [returned, Except.mapError] at answered
  | ok other => simpa [returned, Except.mapError] using answered

/-- A module that exports all that a component has is checked once its exports are folded. -/
theorem analyzeModule_found (found : Exports.find? module.exportTable = some exports)
    (answered : analyzeModule limit module = .ok analysis) :
    ∃ folded, FoldsInTurn limit module.bindings exports folded ∧
      analysis = checkExports module module.bindings exports folded := by
  rw [analyzeModule_eq (componentExports?_eq.trans found)] at answered
  unfold FoldsInTurn
  cases inTurn : ((foldExports module.bindings limit exports).run.run .empty).1 with
  | error fault => simp [inTurn, Except.map] at answered
  | ok folded =>
      rw [inTurn] at answered
      exact ⟨folded, rfl, (Except.ok.inj answered).symm⟩

theorem analyzeModule_component? (answered : analyzeModule limit module = .ok analysis)
    (record : ComponentRecord) :
    analysis.component? = some record ↔ ∃ exports folded,
      Exports.find? module.exportTable = some exports ∧
        FoldsInTurn limit module.bindings exports folded ∧ Shows module exports folded record := by
  cases found : Exports.find? module.exportTable with
  | none =>
      rcases analyzeModule_unfound limit found with ⟨other, returned, noComponent, -⟩
      cases answered.symm.trans returned
      rw [noComponent]
      exact iff_of_false nofun fun ⟨_, _, impossible, _⟩ => nomatch impossible
  | some exports =>
      rcases analyzeModule_found found answered with ⟨folded, inTurn, rfl⟩
      rw [checkExports_component?]
      constructor
      · exact fun shows => ⟨exports, folded, rfl, inTurn, shows⟩
      · rintro ⟨_, other, ⟨⟩, inTurn', shows⟩
        cases inTurn.symm.trans inTurn'
        exact shows

/-- A module comes to be a component exactly if its exports can be folded and show a record. -/
theorem exists_component_iff {record : ComponentRecord} :
    (∃ analysis, analyzeModule limit module = .ok analysis ∧ analysis.component? = some record) ↔
      ∃ exports folded, Exports.find? module.exportTable = some exports ∧
        FoldsInTurn limit module.bindings exports folded ∧ Shows module exports folded record := by
  constructor
  · rintro ⟨analysis, answered, component⟩
    exact (analyzeModule_component? answered record).mp component
  · rintro ⟨exports, folded, found, inTurn, shows⟩
    refine ⟨checkExports module module.bindings exports folded, ?_,
      checkExports_component?.mpr shows⟩
    rw [analyzeModule_eq (componentExports?_eq.trans found), inTurn]
    rfl

theorem analyzeModule_sorted (answered : analyzeModule limit module = .ok analysis) :
    analysis.Sorted ∧ (analysis.looksLikeComponent = false → analysis.issues = []) := by
  cases found : Exports.find? module.exportTable with
  | none =>
      rcases analyzeModule_unfound limit found with ⟨other, returned, -, sorted⟩
      cases answered.symm.trans returned
      exact sorted
  | some exports =>
      rcases analyzeModule_found found answered with ⟨folded, -, rfl⟩
      exact ⟨checkExports_sorted, nofun⟩

end Sources

/--
A source whose analysis comes to an answer, whatever reads its statements. There is a component
exactly if the source can be parsed, exports all that a component has, and the folded exports show
its record; the exports are folded in turn by one folder. The values that it finds are those that
the exports have. It finds all that folders that know nothing find for each export; these may find
nothing instead where folding may not nest deep enough, but never another value.
-/
theorem analyzeWith_classifies (read : SourceReader) (limit : Nat) (source : Text)
    (analysis : Analysis) (answered : analyzeWith read limit source = .ok analysis) :
    (∀ record, analysis.component? = some record ↔
      ∃ module exports folded, Module.parseWith read source = .ok module ∧
        Exports.find? module.exportTable = some exports ∧
        FoldsInTurn limit module.bindings exports folded ∧
        Shows module exports folded record) ∧
    (∀ module exports folded record, Module.parseWith read source = .ok module →
      Exports.find? module.exportTable = some exports → Shows module exports folded record →
      (FoldsAfresh limit module.bindings exports folded →
        FoldsInTurn limit module.bindings exports folded) ∧
      (FoldsInTurn limit module.bindings exports folded →
        folded.Tells module.bindings (Fits limit module) exports ∧
        ∃ fresh, FoldsAfresh limit module.bindings exports fresh ∧ fresh.Within folded ∧
          (Fits limit module → fresh = folded))) ∧
    analysis.Sorted ∧
    ∀ module, Module.parseWith read source = .ok module → analysis.looksLikeComponent = false →
      analysis.issues = [] := by
  refine ⟨?_, ?_, ?_⟩
  · intro record
    cases parsed : Module.parseWith read source with
    | error fault =>
        rw [analyzeWith_unparsed parsed answered]
        exact iff_of_false nofun fun ⟨_, _, _, impossible, _⟩ => nomatch impossible
    | ok module =>
        rw [analyzeModule_component? (analyzeWith_parsed parsed answered) record]
        constructor
        · rintro ⟨exports, folded, shown⟩
          exact ⟨module, exports, folded, rfl, shown⟩
        · rintro ⟨_, exports, folded, ⟨⟩, shown⟩
          exact ⟨exports, folded, shown⟩
  · intro module exports folded record parsed found shows
    have fits (isEnough : Fits limit module) (node : Node) (mem : node ∈ exports.foldedNodes) :
        node.nesting + definitionNesting [] module.bindings ≤ limit :=
      isEnough node (foldedNodes_eq (componentExports?_eq.trans found) ▸ mem)
    rcases folded with ⟨metadata, style, template⟩
    rcases shows with ⟨⟨span, properties, rfl, -⟩, rfl, rfl, -⟩
    exact ⟨FoldsAfresh.inTurn, fun inTurn => ⟨inTurn.tells fits, inTurn.afresh fits⟩⟩
  · cases parsed : Module.parseWith read source with
    | error fault =>
        rw [analyzeWith_unparsed parsed answered]
        refine ⟨⟨iff_of_true rfl (.inr ⟨_, List.mem_singleton.mpr rfl, rfl⟩),
          [.unreadable fault], [], rfl, ?_, ?_⟩, nofun⟩
        · intro issue mem
          rw [List.mem_singleton.mp mem]
          rfl
        · exact List.forall_mem_nil _
    | ok module =>
        have sorted := analyzeModule_sorted (analyzeWith_parsed parsed answered)
        exact ⟨sorted.1, fun _ _ => sorted.2⟩

/-- A component one of whose events is no string. -/
theorem analyzeWith_classifies_of_warned :
    let source : Text :=
      "export const metadata=\x7bname:'x',events:['a',1]\x7d,style='',template='',logic=()=>1"
    let record : ComponentRecord := ⟨⟨"x", none, [], [], ["a"]⟩, "", "", "()=>1"⟩
    let analysis : Analysis := ⟨some record, [.notOnlyStrings .events], true⟩
    analyzeWithin Fold.nestingLimit source = .ok analysis ∧ analysis.Sorted ∧
      ∃ module exports folded, Module.parse source = .ok module ∧
        Exports.find? module.exportTable = some exports ∧
        FoldsInTurn Fold.nestingLimit module.bindings exports folded ∧
        Shows module exports folded record := by
  intro source record analysis
  have answered : analyzeWithin Fold.nestingLimit source = .ok analysis := by decide +kernel
  rcases analyzeWith_classifies readStatements Fold.nestingLimit source analysis answered with
    ⟨component, -, sorted, -⟩
  exact ⟨answered, sorted, (component record).mp rfl⟩

section Outgrown

variable {module : Module} {exports : Exports} {limit : Nat}

/-- The markup is found only after a name in a substitution of the style sheet has been met. -/
def outgrows (limit : Nat) (module : Module) (exports : Exports) (name : Text) : Bool :=
  let bindings := module.bindings
  match exports with
  | ⟨.definition (.expression metadata), .definition (.expression (.template span head parts)),
      .definition (.expression (.unary place .typeof argument)), logic⟩ =>
      (match ((fold bindings limit [] metadata).run.run .empty).1 with
        | .ok value => (checkMetadata value).result?.isSome
        | .error _ => false) &&
      arrives bindings limit [] [] (.template span head parts) &&
      (parts.any fun part => match part.1 with
        | .identifier _ own => decide (own = name)
        | _ => false) &&
      decide (name ≠ "undefined") && (bindings.get? name).isSome &&
      arrives bindings limit [name] [] (.unary place .typeof argument) &&
      exhausts bindings limit [] (.unary place .typeof argument) &&
      (checkLogic module bindings logic).result?.isSome
  | _ => false

/-- A folder that knows nothing does not find the markup, the folder in turn does. -/
theorem outgrows_spec {name : Text} (outgrown : outgrows limit module exports name = true) :
    ∃ folded record, FoldsInTurn limit module.bindings exports folded ∧
      Shows module exports folded record ∧
      ∀ fresh, FoldsAfresh limit module.bindings exports fresh → fresh.template = none := by
  unfold outgrows at outgrown
  split at outgrown
  · next metadata span head parts place argument logic =>
      simp only [Bool.and_eq_true, decide_eq_true_eq] at outgrown
      rcases outgrown with
        ⟨⟨⟨⟨⟨⟨⟨onMetadata, styled⟩, mentioned⟩, ordinary⟩, defined⟩, marked⟩, deep⟩, isLogic⟩
      split at onMetadata
      · next value came =>
          rcases Option.isSome_iff_exists.mp onMetadata with ⟨readMetadata, onMetadata⟩
          rcases Option.isSome_iff_exists.mp isLogic with ⟨logicSource, onLogic⟩
          have isRecord := ((checkMetadata_decides value).result readMetadata).mp onMetadata
          rcases isRecord with ⟨origin, properties, rfl, gives⟩
          rcases comesTo_iff.mp came with ⟨first, ranMetadata⟩
          have learned := fold_learns _ _ _ _ _ _ _ ranMetadata (.empty _)
          rcases fold_arrives _ _ _ [] _ first styled learned.sure (List.forall_mem_nil _) with
            ⟨style, second, ranStyle, learnedStyle, -⟩
          have isKnown : second.KnowsName name := by
            rcases List.any_eq_true.mp mentioned with ⟨⟨node, following⟩, mem, isName⟩
            split at isName
            · next place own same =>
                cases same
                cases of_decide_eq_true isName
                rcases Option.isSome_iff_exists.mp defined with ⟨definition, found⟩
                have nameKnown := substitution_known learnedStyle.sure ⟨_, learnedStyle.known⟩ mem
                exact learnedStyle.sure.name_known nameKnown ordinary found
            · cases isName
          rcases fold_arrives _ _ _ [name] _ second marked learnedStyle.sure
            (List.forall_mem_singleton.mpr isKnown) with
            ⟨template, third, ranTemplate, learnedTemplate, -⟩
          have isText : ∃ text, style = .string text := by
            rcases learnedStyle.sure.denotes _ _ learnedStyle.known with ⟨_, ⟨⟩, denotes⟩
            cases denotes_iff_rule.mp denotes with
            | template filled => exact ⟨_, rfl⟩
          have isMarkup : ∃ text, template = .string text := by
            rcases learnedTemplate.sure.denotes _ _ learnedTemplate.known with ⟨_, ⟨⟩, denotes⟩
            cases denotes_iff_rule.mp denotes with
            | unary _ _ computed => exact ⟨_, (Option.some.inj computed).symm⟩
          rcases isText with ⟨text, rfl⟩
          rcases isMarkup with ⟨markup, rfl⟩
          refine ⟨⟨some (.record origin properties), some (.string text), some (.string markup)⟩,
            ⟨readMetadata, text, markup, logicSource⟩,
            foldsInTurn_iff.mpr ⟨first, second, third, ranMetadata, ranStyle, ranTemplate⟩,
            ⟨⟨origin, properties, rfl, gives⟩, rfl, rfl, ?_⟩, ?_⟩
          · exact ((checkLogic_decides module module.bindings logic).result logicSource).mp onLogic
          · intro fresh afresh
            have missing := comesTo_iff.mpr (fold_of_exhausts deep)
            exact (Except.ok.inj (missing.symm.trans afresh.template)).symm
      · cases onMetadata
  · cases outgrown

/-- Names in a row, each of which stands for the one before it behind many operators; the style
sheet mentions all of them, and the markup the last one. -/
def chainedSource : Text :=
  let nots : Text := List.replicate 58 '!'
  let names : Text := "abcdefghij"
  Text.ofString "const a=" ++ nots ++ Text.ofString "0" ++
    ((names.zip names.tail).flatMap fun (name, next) =>
      Text.ofString "," ++ [next] ++ Text.ofString "=" ++ nots ++ [name]) ++
    Text.ofString ";export const metadata=\x7bname:'x'\x7d,style=\x60" ++
    (names.flatMap fun name => Text.ofString "$\x7b" ++ [name] ++ Text.ofString "\x7d") ++
    Text.ofString "\x60,template=typeof j,logic=()=>1"

theorem chainedSource_outgrows : (match Module.parse chainedSource with
    | .ok module => (Exports.find? module.exportTable).any fun exports =>
        outgrows Fold.nestingLimit module exports "j"
    | .error _ => false) = true := by
  decide +kernel

/-- Folders that know nothing do not find all components: a chain of names may be too long for them
that the folder in turn meets link by link. -/
theorem analyze_afresh_of_chain :
    ¬∀ source analysis record, analyze source = .ok analysis →
      (analysis.component? = some record ↔ ∃ module exports folded,
        Module.parse source = .ok module ∧ Exports.find? module.exportTable = some exports ∧
          FoldsAfresh Fold.nestingLimit module.bindings exports folded ∧
          Shows module exports folded record) := by
  intro classified
  have outgrown := chainedSource_outgrows
  cases parsed : Module.parse chainedSource with
  | error fault => simp [parsed] at outgrown
  | ok module =>
      simp only [parsed, Option.any_eq_true] at outgrown
      rcases outgrown with ⟨exports, found, outgrown⟩
      rcases outgrows_spec outgrown with ⟨folded, record, inTurn, shows, missing⟩
      have answered : analyze chainedSource =
          .ok (checkExports module module.bindings exports folded) := by
        have returned : analyzeModule Fold.nestingLimit module =
            .ok (checkExports module module.bindings exports folded) := by
          rw [analyzeModule_eq (componentExports?_eq.trans found), inTurn]
          rfl
        simp [analyze, analyzeWithin, analyzeWith, show Module.parseWith readStatements _ = _ from
          parsed, returned, Except.mapError]
      rcases (classified _ _ record answered).mp (checkExports_component?.mpr shows) with
        ⟨module', exports', fresh, parsed', found', afresh, shows'⟩
      cases parsed.symm.trans parsed'
      cases found.symm.trans found'
      cases (missing fresh afresh).symm.trans shows'.template

end Outgrown

end Component

end ComponentInliner
