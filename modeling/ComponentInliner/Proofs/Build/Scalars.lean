import ComponentInliner.Proofs.Build.Finishing
import ComponentInliner.Proofs.Component.Classification
import ComponentInliner.Proofs.Fold.Scalars
import ComponentInliner.Proofs.Html.Scalars

/-!
# Builds without surrogates

If no module spells a surrogate in what its exports need, then no surrogate comes into the records
of a session, and none into the documents that are edited in it.

What is said of the steps of a build is said by `Leads`: from where a step begins, what it comes to,
and with which faults it may end early.
-/

namespace ComponentInliner

open Text

/-- Where a property holds of the state, an action comes to a result and a state with another
property, or it ends early with one of the expected faults. -/
def Leads {Fault State Result : Type} (before : State → Prop)
    (action : ExceptT Fault (StateM State) Result) (after : Result → State → Prop)
    (expected : Fault → Prop) : Prop :=
  ∀ state, before state →
    match action.run.run state with
    | (.ok result, last) => after result last
    | (.error fault, _) => expected fault

namespace Leads

variable {Fault State Result Next Item : Type} {before : State → Prop} {expected : Fault → Prop}
  {action : ExceptT Fault (StateM State) Result} {after : Result → State → Prop}

theorem pure {result : Result} (holds : ∀ state, before state → after result state) :
    Leads before (pure result) after expected :=
  holds

theorem throw {fault : Fault} (isExpected : expected fault) :
    Leads before (throw fault : ExceptT Fault (StateM State) Result) after expected :=
  fun _ _ => isExpected

theorem get : Leads before (get : ExceptT Fault (StateM State) State)
    (fun result state => result = state ∧ before state) expected :=
  fun _ holds => ⟨rfl, holds⟩

theorem bind {next : Result → ExceptT Fault (StateM State) Next} {last : Next → State → Prop}
    (first : Leads before action after expected)
    (second : ∀ result, Leads (after result) (next result) last expected) :
    Leads before (action >>= next) last expected := by
  intro state holds
  have onFirst := first state holds
  rw [ExceptT.run_bind, StateT.run_bind]
  rcases ran : action.run.run state with ⟨fault | result, middle⟩
  · rw [ran] at onFirst
    exact onFirst
  · rw [ran] at onFirst
    exact second result middle onFirst

theorem weaken {more : Result → State → Prop} (leads : Leads before action after expected)
    (weaker : ∀ result state, after result state → more result state) :
    Leads before action more expected := by
  intro state holds
  have onState := leads state holds
  rcases ran : action.run.run state with ⟨fault | result, last⟩
  · rw [ran] at onState
    exact onState
  · rw [ran] at onState
    exact weaker result last onState

/-- What does not depend on the state is known as soon as it holds at the beginning. -/
theorem given {fact : Prop} (leads : fact → Leads before action after expected) :
    Leads (fun state => fact ∧ before state) action after expected :=
  fun state holds => leads holds.1 state holds.2

/-- What every step of a loop keeps holds after the loop. -/
theorem forEach {action : Item → ExceptT Fault (StateM State) Unit} (items : List Item)
    (keeps : ∀ item ∈ items, Leads before (action item) (fun _ => before) expected) :
    Leads before (forIn items PUnit.unit fun item _ => do
      action item
      return ForInStep.yield PUnit.unit) (fun _ => before) expected := by
  induction items with
  | nil => exact pure fun _ holds => holds
  | cons item rest ih =>
      rw [List.forIn_cons, bind_assoc]
      refine (keeps item (List.mem_cons_self ..)).bind fun _ => ?_
      rw [pure_bind]
      exact ih fun later mem => keeps later (List.mem_cons_of_mem _ mem)

theorem mapM {action : Item → ExceptT Fault (StateM State) Result} {found : Result → Prop}
    (items : List Item) (keeps : ∀ item ∈ items,
      Leads before (action item) (fun result state => found result ∧ before state) expected) :
    Leads before (items.mapM action)
      (fun results state => (∀ result ∈ results, found result) ∧ before state) expected := by
  induction items with
  | nil => exact pure fun _ holds => ⟨fun _ mem => (nomatch mem), holds⟩
  | cons item rest ih =>
      rw [List.mapM_cons]
      refine (keeps item (List.mem_cons_self ..)).bind fun first => given fun isFound => ?_
      have onRest := ih fun later mem => keeps later (List.mem_cons_of_mem _ mem)
      refine onRest.bind fun results => pure fun state holds => ?_
      exact ⟨List.forall_mem_cons.mpr ⟨isFound, holds.1⟩, holds.2⟩

end Leads

/-- No text is spelled with a surrogate in what the exports of a component need. -/
def Component.SpellsScalars (source : Text) : Prop :=
  ∀ module, Module.parse source = .ok module → ∀ node ∈ foldedNodes module,
    Fold.SpellsScalars module.bindings node

/-- The texts of the exports of a component that are written as literals. -/
def Component.literalExports? : List Node → Option (List Text)
  | [.object _ [.pair _ _ false (.literal _ (.string name) _)], .literal _ (.string style) _,
      .literal _ (.string template) _] => some [name, style, template]
  | _ => none

/-- A component whose exports are written as literals spells what is in them. -/
theorem Component.spellsScalars_of_literals {source : Text} {texts : List Text}
    (literals : (Module.parse source).toOption.bind (fun module =>
      literalExports? (foldedNodes module)) = some texts)
    (areScalar : ∀ text ∈ texts, text.IsScalar) : SpellsScalars source := by
  intro module parsed node mem
  rw [parsed] at literals
  have onLiteral {text : Text} (textMem : text ∈ texts) (span : Span) (raw : Text) :
      Fold.SpellsScalars module.bindings (.literal span (.string text) raw) := by
    intro needed reaches
    rcases Relation.ReflTransGen.cases_head reaches with rfl | ⟨child, needs, -⟩
    · intro spelled isSpelled
      rw [List.mem_singleton.mp isSpelled]
      exact areScalar text textMem
    · cases needs
  change literalExports? (foldedNodes module) = some texts at literals
  unfold literalExports? at literals
  split at literals
  · next exported =>
      cases literals
      rw [exported] at mem
      simp only [List.mem_cons, List.not_mem_nil, or_false] at mem
      rcases mem with rfl | rfl | rfl
      · intro needed reaches
        rcases Relation.ReflTransGen.cases_head reaches with rfl | ⟨child, needs, later⟩
        · exact fun _ impossible => nomatch impossible
        · cases needs with
          | property demanded =>
              cases demanded with
              | value => exact onLiteral (by simp) _ _ needed later
              | later _ impossible => cases impossible
      · exact onLiteral (by simp) _ _
      · exact onLiteral (by simp) _ _
  · cases literals

/-- The record of a component that is spelled without surrogates holds none. -/
theorem Component.isScalar_of_analyze {source : Text} {analysis : Analysis}
    {record : ComponentRecord} (spells : SpellsScalars source)
    (answered : analyze source = .ok analysis) (isRecord : analysis.component? = some record) :
    record.IsScalar := by
  cases parsed : Module.parse source with
  | error fault =>
      rw [analyzeWith_unparsed parsed answered] at isRecord
      cases isRecord
  | ok module =>
      rcases (analyzeModule_component? (analyzeWith_parsed parsed answered) record).mp isRecord
        with ⟨exports, folded, found, inTurn, shows⟩
      have tells : folded.Tells module.bindings False exports := inTurn.tells False.elim
      have hasScalars {target : ExportTarget} {value : Value}
          (isExport : target ∈ [exports.metadata, exports.style, exports.template])
          (has : target.Has module.bindings value) : value.IsScalar := by
        rcases has with ⟨node, stands, height, derived⟩
        apply derived.isScalar (spells module parsed node _)
        rw [foldedNodes_eq (componentExports?_eq.trans found)]
        exact List.mem_filterMap.mpr ⟨target, isExport, stands⟩
      rcases shows.metadata with ⟨span, properties, foldedMetadata, gives⟩
      rcases shows.logic with ⟨definition, -, -, sameLogic⟩
      constructor
      · have onMetadata := hasScalars (by simp) (tells.metadata.sound _ foldedMetadata)
        cases onMetadata with
        | record _ areScalar =>
            cases OrderedMap.All.get? areScalar gives.name with
            | string isScalar => exact isScalar
      · cases hasScalars (by simp) (tells.style.sound _ shows.style) with
        | string isScalar => exact isScalar
      · cases hasScalars (by simp) (tells.template.sound _ shows.template) with
        | string isScalar => exact isScalar
      · rw [sameLogic]
        exact isScalar_characters _

/-- The records of a session hold no surrogates. -/
def Session.IsScalar (session : Session) : Prop :=
  session.components.All ComponentRecord.IsScalar

theorem Session.IsScalar.record {session : Session} (isScalar : session.IsScalar)
    (moduleId : Text) {component? : Option ComponentRecord}
    (onComponent : ∀ component, component? = some component → component.IsScalar) :
    (session.record moduleId component?).IsScalar := by
  cases component? with
  | none => exact OrderedMap.All.erase isScalar moduleId
  | some component => exact OrderedMap.All.insert isScalar moduleId (onComponent component rfl)

theorem FileTree.isScalar_readText {tree : FileTree} {path : Path} {text : Text}
    (read : tree.readText path = .ok text) : text.IsScalar := by
  rcases exists_of_bind_ok read with ⟨bytes, -, decoded⟩
  split at decoded
  · next content isContent =>
      cases decoded
      exact (isScalar_of_decodeFrom isContent).unifyLineEndings
  · cases decoded

/-- The code of a runtime that is found is the text of a file. -/
theorem RuntimeScript.isScalar_usable {tree : FileTree} {root filename code : Text}
    {searchPaths : List Text} (usable : (find tree root filename searchPaths).usable? = some code) :
    code.IsScalar := by
  have first (paths : List Path) (path : Path) (content : Text)
      (found : firstReadable tree paths = some (path, content)) : content.IsScalar := by
    induction paths with
    | nil => cases found
    | cons next rest ih =>
        rw [firstReadable] at found
        split at found
        · next read =>
            cases found
            exact FileTree.isScalar_readText read
        · exact ih found
  unfold find at usable
  dsimp only at usable
  split at usable
  · next path content found =>
      unfold Lookup.usable? at usable
      dsimp only at usable
      split at usable
      · cases usable
      · cases usable
        exact first _ path code found
  · cases usable

namespace Compiler

/-- The records of the session of a build hold no surrogates. -/
def Plain (state : BuildState) : Prop :=
  state.session.IsScalar

variable (compiler : Compiler) (tree : FileTree)

theorem plain_start (root : Text) : Plain (start root) :=
  OrderedMap.All.empty

theorem transform_leads {source : Text} (spells : Component.SpellsScalars source)
    (givenId : Text) :
    Leads Plain (compiler.transform source givenId) (fun _ => Plain) fun _ => True := by
  intro state plain
  by_cases accepted : compiler.filter.accepts (ModuleId.normalize givenId) = true
  · cases found : Component.analyze source with
    | error fault =>
        rw [transform_fails accepted found]
        trivial
    | ok analysis =>
        rcases transform_updates accepted found state with ⟨log, ran⟩
        rw [ran]
        exact plain.record _ fun component isComponent =>
          Component.isScalar_of_analyze spells found isComponent
  · rcases transform_skipped (Bool.eq_false_iff.mpr accepted) state with ⟨log, ran⟩
    rw [ran]
    exact plain

theorem isScalar_finishing {root : Text} {finish : Text → Text}
    (finishes : compiler.finishing tree root = .ok finish) {document : Text}
    (isScalar : document.IsScalar) : (finish document).IsScalar := by
  rcases exists_of_bind_ok finishes with ⟨code?, isCode, placed⟩
  rcases exists_of_bind_ok placed with ⟨place, places, named⟩
  rcases exists_of_bind_ok named with ⟨bootstrapName, -, isFinish⟩
  cases isFinish
  apply Html.isScalar_removeBootstrap
  cases code? with
  | none =>
      cases places
      exact isScalar
  | some code =>
      rcases exists_of_bind_ok places with ⟨runtimeName, -, isPlace⟩
      cases isPlace
      apply Html.isScalar_inlineRuntime _ _ isScalar
      unfold runtimeOutcome at isCode
      split at isCode
      · rcases exists_of_bind_ok isCode with ⟨searchPaths, -, usable⟩
        exact RuntimeScript.isScalar_usable (Except.ok.inj usable)
      · cases isCode

theorem isScalar_withTriplets {document : Text} {records : List ComponentRecord}
    (isScalar : document.IsScalar) (areScalar : ∀ record ∈ records, record.IsScalar) :
    (compiler.withTriplets document records).IsScalar := by
  unfold withTriplets
  cases inserted : Html.insertBeforeBodyClose document
      (Html.renderTriplets compiler.options.compactsStyles records) with
  | none => exact isScalar
  | some written =>
      exact Html.isScalar_insertBeforeBodyClose isScalar
        (Html.isScalar_renderTriplets _ areScalar) inserted

theorem edit_leads {document : Text} (isScalar : document.IsScalar) :
    Leads Plain (compiler.edit tree document) (fun written state => written.IsScalar ∧ Plain state)
      fun _ => True := by
  intro state plain
  rcases edit_settles compiler tree document state.session.warnings state.log with
    ⟨more, log, ran⟩
  have fromState : (compiler.edit tree document).run.run state = _ := ran
  rw [fromState]
  cases finishes : compiler.finishing tree state.session.root with
  | error fault => trivial
  | ok finish =>
      refine ⟨compiler.isScalar_finishing tree finishes ?_, plain⟩
      apply compiler.isScalar_withTriplets isScalar
      intro record mem
      rcases List.mem_map.mp mem with ⟨entry, entryMem, rfl⟩
      exact plain entry (state.session.graph.sorted_perm.mem_iff.mp entryMem)

/-- The files of a bundle that are edited hold no surrogates. -/
def PlainBundle (bundle : Bundle) : Prop :=
  bundle.All fun asset => asset.source.IsScalar

theorem editAsset_leads {asset : Asset} (isScalar : asset.source.IsScalar) :
    Leads Plain (compiler.editAsset tree asset)
      (fun edited state => edited.source.IsScalar ∧ Plain state) fun _ => True := by
  unfold editAsset
  split
  · exact (compiler.edit_leads tree isScalar).bind fun _ => Leads.pure fun _ holds => holds
  · exact Leads.pure fun _ plain => ⟨isScalar, plain⟩

theorem finalize_leads {bundle : Bundle} (isPlain : PlainBundle bundle) :
    Leads Plain (compiler.finalize tree bundle)
      (fun edited state => PlainBundle edited ∧ Plain state) fun _ => True := by
  have edits : Leads Plain
      (bundle.entries.mapM fun entry => do return (entry.1, ← compiler.editAsset tree entry.2))
      (fun edited state => (∀ entry ∈ edited, entry.2.source.IsScalar) ∧ Plain state)
      fun _ => True := by
    apply Leads.mapM
    intro entry mem
    exact (compiler.editAsset_leads tree (isPlain entry mem)).bind fun _ =>
      Leads.pure fun _ holds => holds
  have prunes (edited : List (Text × Asset))
      (areScalar : ∀ entry ∈ edited, entry.2.source.IsScalar) :
      PlainBundle ⟨(edited.partition fun entry => compiler.isPruned entry.1).2⟩ := by
    intro entry mem
    rw [List.partition_eq_filter_filter] at mem
    exact areScalar entry (List.mem_filter.mp mem).1
  have notes (event : BuildEvent) : Leads Plain (note buildLogger event) (fun _ => Plain)
      fun _ => True := fun _ plain => plain
  have reads : Leads Plain currentSession (fun _ => Plain) fun _ => True := fun _ plain => plain
  have reports (message : Text) : Leads Plain (report message) (fun _ => Plain) fun _ => True :=
    fun _ plain => plain
  unfold finalize
  split
  · refine reads.bind fun session => (Leads.forEach _ fun problem _ => reports _).bind fun _ => ?_
    refine edits.bind fun edited => Leads.given fun areScalar => (notes _).bind fun _ => ?_
    exact Leads.pure fun _ plain => ⟨prunes edited areScalar, plain⟩
  · refine edits.bind fun edited => Leads.given fun areScalar => (notes _).bind fun _ => ?_
    exact Leads.pure fun _ plain => ⟨prunes edited areScalar, plain⟩

theorem visitAll_leads {modules : List (Text × Text)}
    (spell : ∀ module ∈ modules, Component.SpellsScalars module.2) :
    Leads Plain (compiler.visitAll modules) (fun _ => Plain) fun _ => True := by
  induction modules with
  | nil => exact Leads.pure fun _ plain => plain
  | cons module rest ih =>
      rw [visitAll_cons]
      refine (compiler.transform_leads (spell module (List.mem_cons_self ..)) module.1).bind
        fun _ => ?_
      exact ih fun later mem => spell later (List.mem_cons_of_mem _ mem)

theorem buildDocument_leads {document : Text} {modules : List (Text × Text)}
    (isScalar : document.IsScalar) (spell : ∀ module ∈ modules, Component.SpellsScalars module.2) :
    Leads Plain (compiler.buildDocument tree document modules)
      (fun output state => output.IsScalar ∧ Plain state) fun _ => True := by
  rw [buildDocument_eq]
  refine (compiler.visitAll_leads spell).bind fun _ => ?_
  have isPlain : PlainBundle ⟨[(("index.html" : Text), ⟨"index.html", document⟩)]⟩ := by
    intro entry mem
    rw [List.mem_singleton.mp mem]
    exact isScalar
  refine (compiler.finalize_leads tree isPlain).bind fun bundle => Leads.given fun edited => ?_
  refine Leads.pure fun _ plain => ⟨?_, plain⟩
  cases found : bundle.get? "index.html" with
  | none => exact isScalar
  | some asset => exact edited.get? found

end Compiler

end ComponentInliner
