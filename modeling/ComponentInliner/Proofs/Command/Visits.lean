import ComponentInliner.Command.Run
import ComponentInliner.Proofs.Build.Acceptance
import ComponentInliner.Proofs.Build.LoadOrder
import ComponentInliner.Proofs.Command.Refusal
import ComponentInliner.Proofs.Command.Scalars

/-!
# The files that a run visits

A run looks at all files below its component paths, one after the other, and takes the normal form
of the path of a file for its module id. So a file is looked at exactly if the normal form of its
path is that of a script, and of the files with one normal form the last one counts
(`compile_registers`). Paths without question marks, number signs and backslashes are in normal
form, and then the session has one entry for each script with a component, in the order of the
visits.
-/

namespace ComponentInliner

/-- The component that a source is analyzed to. -/
def Component.ofSource? (source : Text) : Option ComponentRecord :=
  (Component.analyze source).toOption.bind Analysis.component?

namespace FileTree

/-- The component that a file holds, if the file can be read and is analyzed to one. -/
def component? (tree : FileTree) (path : Path) : Option ComponentRecord :=
  (tree.readText path).toOption.bind Component.ofSource?

/-- A file as it is handed to a build. -/
def moduleAt (tree : FileTree) (path : Path) : Text × Text :=
  (path.text, (tree.readText path).toOption.getD [])

/-- A file can be read and analyzed. -/
def IsAnalyzed (tree : FileTree) (path : Path) : Prop :=
  ∃ source analysis, tree.readText path = .ok source ∧ Component.analyze source = .ok analysis

instance (tree : FileTree) (path : Path) : Decidable (tree.IsAnalyzed path) :=
  decidable_of_iff ((tree.readText path).toOption.any fun source =>
      (Component.analyze source).toOption.isSome) <| by
    unfold IsAnalyzed
    cases tree.readText path with
    | error fault => simp [Except.toOption]
    | ok source => cases found : Component.analyze source <;> simp [Except.toOption, found]

theorem ofSource?_moduleAt (tree : FileTree) (path : Path) :
    Component.ofSource? (tree.moduleAt path).2 = tree.component? path := by
  have nothing : Component.ofSource? [] = none := by decide
  unfold moduleAt component?
  cases tree.readText path with
  | ok source => rfl
  | error fault => exact nothing

/-- The files below a directory in the order in which the tree lists them. -/
def listedBelow (tree : FileTree) (place : List Text) : List (List Text) :=
  let below := tree.entries.entries.filterMap fun (parts, entry) =>
    match entry with
    | .file _ => if place.isPrefixOf parts then some (parts.drop place.length) else none
    | .directory => none
  below.filter fun parts => !parts.isEmpty

theorem filesBelow_of_sorted {tree : FileTree} {place : List Text}
    (sorted : (tree.listedBelow place).Pairwise fun first second => Path.partsLe first second) :
    tree.filesBelow place = tree.listedBelow place :=
  List.mergeSort_of_pairwise sorted

end FileTree

namespace Compiler

variable {compiler : Compiler} {modules : List (Text × Text)}

theorem effectsOn_concat (compiler : Compiler) (modules : List (Text × Text))
    (module : Text × Text) : compiler.effectsOn (modules ++ [module]) =
      compiler.effectsOn modules ++ (compiler.visit module).change.effect?.toList := by
  unfold effectsOn
  rw [List.map_append, List.filterMap_append]
  cases found : (compiler.visit module).change.effect? <;> simp [found]

/-- The session that the operations of a build on modules leave. -/
def sessionAfter (compiler : Compiler) (session : Session) (modules : List (Text × Text)) :
    Session :=
  modules.foldl (fun session module => (compiler.visit module).change.applyTo session) session

theorem components_sessionAfter (root : Text) :
    (compiler.sessionAfter (start root).session modules).components =
      Registration.ofEffects (compiler.effectsOn modules) := by
  have sameSession : compiler.sessionAfter (start root).session modules =
      ((start root).afterAll (modules.map compiler.visit)).session := by
    rw [BuildState.session_afterAll, List.foldl_map]
    rfl
  rw [sameSession, Registration.components_afterAll]
  rfl

/-- What a visit finds out about a module that can be analyzed. -/
theorem effect?_visit {module : Text × Text} (reads : compiler.Reads module) :
    (compiler.visit module).change.effect? =
      if compiler.filter.accepts (ModuleId.normalize module.1) then
        some ⟨ModuleId.normalize module.1, Component.ofSource? module.2⟩
      else none := by
  by_cases accepted : compiler.filter.accepts (ModuleId.normalize module.1) = true
  · rcases reads accepted with ⟨analysis, found⟩
    simp [visit, Operation.change, accepted, found, Component.ofSource?, Except.toOption]
  · simp [visit, Operation.change, accepted]

/-- Of the modules with one normal form the last one counts. -/
theorem get?_registered (reads : ∀ module ∈ modules, compiler.Reads module) (moduleId : Text) :
    (Registration.ofEffects (compiler.effectsOn modules)).get? moduleId =
      if compiler.filter.accepts moduleId then
        (modules.reverse.find? fun module => ModuleId.normalize module.1 = moduleId).bind
          fun module => Component.ofSource? module.2
      else none := by
  induction modules using List.reverseRecOn with
  | nil =>
      rw [List.reverse_nil, List.find?_nil, Option.bind_none, ite_self]
      rfl
  | append_singleton modules module ih =>
      have before := ih fun other mem => reads other (List.mem_append_left _ mem)
      have effect := effect?_visit (reads module (by simp))
      rw [effectsOn_concat, List.reverse_concat, List.find?_cons]
      by_cases accepted : compiler.filter.accepts (ModuleId.normalize module.1) = true
      · rw [effect, if_pos accepted, Option.toList_some, Registration.ofEffects_concat,
          Registration.get?_takeEffect, before]
        by_cases same : ModuleId.normalize module.1 = moduleId
        · simp [← same, accepted]
        · simp [same, Ne.symm same]
      · rw [effect, if_neg accepted, Option.toList_none, List.append_nil, before]
        by_cases same : ModuleId.normalize module.1 = moduleId
        · simp [← same, accepted]
        · simp [same]

/-- Modules with different normal forms are registered in their order. -/
theorem entries_registered (reads : ∀ module ∈ modules, compiler.Reads module)
    (distinct : (modules.map fun module => ModuleId.normalize module.1).Nodup) :
    (Registration.ofEffects (compiler.effectsOn modules)).entries = modules.filterMap fun module =>
      if compiler.filter.accepts (ModuleId.normalize module.1) then
        (Component.ofSource? module.2).map (ModuleId.normalize module.1, ·)
      else none := by
  induction modules using List.reverseRecOn with
  | nil => rfl
  | append_singleton modules module ih =>
      have readsBefore : ∀ other ∈ modules, compiler.Reads other := fun other mem =>
        reads other (List.mem_append_left _ mem)
      rw [List.map_append, List.nodup_append] at distinct
      have before := ih readsBefore distinct.1
      have absent : ModuleId.normalize module.1 ∉
          (Registration.ofEffects (compiler.effectsOn modules)).keys := by
        have unseen : (modules.reverse.find? fun other =>
            ModuleId.normalize other.1 = ModuleId.normalize module.1) = none := by
          refine List.find?_eq_none.mpr fun other mem same => ?_
          exact distinct.2.2 _ (List.mem_map_of_mem (List.mem_reverse.mp mem)) _ (by simp)
            (of_decide_eq_true same)
        rw [← OrderedMap.get?_eq_none_iff, get?_registered readsBefore, unseen, Option.bind_none,
          ite_self]
      rw [effectsOn_concat, List.filterMap_append, ← before, effect?_visit (reads module (by simp))]
      by_cases accepted : compiler.filter.accepts (ModuleId.normalize module.1) = true
      · rw [if_pos accepted, Option.toList_some, Registration.ofEffects_concat]
        cases found : Component.ofSource? module.2 with
        | none =>
            exact (OrderedMap.entries_erase_of_not_mem absent).trans (by simp [accepted, found])
        | some component =>
            exact (OrderedMap.entries_insert_of_not_mem absent component).trans
              (by simp [accepted, found])
      · simp [accepted]

end Compiler

def BuildState.components (state : BuildState) : Registration :=
  state.session.components

def RunState.components (state : RunState) : Registration :=
  state.build.components

/-- Whatever comes of an action, it keeps a part of the state. -/
def Keeps {Fault State Result Part : Type} (part : State → Part)
    (action : ExceptT Fault (StateM State) Result) : Prop :=
  ∀ state, part (action.run.run state).2 = part state

namespace Keeps

variable {Fault State Result Next Item Part : Type} {part : State → Part}
  {action : ExceptT Fault (StateM State) Result}

theorem pure (result : Result) : Keeps part (pure result : ExceptT Fault (StateM State) Result) :=
  fun _ => rfl

theorem throw (fault : Fault) : Keeps part (throw fault : ExceptT Fault (StateM State) Result) :=
  fun _ => rfl

theorem bind {next : Result → ExceptT Fault (StateM State) Next} (first : Keeps part action)
    (second : ∀ result, Keeps part (next result)) : Keeps part (action >>= next) := by
  intro state
  have onFirst := first state
  rw [ExceptT.run_bind, StateT.run_bind]
  rcases ran : action.run.run state with ⟨fault | result, middle⟩
  · rw [ran] at onFirst
    exact onFirst
  · rw [ran] at onFirst
    exact (second result middle).trans onFirst

theorem forEach {action : Item → ExceptT Fault (StateM State) Unit} (items : List Item)
    (keeps : ∀ item, Keeps part (action item)) :
    Keeps part (forIn items PUnit.unit fun item _ => do
      action item
      return ForInStep.yield PUnit.unit) := by
  induction items with
  | nil => exact pure _
  | cons item rest ih =>
      rw [List.forIn_cons, bind_assoc]
      refine (keeps item).bind fun _ => ?_
      rw [pure_bind]
      exact ih

theorem mapM {action : Item → ExceptT Fault (StateM State) Result} (items : List Item)
    (keeps : ∀ item, Keeps part (action item)) : Keeps part (items.mapM action) := by
  induction items with
  | nil => exact pure _
  | cons item rest ih =>
      rw [List.mapM_cons]
      exact (keeps item).bind fun _ => ih.bind fun _ => pure _

end Keeps

namespace Compiler

/-- The end of a build registers nothing. -/
theorem finalize_keeps (compiler : Compiler) (tree : FileTree) (bundle : Bundle) :
    Keeps BuildState.components
      (compiler.finalize tree bundle) := by
  have edits (document : Text) : Keeps BuildState.components
      (compiler.edit tree document) := by
    intro state
    rcases edit_settles compiler tree document state.session.warnings state.log with
      ⟨more, log, ran⟩
    exact congrArg (fun outcome => outcome.2.session.components) ran
  have editsAsset (asset : Asset) : Keeps BuildState.components
      (compiler.editAsset tree asset) := by
    unfold editAsset
    split
    · exact (edits _).bind fun _ => Keeps.pure _
    · exact Keeps.pure _
  have reads : Keeps BuildState.components currentSession :=
    fun _ => rfl
  have notes (event : BuildEvent) : Keeps BuildState.components
      (note buildLogger event) := fun _ => rfl
  have reports (message : Text) : Keeps BuildState.components
      (report message) := fun _ => rfl
  have editsAll : Keeps BuildState.components
      (bundle.entries.mapM fun entry => do return (entry.1, ← compiler.editAsset tree entry.2)) :=
    Keeps.mapM _ fun entry => (editsAsset entry.2).bind fun _ => Keeps.pure _
  unfold finalize
  split
  · exact reads.bind fun session => (Keeps.forEach _ fun problem => reports _).bind fun _ =>
      editsAll.bind fun _ => (notes _).bind fun _ => Keeps.pure _
  · exact editsAll.bind fun _ => (notes _).bind fun _ => Keeps.pure _

end Compiler

namespace Run

variable {compiler : Compiler}

/-- The files that a component path leads to, in the order in which they are visited. -/
def filesUnder (tree : FileTree) (path : Path) : List Path :=
  match PathContent.of tree path with
  | .files files => files
  | .missing _ => []

/-- The component paths of a run, which are those that are given, or else the directory of the entry
document. -/
def componentPaths (tree : FileTree) (arguments : CommandArguments) (entry : Path) : List Path :=
  let given := arguments.componentPaths.map fun path =>
    (Path.ofText path).resolve tree.workingDirectory
  if given.isEmpty then [entry.parent] else given

/-- The files that a run visits. -/
def visitedFiles (tree : FileTree) (arguments : CommandArguments) (entry : Path) : List Path :=
  (componentPaths tree arguments entry).flatMap (filesUnder tree)

/-- A file can be read and analyzed if it is looked at. -/
def IsReadable (compiler : Compiler) (tree : FileTree) (path : Path) : Prop :=
  compiler.filter.accepts (ModuleId.normalize path.text) = true → tree.IsAnalyzed path

theorem run_currentTree_bind {Result : Type} (next : FileTree → RunM Result) (state : RunState) :
    (currentTree >>= next).run.run state = (next state.tree).run.run state :=
  rfl

instance (compiler : Compiler) (tree : FileTree) (path : Path) :
    Decidable (IsReadable compiler tree path) :=
  inferInstanceAs (Decidable (_ → _))

/-- A step of a run comes to its end with a session, and the files stay as they are. -/
def Leaves (action : RunM Unit) (state : RunState) (session : Session) : Prop :=
  ∃ log, action.run.run state = (.ok (), ⟨state.tree, ⟨session, log⟩⟩)

namespace Leaves

variable {state : RunState} {session last : Session}

theorem pure : Leaves (pure ()) state state.build.session :=
  ⟨state.build.log, rfl⟩

/-- What comes after such a step goes on from there. -/
theorem run_bind {Result : Type} {action : RunM Unit} (leaves : Leaves action state session)
    (next : RunM Result) : ∃ log, (action >>= fun _ => next).run.run state =
      next.run.run ⟨state.tree, ⟨session, log⟩⟩ := by
  rcases leaves with ⟨log, ran⟩
  refine ⟨log, ?_⟩
  rw [ExceptT.run_bind, StateT.run_bind, ran]
  rfl

theorem components_bind {Result : Type} {action : RunM Unit} {next : RunM Result}
    {registered : Registration} (leaves : Leaves action state session)
    (goesOn : ∀ log, (next.run.run ⟨state.tree, ⟨session, log⟩⟩).2.components = registered) :
    ((action >>= fun _ => next).run.run state).2.components = registered := by
  rcases leaves.run_bind next with ⟨log, ran⟩
  rw [ran]
  exact goesOn log

theorem bind {action next : RunM Unit} (first : Leaves action state session)
    (second : ∀ log, Leaves next ⟨state.tree, ⟨session, log⟩⟩ last) :
    Leaves (action >>= fun _ => next) state last := by
  rcases first.run_bind next with ⟨middle, ran⟩
  rcases second middle with ⟨log, ranNext⟩
  exact ⟨log, ran.trans ranNext⟩

theorem ofBuild {Result : Type} {step : BuildM Result} {result : Result}
    (updates : Compiler.Updates step state.build result session) :
    Leaves (do let _ ← ofBuild step) state session := by
  rcases updates with ⟨log, ran⟩
  refine ⟨log, ?_⟩
  have onBuild : (Run.ofBuild step).run.run state = (.ok result, ⟨state.tree, ⟨session, log⟩⟩) := by
    have reading {next : RunState → RunM Result} :
        (get >>= next).run.run state = (next state).run.run state := rfl
    unfold Run.ofBuild
    rw [reading, ran]
    rfl
  rw [ExceptT.run_bind, StateT.run_bind, onBuild]
  rfl

theorem readingTree {next : FileTree → RunM Unit}
    (leaves : Leaves (next state.tree) state session) :
    Leaves (currentTree >>= next) state session :=
  leaves

end Leaves

section Visiting

variable {state : RunState}

theorem IsReadable.reads {path : Path} (readable : IsReadable compiler state.tree path) :
    compiler.Reads (state.tree.moduleAt path) := by
  intro accepted
  rcases readable accepted with ⟨source, analysis, read, found⟩
  refine ⟨analysis, ?_⟩
  rw [FileTree.moduleAt, read]
  exact found

/-- To visit a readable file is to hand it to the build. -/
theorem visitFile_leaves {path : Path} (readable : IsReadable compiler state.tree path) :
    Leaves (visitFile compiler path) state
      ((compiler.visit (state.tree.moduleAt path)).change.applyTo state.build.session) := by
  unfold visitFile
  by_cases accepted : compiler.filter.accepts (ModuleId.normalize path.text) = true
  · rcases readable accepted with ⟨source, -, read, -⟩
    have isModule : state.tree.moduleAt path = (path.text, source) := by
      rw [FileTree.moduleAt, read]
      rfl
    rcases Compiler.transform_visits readable.reads state.build with ⟨_, updates⟩
    rw [isModule, ← Compiler.transform_normalize] at updates
    simp only [accepted, if_true]
    apply Leaves.readingTree
    simp only [read, isModule]
    exact Leaves.ofBuild updates
  · have unchanged : (compiler.visit (state.tree.moduleAt path)).change = ⟨none, []⟩ := by
      simp [Compiler.visit, Operation.change, FileTree.moduleAt, accepted]
    simp only [accepted, unchanged]
    simpa [Change.applyTo] using @Leaves.pure state

theorem visitFiles_leaves {files : List Path}
    (readable : ∀ path ∈ files, IsReadable compiler state.tree path) :
    Leaves (files.forM (visitFile compiler)) state
      (compiler.sessionAfter state.build.session (files.map state.tree.moduleAt)) := by
  induction files generalizing state with
  | nil => exact Leaves.pure
  | cons path rest ih =>
      refine (visitFile_leaves (readable path (List.mem_cons_self ..))).bind fun log => ?_
      exact ih fun other mem => readable other (List.mem_cons_of_mem _ mem)

theorem visitPath_leaves {path : Path}
    (readable : ∀ file ∈ filesUnder state.tree path, IsReadable compiler state.tree file) :
    Leaves (visitPath compiler path) state (compiler.sessionAfter state.build.session
      ((filesUnder state.tree path).map state.tree.moduleAt)) := by
  unfold visitPath
  apply Leaves.readingTree
  unfold filesUnder at readable ⊢
  cases content : PathContent.of state.tree path with
  | files files =>
      rw [content] at readable
      exact visitFiles_leaves readable
  | missing path => exact ⟨_, rfl⟩

theorem visitPaths_leave {paths : List Path}
    (readable : ∀ file ∈ paths.flatMap (filesUnder state.tree),
      IsReadable compiler state.tree file) :
    Leaves (paths.forM (visitPath compiler)) state (compiler.sessionAfter state.build.session
      ((paths.flatMap (filesUnder state.tree)).map state.tree.moduleAt)) := by
  induction paths generalizing state with
  | nil => exact Leaves.pure
  | cons path rest ih =>
      rw [List.flatMap_cons, List.forall_mem_append] at readable
      rw [List.flatMap_cons, List.map_append, Compiler.sessionAfter, List.foldl_append]
      exact (visitPath_leaves readable.1).bind fun log => ih readable.2

end Visiting

section Compiling

variable {state : RunState} {arguments : CommandArguments} {entry : Path}

theorem writeDocument_keeps (path : Path) (document? : Option Text) :
    Keeps (fun state : RunState => state.build) (writeDocument path document?) := by
  have makes : Keeps (fun state : RunState => state.build) (makeDirectory path.parent) := by
    intro state
    unfold makeDirectory
    rw [run_currentTree_bind]
    cases state.tree.makeDirectory path.parent <;> rfl
  have writes (bytes : Text.Bytes) :
      Keeps (fun state : RunState => state.build) (writeBytes path bytes) := by
    intro state
    unfold writeBytes
    rw [run_currentTree_bind]
    cases state.tree.writeBytes path bytes <;> rfl
  unfold writeDocument
  refine makes.bind fun made => ?_
  cases made with
  | error fault => exact Keeps.pure _
  | ok =>
      cases document? with
      | none => exact Keeps.throw _
      | some document =>
          refine (writes []).bind fun emptied => ?_
          cases emptied with
          | error fault => exact Keeps.pure _
          | ok =>
              dsimp only
              cases Text.encode? document with
              | some bytes => exact writes bytes
              | none => exact Keeps.throw _

theorem ofBuild_keeps {Result : Type} {step : BuildM Result}
    (keeps : Keeps BuildState.components step) :
    Keeps RunState.components (ofBuild step) := by
  intro state
  have onBuild := keeps state.build
  have reading {next : RunState → RunM Result} :
      (get >>= next).run.run state = (next state).run.run state := rfl
  unfold ofBuild
  rw [reading]
  rcases ran : step.run.run state.build with ⟨fault | result, after⟩
  all_goals
    rw [ran] at onBuild
    exact onBuild

/-- What is registered after a run was found in the files that it visited. -/
theorem compile_components (document : Text)
    (readable : ∀ path ∈ visitedFiles state.tree arguments entry,
      IsReadable compiler state.tree path) :
    ((compile compiler arguments entry document).run.run state).2.components =
      Registration.ofEffects (compiler.effectsOn
        ((visitedFiles state.tree arguments entry).map state.tree.moduleAt)) := by
  have starts : Leaves (start entry.parent.text) state (Compiler.start entry.parent.text).session :=
    ⟨_, rfl⟩
  have visits (log : List LogRecord) :=
    @visitPaths_leave compiler ⟨state.tree, ⟨(Compiler.start entry.parent.text).session, log⟩⟩
      (componentPaths state.tree arguments entry) readable
  have notes (level : LogLevel) (message : Text) : Keeps RunState.components (say level message) :=
    fun _ => rfl
  have ends (path : Path) : Keeps RunState.components (reportWritten arguments path) :=
    fun _ => rfl
  have writes (path : Path) (document? : Option Text) :
      Keeps RunState.components (writeDocument path document?) :=
    fun state => congrArg BuildState.components (writeDocument_keeps path document? state)
  have reads : Keeps RunState.components currentTree := fun _ => rfl
  unfold compile
  rw [run_currentTree_bind, ← Compiler.components_sessionAfter entry.parent.text]
  refine starts.components_bind fun begun => (visits begun).components_bind fun log => ?_
  -- All that comes after the visits leaves the components alone.
  refine (?_ : Keeps RunState.components _) _
  refine reads.bind fun tree => ?_
  refine (ofBuild_keeps (compiler.finalize_keeps tree _)).bind fun bundle => ?_
  refine (writes _ _).bind fun written => ?_
  cases written with
  | ok => exact ends _
  | error fault => exact (notes _ _).bind fun _ => Keeps.pure _

theorem compilerOf_standard {options : BuildOptions} {compiler : Compiler}
    (made : Compiler.ofOptions options = .ok compiler) (noInclude : options.includeChoice = none)
    (noExclude : options.excludeChoice = none) : compiler.filter = .standard := by
  unfold Compiler.ofOptions at made
  rw [noInclude, noExclude] at made
  cases made
  rfl

theorem anchor_of_mem_visitedFiles (absolute : entry.anchor = .root) {tree : FileTree} {path : Path}
    (visited : path ∈ visitedFiles tree arguments entry) : path.anchor = .root := by
  rcases List.mem_flatMap.mp visited with ⟨given, isGiven, found⟩
  have absoluteGiven : given.anchor = .root := by
    unfold componentPaths at isGiven
    dsimp only at isGiven
    split at isGiven
    · rw [List.mem_singleton.mp isGiven]
      exact absolute
    · rcases List.mem_map.mp isGiven with ⟨spelled, -, rfl⟩
      rfl
  unfold filesUnder at found
  split at found
  · next files content =>
      unfold PathContent.of at content
      split at content
      · cases content
      · split at content
        · cases content
          rwa [List.mem_singleton.mp found]
        · cases content
          rcases List.mem_map.mp found with ⟨parts, -, rfl⟩
          exact absoluteGiven
        · cases content
  · cases found

/-- A visited file is looked at, without a choice of filters, if its path in normal form is that of
a script. -/
theorem accepts_visited (isStandard : compiler.filter = .standard) (absolute : entry.anchor = .root)
    {tree : FileTree} {path : Path} (visited : path ∈ visitedFiles tree arguments entry) :
    compiler.filter.accepts (ModuleId.normalize path.text) ↔
      ModuleFilter.IsScriptFile (ModuleId.normalize path.text) := by
  have text : path.text = CodePoint.ofChar '/' :: Text.joinWith "/" path.parts := by
    rw [Path.text, anchor_of_mem_visitedFiles absolute visited]
    rfl
  have begins : ∃ rest, ModuleId.normalize path.text = CodePoint.ofChar '/' :: rest := by
    rw [text]
    exact ⟨_, rfl⟩
  rcases begins with ⟨rest, begins⟩
  rw [isStandard, begins]
  exact ModuleFilter.accepts_standard (by decide)

end Compiling

section Projects

/-- A directory tree with some files. -/
def projectTree (files : List (List String × Text)) : FileTree :=
  files.foldl (fun tree file =>
    tree.addFile (file.1.map Text.ofString) (file.2.flatMap Text.encodePoint)) ⟨.empty, []⟩

/-- The components of a run on the directory of an entry document, with the usual options. -/
def componentsOf (tree : FileTree) : Registration :=
  ((compile ⟨.usual, .standard⟩ entryArguments ⟨.root, ["index.html"]⟩ []).run.run
    ⟨tree, ⟨.begin [], []⟩⟩).2.components

theorem visitedFiles_of_sorted {tree : FileTree}
    (sorted : (tree.listedBelow []).Pairwise fun first second => Path.partsLe first second) :
    visitedFiles tree entryArguments ⟨.root, ["index.html"]⟩ =
      (tree.listedBelow []).map (Path.mk .root) := by
  rw [← FileTree.filesBelow_of_sorted sorted]
  exact List.append_nil _

end Projects

section Registering

variable {state : RunState} {arguments : CommandArguments} {entry : Path}

/--
What a run without a choice of filters registers. Under a module id, it is the component of the last
visited file whose path has that id as its normal form, if the id is that of a script. If no path of
a file holds a question mark, a number sign or a backslash, then all scripts with a component are
registered under their paths, in the order of the visits.
-/
theorem compile_registers {options : BuildOptions}
    (made : Compiler.ofOptions options = .ok compiler) (noInclude : options.includeChoice = none)
    (noExclude : options.excludeChoice = none) (absolute : entry.anchor = .root) (document : Text)
    (analyzed : ∀ path ∈ visitedFiles state.tree arguments entry,
      ModuleFilter.IsScriptFile (ModuleId.normalize path.text) → state.tree.IsAnalyzed path) :
    let files := visitedFiles state.tree arguments entry
    let components := ((compile compiler arguments entry document).run.run state).2.components
    (∀ moduleId, components.get? moduleId =
      if ModuleFilter.IsScriptFile moduleId then
        (files.reverse.find? fun path => ModuleId.normalize path.text = moduleId).bind
          state.tree.component?
      else none) ∧
    ((∀ path ∈ files, ∀ point ∈ path.text, point ≠ '?' ∧ point ≠ '#' ∧ point ≠ '\\') →
      (files.map Path.text).Nodup →
      components.entries = files.filterMap fun path =>
        if ModuleFilter.IsScriptFile path.text then (state.tree.component? path).map (path.text, ·)
        else none) := by
  intro files components
  have isStandard := compilerOf_standard made noInclude noExclude
  have readable : ∀ path ∈ files, IsReadable compiler state.tree path :=
    fun path visited accepted =>
      analyzed path visited ((accepts_visited isStandard absolute visited).mp accepted)
  have reads : ∀ module ∈ files.map state.tree.moduleAt, compiler.Reads module := by
    intro module mem
    rcases List.mem_map.mp mem with ⟨path, visited, rfl⟩
    exact (readable path visited).reads
  have registered : components =
      Registration.ofEffects (compiler.effectsOn (files.map state.tree.moduleAt)) :=
    compile_components document readable
  rw [registered]
  constructor
  · intro moduleId
    rw [Compiler.get?_registered reads, ← List.map_reverse, List.find?_map]
    change (if compiler.filter.accepts moduleId then Option.bind (Option.map state.tree.moduleAt
      (files.reverse.find? fun path => ModuleId.normalize path.text = moduleId)) _ else none) = _
    cases last : files.reverse.find? fun path => ModuleId.normalize path.text = moduleId with
    | none => simp
    | some path =>
        have visited : path ∈ files := List.mem_reverse.mp (List.mem_of_find?_eq_some last)
        have isNormal : ModuleId.normalize path.text = moduleId := by
          simpa using List.find?_some last
        have accepts := accepts_visited isStandard absolute visited
        rw [isNormal] at accepts
        simp only [accepts, Option.map_some, Option.bind_some, FileTree.ofSource?_moduleAt]
  · intro plain distinct
    have normal : ∀ path ∈ files, ModuleId.normalize path.text = path.text := fun path visited =>
      ModuleId.normalize_of_plain (plain path visited)
    have sameIds : (files.map state.tree.moduleAt).map (fun module => ModuleId.normalize module.1) =
        files.map Path.text := by
      rw [List.map_map]
      exact List.map_congr_left normal
    rw [Compiler.entries_registered reads (sameIds ▸ distinct), List.filterMap_map]
    refine List.filterMap_congr fun path visited => ?_
    have accepts := accepts_visited isStandard absolute visited
    rw [normal path visited] at accepts
    have isModule : (state.tree.moduleAt path).1 = path.text := rfl
    simp only [Function.comp_apply, isModule, normal path visited, accepts,
      FileTree.ofSource?_moduleAt]

/-- Scripts in folders, with unusual characters in their paths. Installed packages are left out, and
so is a script that is no component. -/
theorem compile_registers_folders :
    let tree := projectTree [(["index.html"], "<body></body>"),
      (["lib", "a b.mjs"], styledSource "a"), (["lib", "é&[1].js"], styledSource "b"),
      (["node_modules", "c.js"], styledSource "c"),
      (["notes.cjs"], "export const notes = 1")]
    let files := visitedFiles tree entryArguments ⟨.root, ["index.html"]⟩
    (∀ path ∈ files, ModuleFilter.IsScriptFile (ModuleId.normalize path.text) →
      tree.IsAnalyzed path) ∧
    (∀ path ∈ files, ∀ point ∈ path.text, point ≠ '?' ∧ point ≠ '#' ∧ point ≠ '\\') ∧
    (files.map Path.text).Nodup ∧
    (componentsOf tree).entries =
      [(Text.ofString "/lib/a b.mjs", styledRecord "a"),
        (Text.ofString "/lib/é&[1].js", styledRecord "b")] := by
  intro tree files
  have isFiles : files = [⟨.root, ["index.html"]⟩, ⟨.root, ["lib", "a b.mjs"]⟩,
      ⟨.root, ["lib", "é&[1].js"]⟩, ⟨.root, ["node_modules", "c.js"]⟩, ⟨.root, ["notes.cjs"]⟩] :=
    (visitedFiles_of_sorted (by decide)).trans (by decide)
  have analyzed : ∀ path ∈ files, ModuleFilter.IsScriptFile (ModuleId.normalize path.text) →
      tree.IsAnalyzed path := by
    rw [isFiles]
    decide +kernel
  have plain : ∀ path ∈ files, ∀ point ∈ path.text,
      point ≠ '?' ∧ point ≠ '#' ∧ point ≠ '\\' := by
    have checked : ∀ path ∈ files, path.text.all fun point =>
        point ≠ '?' ∧ point ≠ '#' ∧ point ≠ '\\' := by
      rw [isFiles]
      decide
    exact fun path visited point mem =>
      of_decide_eq_true (List.all_eq_true.mp (checked path visited) point mem)
  have distinct : (files.map Path.text).Nodup := by
    rw [isFiles]
    decide
  refine ⟨analyzed, plain, distinct, ?_⟩
  have entries := (@compile_registers _ ⟨tree, ⟨.begin [], []⟩⟩ entryArguments _ .usual rfl rfl rfl
    rfl [] analyzed).2 plain distinct
  refine entries.trans ?_
  change files.filterMap _ = _
  rw [isFiles]
  decide +kernel

theorem componentsOf_eq {tree : FileTree} {files : List Path}
    (sorted : (tree.listedBelow []).Pairwise fun first second => Path.partsLe first second)
    (isFiles : (tree.listedBelow []).map (Path.mk .root) = files)
    (readable : ∀ path ∈ files, IsReadable ⟨.usual, .standard⟩ tree path) :
    componentsOf tree = Registration.ofEffects
      (Compiler.effectsOn ⟨.usual, .standard⟩ (files.map tree.moduleAt)) := by
  have visited := (visitedFiles_of_sorted sorted).trans isFiles
  rw [← visited] at readable ⊢
  exact @compile_components _ ⟨tree, ⟨.begin [], []⟩⟩ _ _ [] readable

/-- Scripts with components that are not registered: the name of one holds a number sign, so that
its normal form does not end like that of a script; one gives its place to a file with another
name; and one is removed for a file with another name that is no component. -/
theorem compile_loses :
    let skipped := projectTree [(["a#b.js"], styledSource "a"), (["index.html"], "<body></body>")]
    let replaced := projectTree [(["a.js"], styledSource "a"), (["a.js#b.js"], styledSource "b"),
      (["index.html"], "<body></body>")]
    let removed := projectTree [(["a.js"], styledSource "a"),
      (["a.js#old.js"], "export const a = 1"),
      (["index.html"], "<body></body>")]
    let file (name : String) : Path := ⟨.root, [name]⟩
    (∀ name ∈ ["a#b.js", "a.js", "a.js#b.js"], ModuleFilter.IsScriptFile (file name).text) ∧
    (skipped.component? (file "a#b.js") = some (styledRecord "a") ∧
      (componentsOf skipped).entries = []) ∧
    (replaced.component? (file "a.js") = some (styledRecord "a") ∧
      replaced.component? (file "a.js#b.js") = some (styledRecord "b") ∧
      (componentsOf replaced).entries = [(Text.ofString "/a.js", styledRecord "b")]) ∧
    removed.component? (file "a.js") = some (styledRecord "a") ∧
      (componentsOf removed).entries = [] := by
  intro skipped replaced removed file
  have ofSkipped := @componentsOf_eq skipped [file "a#b.js", file "index.html"]
    (by decide) (by decide) (by decide)
  have ofReplaced := @componentsOf_eq replaced [file "a.js", file "a.js#b.js", file "index.html"]
    (by decide) (by decide) (by decide +kernel)
  have ofRemoved := @componentsOf_eq removed [file "a.js", file "a.js#old.js", file "index.html"]
    (by decide) (by decide) (by decide +kernel)
  rw [ofSkipped, ofReplaced, ofRemoved]
  decide +kernel

end Registering

end Run

end ComponentInliner
