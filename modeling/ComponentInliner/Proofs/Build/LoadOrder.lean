import ComponentInliner.Proofs.Build.Finishing
import ComponentInliner.Proofs.Build.Registrations
import ComponentInliner.Proofs.Component.Cycle
import ComponentInliner.Proofs.Html.Triplets
import Mathlib.Data.List.Nodup

/-!
# Builds in another order

A build may be given its modules in any order. If no two of them have the same module id in normal
form, each of them is looked at once, and what is found out about it does not depend on the others.
So builds that differ in the order of their modules register the same components, warn about the
same modules and write the same triplets; only places differ (`buildDocument_reordered`). Where
components have names of their own and do not depend on themselves, dependencies come first in
whatever order the modules were given.
-/

namespace ComponentInliner

namespace OrderedMap

variable {Key Entry : Type} [DecidableEq Key] {map other : OrderedMap Key Entry}

/-- Maps in which the same is found at every key have the same entries, in some order. -/
theorem Distinct.perm (distinct : map.Distinct) (otherDistinct : other.Distinct)
    (same : ∀ key, map.get? key = other.get? key) : map.entries.Perm other.entries := by
  apply (List.perm_ext_iff_of_nodup (List.Nodup.of_map _ distinct)
    (List.Nodup.of_map _ otherDistinct)).mpr
  rintro ⟨key, entry⟩
  rw [distinct.mem_entries_iff, otherDistinct.mem_entries_iff, same]

end OrderedMap

/-- Where every module has one effect at most, each effect is the last one on its module. -/
theorem lastEffect_iff_mem {effects : List Effect} (distinct : (effects.map Effect.moduleId).Nodup)
    {effect : Effect} : LastEffect effects effect ↔ effect ∈ effects := by
  constructor
  · rintro ⟨before, after, rfl, -⟩
    exact List.mem_append_right _ (List.mem_cons_self ..)
  · intro mem
    rcases List.append_of_mem mem with ⟨before, after, rfl⟩
    refine ⟨before, after, rfl, fun later isLater same => ?_⟩
    rw [List.map_append, List.map_cons] at distinct
    have fresh := (List.nodup_cons.mp (List.nodup_append.mp distinct).2.1).1
    exact fresh (same ▸ List.mem_map_of_mem isLater)

namespace Session

/-- A registered component names another one as a dependency. -/
def Names (session : Session) (record other : ComponentRecord) : Prop :=
  record ∈ session.components.values ∧ other ∈ session.components.values ∧
    other.name ∈ record.metadata.dependencies

section Dependencies

variable {session : Session} (declares : session.Declares)

include declares

theorem declared_get? (moduleId : Text) : session.declared.get? moduleId =
    (session.components.get? moduleId).map fun record => record.metadata.dependencies := by
  rw [declares]
  exact OrderedMap.get?_mapEntries moduleId

/-- What a module depends on carries a name that its component declares. -/
theorem names_of_dependsOn {moduleId dependency : Text}
    (depends : session.graph.DependsOn moduleId dependency) :
    ∃ record other, session.components.get? moduleId = some record ∧
      session.components.get? dependency = some other ∧ session.Names record other := by
  rcases List.mem_filterMap.mp depends with ⟨name, declared, carries⟩
  rcases Option.map_eq_some_iff.mp carries with ⟨⟨_, other⟩, found, rfl⟩
  have carried : other.name = name := by simpa using List.find?_some found
  have registered := List.mem_of_find?_eq_some found
  have declaredBy : session.graph.declaredBy moduleId =
      ((session.components.get? moduleId).map fun record =>
        record.metadata.dependencies).getD [] :=
    congrArg (Option.getD · []) (declared_get? declares moduleId)
  rw [declaredBy] at declared
  cases isRegistered : session.components.get? moduleId with
  | none =>
      rw [isRegistered] at declared
      cases declared
  | some record =>
      rw [isRegistered] at declared
      have recordMem := session.components.distinct.mem_entries_iff.mpr isRegistered
      exact ⟨record, other, rfl, session.components.distinct.get?_of_mem registered,
        List.mem_map_of_mem recordMem, List.mem_map_of_mem registered, carried ▸ declared⟩

/-- If no component depends on itself, over however many others, then neither does a module. -/
theorem acyclic_of_names (acyclic : ∀ record, ¬Relation.TransGen session.Names record record) :
    session.graph.Acyclic := by
  have leads {moduleId target : Text}
      (path : Relation.TransGen session.graph.DependsOn moduleId target) :
      ∃ record other, session.components.get? moduleId = some record ∧
        session.components.get? target = some other ∧
        Relation.TransGen session.Names record other := by
    induction path with
    | single depends =>
        rcases names_of_dependsOn declares depends with ⟨record, other, found, found', names⟩
        exact ⟨record, other, found, found', .single names⟩
    | tail _ depends ih =>
        rcases ih with ⟨record, middle, found, foundMiddle, path⟩
        rcases names_of_dependsOn declares depends with ⟨middle', other, again, found', names⟩
        cases foundMiddle.symm.trans again
        exact ⟨record, other, found, found', path.tail names⟩
  intro moduleId cycle
  rcases leads cycle with ⟨record, other, found, found', path⟩
  cases found.symm.trans found'
  exact acyclic record path

/-- Where no two components have the same name, a module depends on what its component names. -/
theorem dependsOn_of_names
    (distinctNames : (session.components.values.map ComponentRecord.name).Nodup)
    {moduleId dependency : Text} {record other : ComponentRecord}
    (registered : (moduleId, record) ∈ session.components.entries)
    (dependencyRegistered : (dependency, other) ∈ session.components.entries)
    (named : other.name ∈ record.metadata.dependencies) :
    session.graph.DependsOn moduleId dependency := by
  have found := session.components.distinct.get?_of_mem registered
  have declared : session.graph.declaredBy moduleId = record.metadata.dependencies := by
    unfold DependencyGraph.declaredBy
    exact congrArg (Option.getD · []) ((declared_get? declares moduleId).trans (by rw [found]))
  have carries : session.graph.carrier? other.name = some dependency := by
    unfold DependencyGraph.carrier?
    cases first : session.graph.components.entries.find? fun entry => entry.2.name = other.name with
    | none => simpa using List.find?_eq_none.mp first _ dependencyRegistered
    | some entry =>
        have carried : entry.2.name = other.name := by simpa using List.find?_some first
        have entryMem := List.mem_of_find?_eq_some first
        rw [OrderedMap.values, List.map_map] at distinctNames
        have same := List.inj_on_of_nodup_map distinctNames entryMem dependencyRegistered carried
        rw [same]
        rfl
  exact List.mem_filterMap.mpr ⟨other.name, declared ▸ named, carries⟩

/-- Where components have names of their own and do not depend on themselves, all that a component
names is listed before it. -/
theorem sorted_names_first
    (distinctNames : (session.components.values.map ComponentRecord.name).Nodup)
    (acyclic : ∀ record, ¬Relation.TransGen session.Names record record) {place earlier : Nat}
    {record other : ComponentRecord}
    (atPlace : (session.graph.sorted.map Prod.snd)[place]? = some record)
    (atEarlier : (session.graph.sorted.map Prod.snd)[earlier]? = some other)
    (named : other.name ∈ record.metadata.dependencies) : earlier < place := by
  have inOrder : (session.graph.sorted.map Prod.fst).Nodup := by
    rw [DependencyGraph.sorted_moduleIds]
    exact session.graph.sortedIds_perm.nodup_iff.mpr session.graph.nodup_moduleIds
  have place_of {index : Nat} {entry : Text × ComponentRecord}
      (atIndex : session.graph.sorted[index]? = some entry) :
      (session.graph.sorted.map Prod.fst).idxOf entry.1 = index ∧
        entry ∈ session.components.entries := by
    rcases List.getElem?_eq_some_iff.mp atIndex with ⟨inside, rfl⟩
    refine ⟨?_, session.graph.sorted_perm.mem_iff.mp (List.getElem_mem inside)⟩
    have insideIds : index < (session.graph.sorted.map Prod.fst).length :=
      inside.trans_eq (List.length_map _).symm
    have idAtIndex : (session.graph.sorted.map Prod.fst)[index] = session.graph.sorted[index].1 :=
      List.getElem_map ..
    rw [← idAtIndex]
    exact inOrder.idxOf_getElem index _
  rw [List.getElem?_map, Option.map_eq_some_iff] at atPlace atEarlier
  rcases atPlace with ⟨⟨moduleId, _⟩, atPlace, rfl⟩
  rcases atEarlier with ⟨⟨dependency, _⟩, atEarlier, rfl⟩
  rcases place_of atPlace with ⟨rfl, registered⟩
  rcases place_of atEarlier with ⟨rfl, dependencyRegistered⟩
  have depends := dependsOn_of_names declares distinctNames registered dependencyRegistered named
  exact DependencyGraph.idxOf_lt_of_sublist inOrder (session.graph.sorted_of_acyclic
    (acyclic_of_names declares acyclic) (List.mem_map_of_mem registered) depends)

end Dependencies

end Session

namespace Compiler

theorem warnings_afterAll (operations : List Operation) (state : BuildState) :
    (state.afterAll operations).session.warnings =
      state.session.warnings ++ operations.flatMap fun operation => operation.change.warnings := by
  induction operations generalizing state with
  | nil => simp [BuildState.afterAll]
  | cons operation rest ih =>
      refine (ih (operation.after state)).trans ?_
      rw [operation.session_after, Change.warnings_applyTo, List.flatMap_cons, List.append_assoc]

/-- The effects of a build on the modules that it looks at. -/
def effectsOn (compiler : Compiler) (modules : List (Text × Text)) : List Effect :=
  (modules.map compiler.visit).filterMap fun operation => operation.change.effect?

theorem moduleId_of_visit {compiler : Compiler} {module : Text × Text} {effect : Effect}
    (found : (compiler.visit module).change.effect? = some effect) :
    effect.moduleId = ModuleId.normalize module.1 := by
  simp only [visit, Operation.change] at found
  split at found
  · split at found
    · cases found
      rfl
    · cases found
  · cases found

theorem effectsOn_sublist (compiler : Compiler) (modules : List (Text × Text)) :
    ((compiler.effectsOn modules).map Effect.moduleId).Sublist
      (modules.map fun module => ModuleId.normalize module.1) := by
  induction modules with
  | nil => exact .slnil
  | cons module rest ih =>
      unfold effectsOn at ih ⊢
      rw [List.map_cons, List.map_cons, List.filterMap_cons]
      cases found : (compiler.visit module).change.effect? with
      | none => exact ih.cons _
      | some effect =>
          rw [List.map_cons, moduleId_of_visit found]
          exact ih.cons_cons _

/-- A build that came to a document, with what it was like after the modules and at last. -/
structure FinishedBuild (compiler : Compiler) (tree : FileTree) (root document : Text)
    (modules : List (Text × Text)) where
  visited : BuildState
  last : BuildState
  output : Text
  visits : (compiler.visitAll modules).run.run (start root) = (.ok (), visited)
  returns : (compiler.buildDocument tree document modules).run.run (start root) =
    (.ok output, last)

namespace FinishedBuild

variable {compiler : Compiler} {tree : FileTree} {root document : Text}
  {modules : List (Text × Text)}

section Results

variable (build : FinishedBuild compiler tree root document modules)

/-- The components by module id. -/
def records : Registration :=
  build.last.session.components

/-- What was warned about while the build looked at the modules. -/
def moduleWarnings : List Text :=
  build.visited.session.warnings

/-- The components in the order in which they are written. -/
def written : List ComponentRecord :=
  build.last.session.graph.sorted.map Prod.snd

/-- The triplets of the components as they are put into the document. -/
def triplets : List Text :=
  build.written.map (Html.renderTriplet compiler.options.compactsStyles)

/-- Whatever a component names as a dependency is written before it. -/
def DependenciesFirst : Prop :=
  ∀ (place earlier : Nat) (record other : ComponentRecord), build.written[place]? = some record →
    build.written[earlier]? = some other → other.name ∈ record.metadata.dependencies →
      earlier < place

end Results

/-- A build comes to a document exactly if its modules can be analyzed and the texts that it needs
are given. -/
theorem returns_iff : (∃ output last,
    (compiler.buildDocument tree document modules).run.run (start root) = (.ok output, last)) ↔
      (∀ module ∈ modules, compiler.Reads module) ∧
        ∃ finish, compiler.finishing tree root = .ok finish := by
  constructor
  · rintro ⟨output, last, returns⟩
    have reads := reads_of_buildDocument returns
    refine ⟨reads, ?_⟩
    rcases buildDocument_outcome reads tree root document with ⟨more, log, outcome⟩
    cases finishes : compiler.finishing tree root with
    | error fault =>
        rw [finishes] at outcome
        cases returns.symm.trans outcome
    | ok finish => exact ⟨finish, rfl⟩
  · rintro ⟨reads, finish, finishes⟩
    rcases buildDocument_outcome reads tree root document with ⟨more, log, outcome⟩
    rw [finishes] at outcome
    exact ⟨_, _, outcome⟩

/-- Every build that returns a document is a finished one. -/
theorem nonempty_of_returns {output : Text} {last : BuildState}
    (returns : (compiler.buildDocument tree document modules).run.run (start root) =
      (.ok output, last)) : Nonempty (FinishedBuild compiler tree root document modules) := by
  rcases visitAll_updates (reads_of_buildDocument returns) (start root) with ⟨log, visits⟩
  exact ⟨⟨_, last, output, visits, returns⟩⟩

variable (build : FinishedBuild compiler tree root document modules)

include build in
theorem reads : ∀ module ∈ modules, compiler.Reads module :=
  reads_of_visitAll build.visits

theorem visited_session :
    build.visited.session = ((start root).afterAll (modules.map compiler.visit)).session := by
  rcases visitAll_updates build.reads (start root) with ⟨log, visits⟩
  exact congrArg (fun run => run.2.session) (build.visits.symm.trans visits)

/-- All that follows the modules is more warnings. -/
theorem last_session : ∃ more, build.last.session =
    { build.visited.session with warnings := build.moduleWarnings ++ more } := by
  rcases buildDocument_outcome build.reads tree root document with ⟨more, log, returns⟩
  have same := congrArg (fun run => run.2.session) (build.returns.symm.trans returns)
  refine ⟨more, same.trans ?_⟩
  rw [moduleWarnings, build.visited_session]

theorem moduleWarnings_prefix : build.moduleWarnings <+: build.last.session.warnings := by
  rcases build.last_session with ⟨more, last⟩
  rw [last]
  exact ⟨more, rfl⟩

/-- Every registered component is written once, in whatever order. -/
theorem written_perm : build.written.Perm build.records.values :=
  build.last.session.graph.sorted_perm.map Prod.snd

theorem exists_finish : ∃ finish, compiler.finishing tree root = .ok finish ∧ build.output =
    finish (compiler.withTriplets document build.written) := by
  rcases buildDocument_outcome build.reads tree root document with ⟨more, log, returns⟩
  have outcome := congrArg Prod.fst (build.returns.symm.trans returns)
  rcases build.last_session with ⟨others, last⟩
  cases finishes : compiler.finishing tree root with
  | error fault =>
      rw [finishes] at outcome
      cases outcome
  | ok finish =>
      rw [finishes] at outcome
      refine ⟨finish, rfl, (Except.ok.inj outcome).trans ?_⟩
      rw [written, last, ← build.visited_session]
      rfl

/-- The triplets stand in front of the last end tag of the body. -/
theorem withTriplets_written {before close : Text}
    (splits : Html.splitLast? Html.bodyClose document = some (before, close)) :
    compiler.withTriplets document build.written =
      before ++ Text.joinWith "\n" build.triplets ++ close := by
  rw [withTriplets, Html.insertBeforeBodyClose, splits]
  rfl

theorem withTriplets_bodiless (splits : Html.splitLast? Html.bodyClose document = none) :
    compiler.withTriplets document build.written = document := by
  rw [withTriplets, Html.insertBeforeBodyClose, splits]
  rfl

theorem records_eq : build.records = Registration.ofEffects (compiler.effectsOn modules) := by
  rcases build.last_session with ⟨more, last⟩
  rw [records, last]
  refine (congrArg Session.components build.visited_session).trans ?_
  exact Registration.components_afterAll root (modules.map compiler.visit)

theorem declares : build.last.session.Declares := by
  rcases build.last_session with ⟨more, last⟩
  rw [last, build.visited_session]
  exact Session.Declares.afterAll root (modules.map compiler.visit)

theorem moduleWarnings_eq : build.moduleWarnings =
    (modules.map compiler.visit).flatMap fun operation => operation.change.warnings := by
  rw [moduleWarnings, build.visited_session, warnings_afterAll]
  rfl

theorem get?_records (distinct : (modules.map fun module => ModuleId.normalize module.1).Nodup)
    {moduleId : Text} {record : ComponentRecord} :
    build.records.get? moduleId = some record ↔
      ⟨moduleId, some record⟩ ∈ compiler.effectsOn modules := by
  rw [build.records_eq, Registration.get?_ofEffects]
  exact lastEffect_iff_mem (distinct.sublist (compiler.effectsOn_sublist modules))

theorem dependenciesFirst
    (distinctNames : (build.records.values.map ComponentRecord.name).Nodup)
    (acyclic : ∀ record, ¬Relation.TransGen build.last.session.Names record record) :
    build.DependenciesFirst :=
  fun _ _ _ _ atPlace atEarlier named =>
    Session.sorted_names_first build.declares distinctNames acyclic atPlace atEarlier named

end FinishedBuild

/--
Builds that differ in the order of their modules, of which no two have the same id in normal form.
Both of them come to a document or none does. They have the same components and warn about the same
modules. Both write every component once, so their triplets are the same, up to the order; joined by
line feeds, these stand in front of the last end tag of the body, and what is done to the document
after that is the same too. If components have names of their own and no component depends on
itself, over however many others, both builds write dependencies first.
-/
theorem buildDocument_reordered (compiler : Compiler) (tree : FileTree) (root document : Text)
    {modules others : List (Text × Text)} (reordered : modules.Perm others)
    (distinct : (modules.map fun module => ModuleId.normalize module.1).Nodup) :
    ((∃ output last, (compiler.buildDocument tree document modules).run.run (start root) =
        (.ok output, last)) ↔
      ∃ output last, (compiler.buildDocument tree document others).run.run (start root) =
        (.ok output, last)) ∧
    ∀ (first : FinishedBuild compiler tree root document modules)
      (second : FinishedBuild compiler tree root document others),
      (∀ moduleId, first.records.get? moduleId = second.records.get? moduleId) ∧
      (first.moduleWarnings <+: first.last.session.warnings ∧
        second.moduleWarnings <+: second.last.session.warnings ∧
        first.moduleWarnings.Perm second.moduleWarnings) ∧
      (first.written.Perm first.records.values ∧ second.written.Perm second.records.values ∧
        first.triplets.Perm second.triplets) ∧
      (∃ finish, compiler.finishing tree root = .ok finish ∧
        ((∃ before close, Html.splitLast? Html.bodyClose document = some (before, close) ∧
            document = before ++ close ∧
            first.output = finish (before ++ Text.joinWith "\n" first.triplets ++ close) ∧
            second.output = finish (before ++ Text.joinWith "\n" second.triplets ++ close)) ∨
          ¬Text.ofString Html.bodyClose <:+: document ∧
            first.output = finish document ∧ second.output = finish document)) ∧
      ((first.records.values.map ComponentRecord.name).Nodup →
        (∀ record, ¬Relation.TransGen first.last.session.Names record record) →
          first.DependenciesFirst ∧ second.DependenciesFirst) := by
  constructor
  · simp only [FinishedBuild.returns_iff, reordered.mem_iff]
  intro first second
  have distinctOthers : (others.map fun module => ModuleId.normalize module.1).Nodup :=
    (reordered.map _).nodup_iff.mp distinct
  have sameEffects : (compiler.effectsOn modules).Perm (compiler.effectsOn others) :=
    (reordered.map _).filterMap _
  have sameRecords (moduleId : Text) :
      first.records.get? moduleId = second.records.get? moduleId := by
    apply Option.ext
    intro record
    rw [first.get?_records distinct, second.get?_records distinctOthers, sameEffects.mem_iff]
  have sameEntries : first.records.entries.Perm second.records.entries :=
    first.records.distinct.perm second.records.distinct sameRecords
  have sameValues : first.records.values.Perm second.records.values := sameEntries.map Prod.snd
  have sameTriplets : first.triplets.Perm second.triplets :=
    (first.written_perm.trans (sameValues.trans second.written_perm.symm)).map _
  refine ⟨sameRecords, ?_, ⟨first.written_perm, second.written_perm, sameTriplets⟩, ?_, ?_⟩
  · refine ⟨first.moduleWarnings_prefix, second.moduleWarnings_prefix, ?_⟩
    rw [first.moduleWarnings_eq, second.moduleWarnings_eq]
    exact (reordered.map _).flatMap_right _
  · rcases first.exists_finish with ⟨finish, finishes, onFirst⟩
    rcases second.exists_finish with ⟨finish', finishes', onSecond⟩
    cases finishes.symm.trans finishes'
    refine ⟨finish, finishes, ?_⟩
    cases splits : Html.splitLast? Html.bodyClose document with
    | some parts =>
        rw [first.withTriplets_written splits] at onFirst
        rw [second.withTriplets_written splits] at onSecond
        exact .inl ⟨parts.1, parts.2, rfl, Html.splitLast?_eq_some splits, onFirst, onSecond⟩
    | none =>
        rw [first.withTriplets_bodiless splits] at onFirst
        rw [second.withTriplets_bodiless splits] at onSecond
        refine .inr ⟨fun hasBody => ?_, onFirst, onSecond⟩
        rcases Html.exists_splitLast? hasBody with ⟨before, close, found⟩
        cases splits.symm.trans found
  · intro distinctNames acyclic
    have sameNames : second.last.session.Names = first.last.session.Names := by
      funext record other
      unfold Session.Names
      exact propext (and_congr sameValues.mem_iff.symm
        (and_congr_left fun _ => sameValues.mem_iff.symm))
    have distinctNames' : (second.records.values.map ComponentRecord.name).Nodup :=
      (sameValues.map _).nodup_iff.mp distinctNames
    exact ⟨first.dependenciesFirst distinctNames acyclic,
      second.dependenciesFirst distinctNames' (sameNames ▸ acyclic)⟩

section Dependent

/-- A component module with a given metadata. -/
def moduleWith (metadata : Text) : Text :=
  "export const metadata=" ++ metadata ++ ",style='',template='<p></p>',logic=()=>1"

/-- A module and one whose component depends on that of the first. -/
def dependentModules : List (Text × Text) :=
  [("b.js", moduleWith "\x7bname:'x-b',dependencies:['x-a']\x7d"),
    ("a.js", moduleWith "\x7bname:'x-a'\x7d")]

/-- What is found out about `dependentModules`. -/
def dependentEntries : List (Text × ComponentRecord) :=
  [("b.js", ⟨⟨"x-b", none, ["x-a"], [], []⟩, [], "<p></p>", "()=>1"⟩),
    ("a.js", ⟨⟨"x-a", none, [], [], []⟩, [], "<p></p>", "()=>1"⟩)]

theorem reads_dependentModules : ∀ module ∈ dependentModules, withoutRuntime.Reads module := by
  have analyzed : ∀ module ∈ dependentModules, (Component.analyze module.2).isOk = true := by
    decide +kernel
  intro module mem _
  cases found : Component.analyze module.2 with
  | ok analysis => exact ⟨analysis, rfl⟩
  | error fault =>
      have isOk := analyzed module mem
      rw [found] at isOk
      cases isOk

variable {tree : FileTree} {root document : Text}
  (build : FinishedBuild withoutRuntime tree root document dependentModules)

theorem values_dependentModules : build.records.values = dependentEntries.map Prod.snd := by
  have entries : (Registration.ofEffects (withoutRuntime.effectsOn dependentModules)).entries =
      dependentEntries := by
    decide +kernel
  rw [build.records_eq, OrderedMap.values, entries]

/-- No component of `dependentModules` is named by one that names another one. -/
theorem acyclic_dependentModules (record : ComponentRecord) :
    ¬Relation.TransGen build.last.session.Names record record := by
  have oneWay : ∀ named ∈ dependentEntries.map Prod.snd,
      ∀ record ∈ dependentEntries.map Prod.snd, named.name ∈ record.metadata.dependencies →
        named.metadata.dependencies = [] ∧ record.metadata.dependencies ≠ [] := by
    decide
  have edge {record other : ComponentRecord} (names : build.last.session.Names record other) :
      other.metadata.dependencies = [] ∧ record.metadata.dependencies ≠ [] := by
    rcases names with ⟨mem, mem', named⟩
    have values : build.last.session.components.values = dependentEntries.map Prod.snd :=
      values_dependentModules build
    rw [values] at mem mem'
    exact oneWay other mem' record mem named
  intro cycle
  rcases Relation.TransGen.head'_iff.mp cycle with ⟨_, leaves, -⟩
  rcases Relation.TransGen.tail'_iff.mp cycle with ⟨_, -, returns⟩
  exact (edge leaves).2 (edge returns).1

end Dependent

/-- A component that depends on another one comes after it, whichever module is given first. -/
theorem buildDocument_reordered_dependent :
    let others := dependentModules.reverse
    dependentModules.Perm others ∧
      (dependentModules.map fun module => ModuleId.normalize module.1).Nodup ∧
      ∃ (first : FinishedBuild withoutRuntime ⟨.empty, []⟩ [] "</body>" dependentModules)
        (second : FinishedBuild withoutRuntime ⟨.empty, []⟩ [] "</body>" others),
        first.DependenciesFirst ∧ second.DependenciesFirst := by
  intro others
  have reordered : dependentModules.Perm others := (List.reverse_perm _).symm
  have distinct : (dependentModules.map fun module => ModuleId.normalize module.1).Nodup := by
    decide
  have finishes : ∃ finish, withoutRuntime.finishing ⟨.empty, []⟩ [] = .ok finish := ⟨_, rfl⟩
  rcases buildDocument_reordered withoutRuntime ⟨.empty, []⟩ [] "</body>" reordered distinct with
    ⟨bothReturn, agree⟩
  have firstReturns := (@FinishedBuild.returns_iff withoutRuntime ⟨.empty, []⟩ [] "</body>" _).mpr
    ⟨reads_dependentModules, finishes⟩
  rcases bothReturn.mp firstReturns with ⟨_, _, secondReturns⟩
  rcases firstReturns with ⟨_, _, firstReturns⟩
  rcases FinishedBuild.nonempty_of_returns firstReturns with ⟨first⟩
  rcases FinishedBuild.nonempty_of_returns secondReturns with ⟨second⟩
  rcases agree first second with ⟨-, -, -, -, inOrder⟩
  refine ⟨reordered, distinct, first, second, inOrder ?_ (acyclic_dependentModules first)⟩
  rw [values_dependentModules]
  decide

end Compiler

end ComponentInliner
