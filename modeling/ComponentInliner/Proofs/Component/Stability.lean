import ComponentInliner.Proofs.Component.Cycle
import ComponentInliner.Proofs.Component.Recursion
import ComponentInliner.Proofs.OrderedMap

/-!
# Sorting what is in order

Components that are registered after everything they depend on are written in the order of
registration: whenever the recursion comes to a module, all that the module depends on was visited
before. Since dependencies come first in what was sorted, sorting it once more changes nothing, as
long as names mean the same modules there, which they do when no two components share one.
-/

namespace ComponentInliner.DependencyGraph

/-- Whatever a module depends on, except itself, is registered before it. -/
def RegisteredFirst (graph : DependencyGraph) : Prop :=
  ∀ moduleId ∈ graph.moduleIds, ∀ dependency ∈ graph.dependencies moduleId,
    dependency ≠ moduleId → [dependency, moduleId].Sublist graph.moduleIds

/-- No two components share a name. -/
def NamesDistinct (graph : DependencyGraph) : Prop :=
  (graph.components.values.map ComponentRecord.name).Nodup

/-- What comes before an item of a list without repetitions stands in front of it. -/
theorem mem_of_pair_sublist {first second : Text} {front back : List Text}
    (distinct : (front ++ second :: back).Nodup)
    (ordered : [first, second].Sublist (front ++ second :: back)) : first ∈ front := by
  induction front with
  | nil =>
      have fresh : second ∉ back := (List.nodup_cons.mp distinct).1
      cases ordered with
      | cons _ later => exact absurd (later.subset (by simp)) fresh
      | cons_cons _ later => exact absurd (List.singleton_sublist.mp later) fresh
  | cons item front ih =>
      cases ordered with
      | cons _ later => exact List.mem_cons_of_mem _ (ih (List.nodup_cons.mp distinct).2 later)
      | cons_cons => exact List.mem_cons_self ..

section Order

variable {graph : DependencyGraph}

/-- From a point on at which exactly the modules before it were visited, the recursion lists one
module after the other. -/
theorem RegisteredFirst.visits (registeredFirst : graph.RegisteredFirst) {before : Progress}
    {entries rest : List (Text × ComponentRecord)}
    (split : graph.components.entries = entries ++ rest)
    (visited : ∀ moduleId, moduleId ∈ before.visited ↔ moduleId ∈ entries.map Prod.fst) :
    ∃ after, graph.Visits before (rest.map Prod.fst) after ∧
      after.listed = before.listed ++ rest := by
  induction rest generalizing before entries with
  | nil => exact ⟨before, .nil, (List.append_nil _).symm⟩
  | cons entry rest ih =>
      have ids : graph.moduleIds = entries.map Prod.fst ++ entry.1 :: rest.map Prod.fst := by
        unfold moduleIds OrderedMap.keys
        rw [split, List.map_append, List.map_cons]
      have distinct := ids ▸ graph.nodup_moduleIds
      have entryMem : entry ∈ graph.components.entries :=
        split ▸ List.mem_append_right _ (List.mem_cons_self ..)
      have unknown : entry.1 ∉ before.visited := fun mem =>
        (List.nodup_append.mp distinct).2.2 _ ((visited _).mp mem) _ (List.mem_cons_self ..) rfl
      have allKnown : ∀ dependency ∈ graph.dependencies entry.1,
          dependency ∈ (before.mark entry.1).visited := by
        intro dependency depends
        by_cases itself : dependency = entry.1
        · exact itself ▸ List.mem_cons_self ..
        · have ordered := registeredFirst entry.1 (List.mem_map_of_mem entryMem) dependency depends
            itself
          rw [ids] at ordered
          have isEarlier := mem_of_pair_sublist distinct ordered
          exact List.mem_cons_of_mem _ ((visited dependency).mpr isEarlier)
      have visitedAfter : ∀ moduleId, moduleId ∈ ((before.mark entry.1).list entry).visited ↔
          moduleId ∈ (entries ++ [entry]).map Prod.fst := by
        intro moduleId
        simp [Progress.list, Progress.mark, visited, or_comm]
      rcases ih (by rw [split, List.append_cons]) visitedAfter with ⟨after, visits, listed⟩
      refine ⟨after, .first unknown (graph.components.distinct.get?_of_mem entryMem)
        (.allKnown allKnown) visits, ?_⟩
      rw [listed]
      exact List.append_assoc ..

theorem sorted_of_registeredFirst (registeredFirst : graph.RegisteredFirst) :
    graph.sorted = graph.components.entries := by
  have unvisited : ∀ moduleId, moduleId ∈ Progress.start.visited ↔
      moduleId ∈ ([] : List (Text × ComponentRecord)).map Prod.fst :=
    fun _ => Iff.rfl
  rcases registeredFirst.visits rfl unvisited with ⟨after, visits, listed⟩
  exact visits.listed_eq_sorted.symm.trans listed

end Order

section Names

variable {graph again : DependencyGraph}

/-- Where no two components share a name, a name means the component that carries it. -/
theorem carrier?_eq_some_iff (distinct : graph.NamesDistinct) {name moduleId : Text} :
    graph.carrier? name = some moduleId ↔
      ∃ record, (moduleId, record) ∈ graph.components.entries ∧ record.name = name := by
  have distinctNames : (graph.components.entries.map (ComponentRecord.name ∘ Prod.snd)).Nodup := by
    rw [← List.map_map]
    exact distinct
  constructor
  · intro carries
    rcases Option.map_eq_some_iff.mp carries with ⟨⟨_, record⟩, found, rfl⟩
    exact ⟨record, List.mem_of_find?_eq_some found, by simpa using List.find?_some found⟩
  · rintro ⟨record, mem, rfl⟩
    have exists_carrier : ∃ entry ∈ graph.components.entries, entry.2.name = record.name :=
      ⟨_, mem, rfl⟩
    have isFound : (graph.components.entries.find? fun entry =>
        entry.2.name = record.name).isSome := by
      simpa [List.find?_isSome] using exists_carrier
    rcases Option.isSome_iff_exists.mp isFound with ⟨entry, found⟩
    have carried : entry.2.name = record.name := by simpa using List.find?_some found
    have same :=
      List.inj_on_of_nodup_map distinctNames (List.mem_of_find?_eq_some found) mem carried
    rw [carrier?, found, same]
    rfl

/-- Names that are distinct mean the same in whatever order the components are registered. -/
theorem carrier?_of_perm (distinct : graph.NamesDistinct)
    (perm : again.components.entries.Perm graph.components.entries) (name : Text) :
    again.carrier? name = graph.carrier? name := by
  have distinctAgain : again.NamesDistinct :=
    (((perm.map Prod.snd).map ComponentRecord.name).nodup_iff).mpr distinct
  refine Option.ext fun moduleId => ?_
  rw [carrier?_eq_some_iff distinctAgain, carrier?_eq_some_iff distinct]
  exact exists_congr fun record => and_congr_left' perm.mem_iff

end Names

variable (graph : DependencyGraph)

/--
Components that are registered after everything else that they depend on are written in the order of
registration. So if components have names of their own and no module leads back to itself,
registering them again in the order in which they are written does not change that order.
-/
theorem sorted_stable :
    (graph.RegisteredFirst → graph.sorted = graph.components.entries) ∧
      (graph.NamesDistinct → graph.Acyclic → ∀ again : DependencyGraph,
        again.components = .ofList graph.sorted →
          (∀ moduleId, again.declaredBy moduleId = graph.declaredBy moduleId) →
            again.sorted = graph.sorted) := by
  refine ⟨sorted_of_registeredFirst, fun distinctNames acyclic again registered declares => ?_⟩
  have sortedDistinct : (graph.sorted.map Prod.fst).Nodup := by
    rw [sorted_moduleIds]
    exact graph.sortedIds_perm.nodup_iff.mpr graph.nodup_moduleIds
  have entries : again.components.entries = graph.sorted := by
    rw [registered]
    exact OrderedMap.entries_ofList sortedDistinct
  have moduleIds : again.moduleIds = graph.sorted.map Prod.fst := congrArg (List.map _) entries
  have carriers := carrier?_of_perm distinctNames (entries ▸ graph.sorted_perm)
  have dependencies : again.dependencies = graph.dependencies := by
    funext moduleId
    rw [DependencyGraph.dependencies, declares, funext carriers]
    rfl
  have registeredFirst : again.RegisteredFirst := by
    intro moduleId mem dependency depends _
    rw [moduleIds] at mem ⊢
    rw [dependencies] at depends
    have isRegistered : moduleId ∈ graph.moduleIds :=
      (graph.sorted_perm.map Prod.fst).mem_iff.mp mem
    exact graph.sorted_of_acyclic acyclic isRegistered depends
  rw [sorted_of_registeredFirst registeredFirst, entries]

/-- A module that names itself keeps its place, and three modules that are registered in the order
opposite to their dependencies keep the order in which they are written. -/
theorem sorted_stable_of_chain :
    let record (name : Text) (dependencies : List Text) : ComponentRecord :=
      ⟨⟨name, none, dependencies, [], []⟩, [], [], []⟩
    let inOrder : DependencyGraph := .ofComponents (.ofList [("/z.js", record "Z" ["Z"]),
      ("/y.js", record "Y" ["Z", "Nobody"])])
    let chain : DependencyGraph := .ofComponents (.ofList [("/x.js", record "X" ["Y"]),
      ("/y.js", record "Y" ["Z", "Nobody"]), ("/z.js", record "Z" [])])
    let again : DependencyGraph := ⟨.ofList chain.sorted, chain.declared⟩
    (inOrder.RegisteredFirst ∧ inOrder.sorted = inOrder.components.entries) ∧
      (¬chain.RegisteredFirst ∧ chain.NamesDistinct ∧ chain.Acyclic ∧
        again.sorted = chain.sorted) := by
  intro record inOrder chain again
  have registeredFirst : inOrder.RegisteredFirst := by
    unfold RegisteredFirst
    decide
  have distinctNames : chain.NamesDistinct := by
    unfold NamesDistinct
    decide
  have ordered : ∀ moduleId ∈ chain.moduleIds, ∀ dependency ∈ chain.dependencies moduleId,
      [dependency, moduleId].Sublist ["/z.js", "/y.js", "/x.js"] := by
    decide
  have acyclic : chain.Acyclic := acyclic_of_ordered (by decide) ordered
  have isReversed : ¬chain.RegisteredFirst := by
    unfold RegisteredFirst
    decide
  exact ⟨⟨registeredFirst, inOrder.sorted_stable.1 registeredFirst⟩, isReversed, distinctNames,
    acyclic, chain.sorted_stable.2 distinctNames acyclic again rfl fun _ => rfl⟩

end ComponentInliner.DependencyGraph
