import ComponentInliner.Proofs.Component.Order
import ComponentInliner.Proofs.OrderedMap
import Mathlib.Data.List.Nodup

/-!
# The walk as a recursion

The depth-first walk keeps a path of stops, each with the dependencies that are still pending there.
The path stands for the calls of a plain recursion: to visit a module that was not visited yet is to
mark it, to visit its dependencies in the order in which they are declared, and to list it then.
`Visits` has one rule for each way in which the next module is treated. The recursion ends for every
graph and in only one way, and it lists what the walk lists (`visits_iff_sorted`).
-/

namespace ComponentInliner.DependencyGraph

/-- How far the recursion has come: the modules that were visited, the last one first, and the
components that were listed. -/
structure Progress where
  visited : List Text
  listed : List (Text × ComponentRecord)

namespace Progress

def start : Progress := ⟨[], []⟩

def mark (progress : Progress) (moduleId : Text) : Progress :=
  ⟨moduleId :: progress.visited, progress.listed⟩

def list (progress : Progress) (entry : Text × ComponentRecord) : Progress :=
  ⟨progress.visited, progress.listed ++ [entry]⟩

end Progress

/-- Visiting modules one after the other leads from one progress to another. -/
inductive Visits (graph : DependencyGraph) : Progress → List Text → Progress → Prop
  | nil {progress : Progress} : Visits graph progress [] progress
  | again {before after : Progress} {moduleId : Text} {rest : List Text}
      (known : moduleId ∈ before.visited) (following : Visits graph before rest after) :
      Visits graph before (moduleId :: rest) after
  | first {before inner after : Progress} {moduleId : Text} {record : ComponentRecord}
      {rest : List Text} (unknown : moduleId ∉ before.visited)
      (registered : graph.components.get? moduleId = some record)
      (dependencies : Visits graph (before.mark moduleId) (graph.dependencies moduleId) inner)
      (following : Visits graph (inner.list (moduleId, record)) rest after) :
      Visits graph before (moduleId :: rest) after

/-- The registered modules that were not visited. -/
def unvisited (graph : DependencyGraph) (visited : List Text) : List Text :=
  graph.moduleIds.filter fun moduleId => moduleId ∉ visited

section Registered

variable {graph : DependencyGraph} {moduleId : Text} {record : ComponentRecord}

theorem mem_moduleIds_of_get? (registered : graph.components.get? moduleId = some record) :
    moduleId ∈ graph.moduleIds :=
  List.mem_map_of_mem (OrderedMap.mem_of_get? registered)

theorem exists_get?_of_mem (registered : moduleId ∈ graph.moduleIds) :
    ∃ record, graph.components.get? moduleId = some record := by
  rcases List.mem_map.mp registered with ⟨entry, mem, rfl⟩
  exact ⟨entry.2, graph.components.distinct.get?_of_mem mem⟩

theorem entry?_of_get? (registered : graph.components.get? moduleId = some record) :
    graph.entry? moduleId = some (moduleId, record) :=
  graph.entry?_of_mem (OrderedMap.mem_of_get? registered)

end Registered

section Unvisited

variable {graph : DependencyGraph} {visited : List Text} {moduleId : Text}

theorem mem_unvisited :
    moduleId ∈ graph.unvisited visited ↔ moduleId ∈ graph.moduleIds ∧ moduleId ∉ visited := by
  simp [unvisited]

@[simp]
theorem unvisited_nil : graph.unvisited [] = graph.moduleIds := by
  simp [unvisited]

/-- To mark a module is to take it from those that were not visited. -/
theorem unvisited_cons : graph.unvisited (moduleId :: visited) =
    (graph.unvisited visited).erase moduleId := by
  have distinct : (graph.unvisited visited).Nodup := graph.nodup_moduleIds.filter _
  rw [distinct.erase_eq_filter]
  unfold unvisited
  rw [List.filter_filter]
  apply List.filter_congr
  intro other _
  by_cases same : other = moduleId
  · simp [same]
  · simp [same]

theorem length_unvisited_cons_lt (isUnvisited : moduleId ∈ graph.unvisited visited) :
    (graph.unvisited (moduleId :: visited)).length < (graph.unvisited visited).length := by
  rw [unvisited_cons, List.length_erase_of_mem isUnvisited]
  have positive := List.length_pos_of_mem isUnvisited
  omega

theorem length_unvisited_le {later : List Text} (kept : visited ⊆ later) :
    (graph.unvisited later).length ≤ (graph.unvisited visited).length := by
  apply List.Sublist.length_le
  apply List.monotone_filter_right
  intro other isUnvisited
  simp only [decide_eq_true_eq] at isUnvisited ⊢
  exact fun wasVisited => isUnvisited (kept wasVisited)

end Unvisited

section Steps

variable {graph : DependencyGraph} {unreached pending rest : List Text} {moduleId next : Text}
  {outer : List Stop}

/-- A stop is left when nothing is pending there that was not reached. -/
theorem walkPath_leave (nothing : nextUnreached? unreached pending = none) :
    walkPath graph unreached (⟨moduleId, pending⟩ :: outer) =
      (moduleId :: (walkPath graph unreached outer).1, (walkPath graph unreached outer).2) := by
  rw [walkPath]
  split
  · rfl
  · next found => cases found.symm.trans nothing

theorem walkPath_enter (found : nextUnreached? unreached pending = some (next, rest)) :
    walkPath graph unreached (⟨moduleId, pending⟩ :: outer) =
      walkPath graph (unreached.erase next) (graph.arrive next :: ⟨moduleId, rest⟩ :: outer) := by
  rw [walkPath]
  split
  · next nothing => cases found.symm.trans nothing
  · next other remaining found' =>
      cases found.symm.trans found'
      rfl

/-- A pending module that was reached before is passed over. -/
theorem walkPath_pass (reached : next ∉ unreached) :
    walkPath graph unreached (⟨moduleId, next :: pending⟩ :: outer) =
      walkPath graph unreached (⟨moduleId, pending⟩ :: outer) := by
  have passed : nextUnreached? unreached (next :: pending) = nextUnreached? unreached pending :=
    if_neg reached
  cases found : nextUnreached? unreached pending with
  | none => exact (walkPath_leave (passed.trans found)).trans (walkPath_leave found).symm
  | some entered => exact (walkPath_enter (passed.trans found)).trans (walkPath_enter found).symm

end Steps

namespace Visits

variable {graph : DependencyGraph} {before after other : Progress} {modules : List Text}

theorem unique (visits : graph.Visits before modules after)
    (again : graph.Visits before modules other) : after = other := by
  induction visits generalizing other with
  | nil =>
      cases again
      rfl
  | again known _ ih =>
      cases again with
      | again _ following => exact ih following
      | first unknown => exact absurd known unknown
  | first unknown registered _ _ ihDependencies ihFollowing =>
      cases again with
      | again known => exact absurd known unknown
      | first _ registered' dependencies following =>
          cases registered.symm.trans registered'
          cases ihDependencies dependencies
          exact ihFollowing following

/-- Modules that were all visited are passed over. -/
theorem allKnown (known : ∀ moduleId ∈ modules, moduleId ∈ before.visited) :
    graph.Visits before modules before := by
  induction modules with
  | nil => exact .nil
  | cons moduleId rest ih =>
      rcases List.forall_mem_cons.mp known with ⟨isKnown, restKnown⟩
      exact .again isKnown (ih restKnown)

/-- What the walk does with the pending modules of a stop, until it leaves the stop, is what the
recursion does with them. -/
theorem walkPath (visits : graph.Visits before modules after) (moduleId : Text)
    (outer : List Stop) :
    before.listed ++ (graph.walkPath (graph.unvisited before.visited)
        (⟨moduleId, modules⟩ :: outer)).1.filterMap graph.entry? =
      after.listed ++ (moduleId ::
        (graph.walkPath (graph.unvisited after.visited) outer).1).filterMap graph.entry? ∧
    (graph.walkPath (graph.unvisited before.visited) (⟨moduleId, modules⟩ :: outer)).2 =
      (graph.walkPath (graph.unvisited after.visited) outer).2 := by
  induction visits generalizing moduleId outer with
  | @nil progress =>
      have nothing : nextUnreached? (graph.unvisited progress.visited) [] = none := rfl
      rw [walkPath_leave nothing]
      exact ⟨rfl, rfl⟩
  | @again before after next rest known _ ih =>
      have reached : next ∉ graph.unvisited before.visited :=
        fun mem => (mem_unvisited.mp mem).2 known
      rw [walkPath_pass reached]
      exact ih moduleId outer
  | @first before inner after next record rest unknown registered _ _ onDependencies onRest =>
      have isUnvisited : next ∈ graph.unvisited before.visited :=
        mem_unvisited.mpr ⟨mem_moduleIds_of_get? registered, unknown⟩
      have found : nextUnreached? (graph.unvisited before.visited) (next :: rest) =
          some (next, rest) := if_pos isUnvisited
      rcases onDependencies next (⟨moduleId, rest⟩ :: outer) with ⟨listedInside, leftInside⟩
      rcases onRest moduleId outer with ⟨listedAfter, leftAfter⟩
      rw [walkPath_enter found, ← unvisited_cons]
      refine ⟨?_, leftInside.trans leftAfter⟩
      rw [List.filterMap_cons_some (entry?_of_get? registered), List.append_cons] at listedInside
      exact listedInside.trans listedAfter

/-- What the walks from several modules list is what the recursion lists. -/
theorem walkFrom (visits : graph.Visits before modules after) :
    before.listed ++ (graph.walkFrom (graph.unvisited before.visited) modules).filterMap
      graph.entry? = after.listed := by
  induction visits with
  | nil => simp [DependencyGraph.walkFrom]
  | @again before after moduleId rest known _ ih =>
      have reached : moduleId ∉ graph.unvisited before.visited :=
        fun mem => (mem_unvisited.mp mem).2 known
      rw [DependencyGraph.walkFrom, if_neg reached]
      exact ih
  | @first before inner after moduleId record rest unknown registered dependencies _ _ ih =>
      have isUnvisited : moduleId ∈ graph.unvisited before.visited :=
        mem_unvisited.mpr ⟨mem_moduleIds_of_get? registered, unknown⟩
      let walked := graph.walkPath (graph.unvisited (moduleId :: before.visited))
        [graph.arrive moduleId]
      obtain ⟨listed, left⟩ := dependencies.walkPath moduleId []
      rw [DependencyGraph.walkPath, List.filterMap_cons_some (entry?_of_get? registered),
        List.filterMap_nil] at listed
      rw [DependencyGraph.walkPath] at left
      have walkedListed : before.listed ++ walked.1.filterMap graph.entry? =
          (inner.list (moduleId, record)).listed := listed
      have walkedLeft : walked.2 = graph.unvisited (inner.list (moduleId, record)).visited := left
      rw [DependencyGraph.walkFrom, if_pos isUnvisited, ← unvisited_cons]
      change before.listed ++ (walked.1 ++ graph.walkFrom walked.2 rest).filterMap graph.entry? =
        after.listed
      rw [List.filterMap_append, ← List.append_assoc, walkedListed, walkedLeft]
      exact ih

end Visits

variable (graph : DependencyGraph)

/-- The recursion comes to an end, whatever was visited before. -/
theorem exists_visits (before : Progress) (modules : List Text)
    (registered : ∀ moduleId ∈ modules, moduleId ∈ graph.moduleIds) :
    ∃ after, graph.Visits before modules after ∧ before.visited ⊆ after.visited := by
  -- Marking a module leaves fewer unvisited ones, and passing one over shortens the list.
  induction bound : (graph.unvisited before.visited).length using Nat.strong_induction_on
    generalizing before modules with
  | _ count shorter =>
      induction modules with
      | nil => exact ⟨before, .nil, List.Subset.refl _⟩
      | cons moduleId rest ih =>
          rcases List.forall_mem_cons.mp registered with ⟨isRegistered, restRegistered⟩
          by_cases known : moduleId ∈ before.visited
          · rcases ih restRegistered with ⟨after, visits, kept⟩
            exact ⟨after, .again known visits, kept⟩
          · have fewer := length_unvisited_cons_lt (mem_unvisited.mpr ⟨isRegistered, known⟩)
            rcases exists_get?_of_mem isRegistered with ⟨record, found⟩
            rcases shorter _ (bound ▸ fewer) (before.mark moduleId) (graph.dependencies moduleId)
              (fun _ depends => graph.mem_moduleIds_of_dependsOn depends) rfl
              with ⟨inner, visitsInner, keptInner⟩
            have fewerLater : (graph.unvisited inner.visited).length < count :=
              bound ▸ Nat.lt_of_le_of_lt (length_unvisited_le keptInner) fewer
            rcases shorter _ fewerLater (inner.list (moduleId, record)) rest restRegistered rfl
              with ⟨after, visits, kept⟩
            refine ⟨after, .first known found visitsInner visits, ?_⟩
            exact fun _ mem => kept (keptInner (List.mem_cons_of_mem _ mem))

/-- The walk lists what the recursion lists. -/
theorem Visits.listed_eq_sorted {graph : DependencyGraph} {after : Progress}
    (visits : graph.Visits .start graph.moduleIds after) : after.listed = graph.sorted := by
  have listed := visits.walkFrom
  rw [Progress.start, unvisited_nil, List.nil_append] at listed
  exact listed.symm

/--
The recursion that visits the modules in the order of registration ends, in one way only, and what
it has listed then is the order in which components are written.
-/
theorem visits_iff_sorted :
    ∃ visited, ∀ after,
      graph.Visits .start graph.moduleIds after ↔ after = ⟨visited, graph.sorted⟩ := by
  rcases graph.exists_visits .start graph.moduleIds fun _ mem => mem with ⟨final, visits, -⟩
  refine ⟨final.visited, fun after => ⟨fun again => ?_, ?_⟩⟩
  · rw [again.unique visits, ← visits.listed_eq_sorted]
  · rintro rfl
    rw [← visits.listed_eq_sorted]
    exact visits

end ComponentInliner.DependencyGraph
