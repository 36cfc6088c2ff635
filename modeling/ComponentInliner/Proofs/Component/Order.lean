import ComponentInliner.Component.Order
import Mathlib.Data.List.Chain
import Mathlib.Data.List.Perm.Basic
import Mathlib.Logic.Relation

/-!
# Dependencies come first

The depth-first walk lists every registered module once (`walkPath_perm`), and it lists a module
after its dependencies. Only a dependency that leads back to the module may come later: it is then
on the path of the walk when the walk looks at it, or is reached from there. `OnPath` says what
holds of the path at every step; a dependency of a module that is left was reached before the walk,
is left earlier, or leads back to the module (`walkPath_ordered`).
-/

namespace ComponentInliner.DependencyGraph

/-- A module declares a name that means another module. -/
def DependsOn (graph : DependencyGraph) (moduleId dependency : Text) : Prop :=
  dependency ∈ graph.dependencies moduleId

/-- What is known of the modules on the path of a walk. -/
structure OnPath (graph : DependencyGraph) (unreached : List Text) (path : List Stop) : Prop where
  /-- Each module on the path depends on the one inside of it. -/
  chained : path.IsChain fun inner outer => graph.DependsOn outer.moduleId inner.moduleId
  /-- What is pending at a stop is a dependency of its module. -/
  pends : ∀ stop ∈ path, ∀ next ∈ stop.pending, graph.DependsOn stop.moduleId next
  /-- What is not pending any more was reached. -/
  passed : ∀ stop ∈ path, ∀ dependency, graph.DependsOn stop.moduleId dependency →
    dependency ∉ stop.pending → dependency ∉ unreached

/-- What a walk over some modules makes of the dependencies of the modules that it leaves. -/
def Ordered (graph : DependencyGraph) (walked left : List Text) : Prop :=
  ∀ moduleId ∈ left, ∀ dependency, graph.DependsOn moduleId dependency →
    dependency ∉ walked ∨ [dependency, moduleId].Sublist left ∨
      Relation.TransGen graph.DependsOn dependency moduleId

section Pending

variable {unreached pending : List Text}

theorem not_mem_of_nextUnreached?_none (nothing : nextUnreached? unreached pending = none)
    {moduleId : Text} (mem : moduleId ∈ pending) : moduleId ∉ unreached := by
  induction pending with
  | nil => cases mem
  | cons first rest ih =>
      rw [nextUnreached?] at nothing
      split at nothing
      · cases nothing
      · next reached =>
          rcases List.mem_cons.mp mem with rfl | mem
          · exact reached
          · exact ih nothing mem

/-- The pending modules are those that were reached, the next one, and what is pending after it. -/
theorem pending_of_nextUnreached? {next : Text} {rest : List Text}
    (found : nextUnreached? unreached pending = some (next, rest)) :
    ∃ passed, pending = passed ++ next :: rest ∧ ∀ moduleId ∈ passed, moduleId ∉ unreached := by
  induction pending with
  | nil => cases found
  | cons first later ih =>
      rw [nextUnreached?] at found
      split at found
      · cases found
        exact ⟨[], rfl, fun _ mem => absurd mem List.not_mem_nil⟩
      · next reached =>
          rcases ih found with ⟨passed, rfl, allReached⟩
          refine ⟨first :: passed, rfl, fun moduleId mem => ?_⟩
          rcases List.mem_cons.mp mem with rfl | mem
          · exact reached
          · exact allReached moduleId mem

end Pending

namespace OnPath

variable {graph : DependencyGraph} {unreached : List Text} {inner : Stop} {outer : List Stop}

theorem begin (graph : DependencyGraph) (unreached : List Text) (root : Text) :
    OnPath graph unreached [graph.arrive root] where
  chained := List.isChain_singleton _
  pends stop mem next pending := by
    rw [List.mem_singleton.mp mem] at pending ⊢
    exact pending
  passed stop mem dependency depends notPending := by
    rw [List.mem_singleton.mp mem] at depends notPending
    exact absurd depends notPending

/-- The path that is left when its innermost module is left. -/
theorem leave (onPath : OnPath graph unreached (inner :: outer)) :
    OnPath graph unreached outer where
  chained := onPath.chained.tail
  pends stop mem := onPath.pends stop (List.mem_cons_of_mem _ mem)
  passed stop mem := onPath.passed stop (List.mem_cons_of_mem _ mem)

/-- The path that leads on to the next module that was not reached. -/
theorem reach (onPath : OnPath graph unreached (inner :: outer)) (distinct : unreached.Nodup)
    {next : Text} {rest : List Text}
    (found : nextUnreached? unreached inner.pending = some (next, rest)) :
    OnPath graph (unreached.erase next)
      (graph.arrive next :: ⟨inner.moduleId, rest⟩ :: outer) := by
  rcases pending_of_nextUnreached? found with ⟨passed, pending, allReached⟩
  have innerMem : inner ∈ inner :: outer := List.mem_cons_self ..
  have stillReached {moduleId : Text} (reached : moduleId ∉ unreached) :
      moduleId ∉ unreached.erase next := fun mem => reached (List.mem_of_mem_erase mem)
  refine ⟨?_, ?_, ?_⟩
  · refine List.isChain_cons_cons.mpr ⟨onPath.pends inner innerMem next (by simp [pending]), ?_⟩
    cases outer with
    | nil => exact List.isChain_singleton _
    | cons stop others =>
        rcases List.isChain_cons_cons.mp onPath.chained with ⟨depends, chained⟩
        exact List.isChain_cons_cons.mpr ⟨depends, chained⟩
  · intro stop mem
    rcases List.mem_cons.mp mem with rfl | mem
    · exact fun dependency depends => depends
    rcases List.mem_cons.mp mem with rfl | mem
    · exact fun dependency isPending => onPath.pends inner innerMem dependency
        (by simp [pending, show dependency ∈ rest from isPending])
    · exact onPath.pends stop (List.mem_cons_of_mem _ mem)
  · intro stop mem dependency depends notPending
    rcases List.mem_cons.mp mem with rfl | mem
    · exact absurd depends notPending
    rcases List.mem_cons.mp mem with rfl | mem
    · by_cases wasPending : dependency ∈ inner.pending
      · rw [pending] at wasPending
        rcases List.mem_append.mp wasPending with isPassed | later
        · exact stillReached (allReached dependency isPassed)
        · rcases List.mem_cons.mp later with rfl | isPending
          · exact distinct.not_mem_erase
          · exact absurd isPending notPending
      · exact stillReached (onPath.passed inner innerMem dependency depends wasPending)
    · exact stillReached
        (onPath.passed stop (List.mem_cons_of_mem _ mem) dependency depends notPending)

/-- Every module on a path leads to those inside of it. -/
theorem reaches (onPath : OnPath graph unreached (inner :: outer)) {stop : Stop}
    (mem : stop ∈ outer) : Relation.TransGen graph.DependsOn stop.moduleId inner.moduleId := by
  induction outer generalizing inner with
  | nil => cases mem
  | cons first rest ih =>
      rcases List.isChain_cons_cons.mp onPath.chained with ⟨depends, -⟩
      rcases List.mem_cons.mp mem with rfl | mem
      · exact .single depends
      · exact (ih onPath.leave mem).tail depends

end OnPath

section Walk

variable {graph : DependencyGraph}

/-- To reach a module is to move it from the unreached ones onto the path. -/
theorem reach_perm {unreached : List Text} {stop : Stop} {outer : List Stop} {next : Text}
    {pending : List Text} (found : nextUnreached? unreached stop.pending = some (next, pending)) :
    List.Perm
      ((graph.arrive next :: ⟨stop.moduleId, pending⟩ :: outer).map Stop.moduleId ++
        unreached.erase next)
      ((stop :: outer).map Stop.moduleId ++ unreached) := by
  have present := List.perm_cons_erase (mem_of_nextUnreached? found)
  simp only [List.map_cons, List.cons_append, arrive]
  refine (List.Perm.swap ..).trans (.cons _ ?_)
  exact List.perm_middle.symm.trans (present.symm.append_left _)

/-- A walk leaves the modules on its path and some that were not reached; the others stay
unreached. -/
theorem walkPath_perm (graph : DependencyGraph) (unreached : List Text) (path : List Stop) :
    List.Perm ((walkPath graph unreached path).1 ++ (walkPath graph unreached path).2)
      (path.map Stop.moduleId ++ unreached) := by
  fun_induction walkPath graph unreached path with
  | case1 unreached => exact .refl _
  | case2 unreached stop outer nothing left rest walked ih =>
      rw [walked] at ih
      exact ih.cons stop.moduleId
  | case3 unreached stop outer next pending found ih => exact ih.trans (reach_perm found)

theorem mem_walkPath_of_mem (graph : DependencyGraph) (unreached : List Text) {path : List Stop}
    {moduleId : Text} (mem : moduleId ∈ path.map Stop.moduleId) :
    moduleId ∈ (walkPath graph unreached path).1 := by
  fun_induction walkPath graph unreached path with
  | case1 unreached => cases mem
  | case2 unreached stop outer nothing left rest walked ih =>
      rw [walked] at ih
      rcases List.mem_cons.mp mem with rfl | mem
      · exact List.mem_cons_self ..
      · exact List.mem_cons_of_mem _ (ih mem)
  | case3 unreached stop outer next pending found ih => exact ih (List.mem_cons_of_mem _ mem)

theorem walkPath_ordered {unreached : List Text} {path : List Stop}
    (onPath : OnPath graph unreached path) (distinct : unreached.Nodup) :
    graph.Ordered (path.map Stop.moduleId ++ unreached) (walkPath graph unreached path).1 := by
  fun_induction walkPath graph unreached path with
  | case1 unreached => exact fun moduleId mem => nomatch mem
  | case2 unreached stop outer nothing left rest walked ih =>
      have ordered := ih onPath.leave distinct
      rw [walked] at ordered
      intro moduleId mem dependency depends
      rcases List.mem_cons.mp mem with rfl | isLeft
      · -- The dependencies of the innermost module were all reached, those on the path included.
        have isReached : dependency ∉ unreached := by
          by_cases isPending : dependency ∈ stop.pending
          · exact not_mem_of_nextUnreached?_none nothing isPending
          · exact onPath.passed stop (List.mem_cons_self ..) dependency depends isPending
        by_cases isOnPath : dependency ∈ (stop :: outer).map Stop.moduleId
        · rcases List.mem_map.mp isOnPath with ⟨target, targetMem, rfl⟩
          rcases List.mem_cons.mp targetMem with rfl | targetMem
          · exact .inr (.inr (.single depends))
          · exact .inr (.inr (onPath.reaches targetMem))
        · exact .inl fun mem => (List.mem_append.mp mem).elim isOnPath isReached
      · rcases ordered moduleId isLeft dependency depends with isOutside | isEarlier | leads
        · by_cases isInnermost : dependency = stop.moduleId
          · subst isInnermost
            exact .inr (.inl ((List.singleton_sublist.mpr isLeft).cons_cons _))
          · exact .inl fun mem => (List.mem_cons.mp mem).elim isInnermost isOutside
        · exact .inr (.inl (isEarlier.cons _))
        · exact .inr (.inr leads)
  | case3 unreached stop outer next pending found ih =>
      have ordered := ih (onPath.reach distinct found) (distinct.erase next)
      intro moduleId mem dependency depends
      rcases ordered moduleId mem dependency depends with isOutside | others
      · exact .inl fun mem => isOutside ((reach_perm found).mem_iff.mpr mem)
      · exact .inr others

/-- Walks from several modules leave what was not reached before, with dependencies first. -/
theorem walkFrom_spec {unreached roots : List Text} (distinct : unreached.Nodup)
    (complete : ∀ moduleId ∈ unreached, moduleId ∈ roots) :
    List.Perm (walkFrom graph unreached roots) unreached ∧
      graph.Ordered unreached (walkFrom graph unreached roots) := by
  induction roots generalizing unreached with
  | nil =>
      have nothing : unreached = [] := List.eq_nil_iff_forall_not_mem.mpr fun moduleId mem =>
        nomatch complete moduleId mem
      subst nothing
      exact ⟨.refl _, fun moduleId mem => nomatch mem⟩
  | cons root roots ih =>
      rw [walkFrom]
      split
      · next isUnreached =>
          have pathPerm := walkPath_perm graph (unreached.erase root) [graph.arrive root]
          have pathOrdered := walkPath_ordered (OnPath.begin graph (unreached.erase root) root)
            (distinct.erase root)
          have rootLeft : root ∈ (walkPath graph (unreached.erase root) [graph.arrive root]).1 :=
            mem_walkPath_of_mem graph _ (List.mem_cons_self ..)
          rcases walked : walkPath graph (unreached.erase root) [graph.arrive root] with
            ⟨left, rest⟩
          rw [walked] at pathPerm pathOrdered rootLeft
          change List.Perm (left ++ walkFrom graph rest roots) unreached ∧
            graph.Ordered unreached (left ++ walkFrom graph rest roots)
          have wholePerm : List.Perm (left ++ rest) unreached :=
            pathPerm.trans (List.perm_cons_erase isUnreached).symm
          obtain ⟨-, restDistinct, apart⟩ := List.nodup_append.mp (wholePerm.nodup_iff.mpr distinct)
          have restComplete : ∀ moduleId ∈ rest, moduleId ∈ roots := by
            intro moduleId mem
            have isUnreached := wholePerm.mem_iff.mp (List.mem_append_right left mem)
            rcases List.mem_cons.mp (complete moduleId isUnreached) with rfl | isLater
            · exact absurd rfl (apart moduleId rootLeft moduleId mem)
            · exact isLater
          rcases ih restDistinct restComplete with ⟨restPerm, restOrdered⟩
          refine ⟨(restPerm.append_left left).trans wholePerm, ?_⟩
          intro moduleId mem dependency depends
          rcases List.mem_append.mp mem with isLeft | isLater
          · rcases pathOrdered moduleId isLeft dependency depends with isOutside | isEarlier | leads
            · have present := List.perm_cons_erase isUnreached
              exact .inl fun mem => isOutside (present.mem_iff.mp mem)
            · exact .inr (.inl (isEarlier.trans (List.sublist_append_left ..)))
            · exact .inr (.inr leads)
          · rcases restOrdered moduleId isLater dependency depends with
              isOutside | isEarlier | leads
            · by_cases wasLeft : dependency ∈ left
              · exact .inr (.inl ((List.singleton_sublist.mpr wasLeft).append
                  (List.singleton_sublist.mpr isLater)))
              · refine .inl fun mem => ?_
                rcases List.mem_append.mp (wholePerm.mem_iff.mpr mem) with isLeft | isRest
                · exact wasLeft isLeft
                · exact isOutside isRest
            · exact .inr (.inl (isEarlier.trans (List.sublist_append_right ..)))
            · exact .inr (.inr leads)
      · next isReached =>
          apply ih distinct
          intro moduleId mem
          rcases List.mem_cons.mp (complete moduleId mem) with rfl | isLater
          · exact absurd mem isReached
          · exact isLater

end Walk

variable (graph : DependencyGraph)

theorem nodup_moduleIds : graph.moduleIds.Nodup :=
  graph.components.distinct

theorem sortedIds_perm : List.Perm graph.sortedIds graph.moduleIds :=
  (walkFrom_spec graph.nodup_moduleIds fun _ mem => mem).1

/-- A name means a registered module. -/
theorem mem_moduleIds_of_dependsOn {moduleId dependency : Text}
    (depends : graph.DependsOn moduleId dependency) : dependency ∈ graph.moduleIds := by
  rcases List.mem_filterMap.mp depends with ⟨name, -, carries⟩
  rcases Option.map_eq_some_iff.mp carries with ⟨entry, found, rfl⟩
  exact List.mem_map_of_mem (List.mem_of_find?_eq_some found)

theorem entry?_of_mem {entry : Text × ComponentRecord} (mem : entry ∈ graph.components.entries) :
    graph.entry? entry.1 = some entry := by
  unfold entry?
  rw [graph.components.distinct.get?_of_mem mem]
  rfl

/-- The listed components are those that are registered, each with the record of its module. -/
theorem sorted_perm : List.Perm graph.sorted graph.components.entries := by
  have records : graph.moduleIds.filterMap graph.entry? = graph.components.entries := by
    unfold moduleIds OrderedMap.keys
    rw [List.filterMap_map]
    exact (List.filterMap_congr fun _ mem => graph.entry?_of_mem mem).trans List.filterMap_some
  exact records ▸ graph.sortedIds_perm.filterMap graph.entry?

/-- A single component is listed alone. -/
theorem sorted_singleton {entry : Text × ComponentRecord}
    (alone : graph.components.entries = [entry]) : graph.sorted = [entry] :=
  List.perm_singleton.mp (alone ▸ graph.sorted_perm)

theorem sorted_moduleIds : graph.sorted.map Prod.fst = graph.sortedIds := by
  unfold sorted
  rw [List.map_filterMap]
  refine (List.filterMap_congr fun moduleId mem => ?_).trans List.filterMap_some
  rcases List.mem_map.mp (graph.sortedIds_perm.mem_iff.mp mem) with ⟨entry, entryMem, rfl⟩
  rw [graph.entry?_of_mem entryMem]
  rfl

/-- No module leads back to itself. -/
def Acyclic : Prop :=
  ∀ moduleId, ¬Relation.TransGen graph.DependsOn moduleId moduleId

/-- Without cycles, every dependency is listed strictly before the modules that depend on it. -/
theorem sorted_of_acyclic (acyclic : graph.Acyclic) {moduleId dependency : Text}
    (registered : moduleId ∈ graph.moduleIds) (depends : graph.DependsOn moduleId dependency) :
    [dependency, moduleId].Sublist (graph.sorted.map Prod.fst) := by
  rw [sorted_moduleIds]
  have ordered := (walkFrom_spec graph.nodup_moduleIds fun _ mem => mem).2 moduleId
    (graph.sortedIds_perm.mem_iff.mpr registered) dependency depends
  rcases ordered with isOutside | isEarlier | leads
  · exact absurd (graph.mem_moduleIds_of_dependsOn depends) isOutside
  · exact isEarlier
  · exact absurd (leads.head depends) (acyclic moduleId)

/--
The order in which components are written has every registered module once, with its own record,
and a dependency strictly before the module that depends on it, unless the dependency leads back to
that module.
-/
theorem sorted_dependenciesFirst :
    List.Perm graph.sorted graph.components.entries ∧ (graph.sorted.map Prod.fst).Nodup ∧
      ∀ moduleId ∈ graph.moduleIds, ∀ dependency ∈ graph.dependencies moduleId,
        ¬Relation.TransGen graph.DependsOn dependency moduleId →
          [dependency, moduleId].Sublist (graph.sorted.map Prod.fst) := by
  refine ⟨graph.sorted_perm, ?_, ?_⟩
  · rw [sorted_moduleIds]
    exact graph.sortedIds_perm.nodup_iff.mpr graph.nodup_moduleIds
  · intro moduleId mem dependency depends leadsNowhere
    rw [sorted_moduleIds]
    have ordered := (walkFrom_spec graph.nodup_moduleIds fun _ mem => mem).2 moduleId
      (graph.sortedIds_perm.mem_iff.mpr mem) dependency depends
    rcases ordered with isOutside | isEarlier | leads
    · exact absurd (graph.mem_moduleIds_of_dependsOn depends) isOutside
    · exact isEarlier
    · exact absurd leads leadsNowhere

/-- A module on a cycle comes after its dependency beside the cycle. -/
theorem sorted_dependenciesFirst_beside_cycle :
    let record (name : Text) (dependencies : List Text) : ComponentRecord :=
      ⟨⟨name, none, dependencies, [], []⟩, [], [], []⟩
    let graph : DependencyGraph := .ofComponents (.ofList [("/x.js", record "X" ["Y", "Z", "Z"]),
      ("/y.js", record "Y" ["X", "Nobody"]), ("/z.js", record "Z" [])])
    let onCycle : Text := "/x.js"
    let beside : Text := "/z.js"
    beside ∈ graph.dependencies onCycle ∧ ¬Relation.TransGen graph.DependsOn beside onCycle ∧
      [beside, onCycle].Sublist (graph.sorted.map Prod.fst) := by
  intro record graph onCycle beside
  have depends : beside ∈ graph.dependencies onCycle := by decide
  have leadsNowhere : ¬Relation.TransGen graph.DependsOn beside onCycle := by
    intro leads
    rcases Relation.TransGen.head'_iff.mp leads with ⟨next, step, -⟩
    have alone : graph.dependencies beside = [] := by decide
    rw [DependsOn, alone] at step
    cases step
  have registered : onCycle ∈ graph.moduleIds := by decide
  exact ⟨depends, leadsNowhere,
    graph.sorted_dependenciesFirst.2.2 onCycle registered beside depends leadsNowhere⟩

end ComponentInliner.DependencyGraph
