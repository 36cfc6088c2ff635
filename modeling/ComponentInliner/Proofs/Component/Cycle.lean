import ComponentInliner.Component.Cycle
import ComponentInliner.Proofs.Component.Order

/-!
# What the diagnostics tell

Cycles are looked for by a walk of its own, which knows nothing of the order in which components are
written. It finds a cycle exactly if some module leads back to itself (`cycles_eq_nil_iff`). If it
finds one, the path that it was on leads back to itself. If it finds none, every module that it
leaves is `Grounded`: all its dependencies were left before, so that no chain of dependencies goes
on without end. So nothing is reported about a graph exactly if every declared name is carried by a
component and every dependency comes before its dependents.
-/

namespace ComponentInliner.DependencyGraph

/-- Every chain of dependencies that begins with the module comes to an end. -/
def Grounded (graph : DependencyGraph) : Text → Prop :=
  Acc fun dependency moduleId => graph.DependsOn moduleId dependency

/-- What is known of the modules on the path of a search that has found no cycle. -/
structure Searched (graph : DependencyGraph) (unreached : List Text) (path : List Stop) :
    Prop where
  /-- Modules that were left are grounded. -/
  left : ∀ moduleId ∈ graph.moduleIds, moduleId ∉ unreached → moduleId ∉ path.map Stop.moduleId →
    graph.Grounded moduleId
  /-- At the innermost module, what is not pending any more was left. -/
  innermost : ∀ stop ∈ path.head?, ∀ dependency, graph.DependsOn stop.moduleId dependency →
    dependency ∈ stop.pending ∨ graph.Grounded dependency
  /-- At the other modules, it was left or is the next module on the path. -/
  others : path.IsChain fun inner outer => ∀ dependency, graph.DependsOn outer.moduleId dependency →
    dependency ∈ outer.pending ∨ graph.Grounded dependency ∨ dependency = inner.moduleId

variable {graph : DependencyGraph}

theorem Grounded.not_leads_back {moduleId : Text} (grounded : graph.Grounded moduleId) :
    ¬Relation.TransGen graph.DependsOn moduleId moduleId := by
  induction grounded with
  | intro moduleId _ ih =>
      intro cycle
      rcases Relation.TransGen.head'_iff.mp cycle with ⟨dependency, depends, rest⟩
      exact ih dependency depends (Relation.TransGen.tail' rest depends)

section Path

variable {unreached pending : List Text} {moduleId next : Text} {outer : List Stop}

/-- A pending dependency that was reached before is passed over. -/
theorem OnPath.skip (onPath : OnPath graph unreached (⟨moduleId, next :: pending⟩ :: outer))
    (reached : next ∉ unreached) : OnPath graph unreached (⟨moduleId, pending⟩ :: outer) := by
  refine ⟨?_, ?_, ?_⟩
  · cases outer with
    | nil => exact List.isChain_singleton _
    | cons stop others =>
        rcases List.isChain_cons_cons.mp onPath.chained with ⟨depends, chained⟩
        exact List.isChain_cons_cons.mpr ⟨depends, chained⟩
  · intro stop mem dependency isPending
    rcases List.mem_cons.mp mem with rfl | mem
    · exact onPath.pends _ (List.mem_cons_self ..) dependency (List.mem_cons_of_mem _ isPending)
    · exact onPath.pends stop (List.mem_cons_of_mem _ mem) dependency isPending
  · intro stop mem dependency depends notPending
    rcases List.mem_cons.mp mem with rfl | mem
    · by_cases isNext : dependency = next
      · exact isNext ▸ reached
      · refine onPath.passed _ (List.mem_cons_self ..) dependency depends fun isPending => ?_
        exact (List.mem_cons.mp isPending).elim isNext notPending
    · exact onPath.passed stop (List.mem_cons_of_mem _ mem) dependency depends notPending

/-- The path that leads on to the first pending dependency. -/
theorem OnPath.follow (onPath : OnPath graph unreached (⟨moduleId, next :: pending⟩ :: outer))
    (distinct : unreached.Nodup) (present : next ∈ unreached) :
    OnPath graph (unreached.erase next) (graph.arrive next :: ⟨moduleId, pending⟩ :: outer) :=
  onPath.reach distinct (by simp [nextUnreached?, present])

namespace Searched

theorem leave (searched : Searched graph unreached (⟨moduleId, []⟩ :: outer)) :
    Searched graph unreached outer := by
  have grounded : graph.Grounded moduleId := by
    refine Acc.intro _ fun dependency depends => ?_
    rcases searched.innermost _ rfl dependency depends with isPending | grounded
    · cases isPending
    · exact grounded
  refine ⟨?_, ?_, searched.others.tail⟩
  · intro other registered reached notOnPath
    by_cases isInnermost : other = moduleId
    · exact isInnermost ▸ grounded
    · exact searched.left other registered reached fun mem =>
        (List.mem_cons.mp mem).elim isInnermost notOnPath
  · intro stop isHead dependency depends
    rcases List.head?_eq_some_iff.mp isHead with ⟨others, rfl⟩
    rcases (List.isChain_cons_cons.mp searched.others).1 dependency depends with
      isPending | isGrounded | rfl
    · exact .inl isPending
    · exact .inr isGrounded
    · exact .inr grounded

theorem follow (searched : Searched graph unreached (⟨moduleId, next :: pending⟩ :: outer)) :
    Searched graph (unreached.erase next)
      (graph.arrive next :: ⟨moduleId, pending⟩ :: outer) := by
  refine ⟨?_, ?_, List.isChain_cons_cons.mpr ⟨?_, ?_⟩⟩
  · intro other registered reached notOnPath
    have notNext : other ≠ next := List.ne_of_not_mem_cons notOnPath
    exact searched.left other registered
      (fun mem => reached ((List.mem_erase_of_ne notNext).mpr mem))
      (List.not_mem_of_not_mem_cons notOnPath)
  · intro stop isHead dependency depends
    cases isHead
    exact .inl depends
  · intro dependency depends
    rcases searched.innermost _ rfl dependency depends with isPending | grounded
    · rcases List.mem_cons.mp isPending with rfl | isPending
      · exact .inr (.inr rfl)
      · exact .inl isPending
    · exact .inr (.inl grounded)
  · cases outer with
    | nil => exact List.isChain_singleton _
    | cons stop others => exact List.isChain_cons_cons.mpr (List.isChain_cons_cons.mp searched.others)

theorem skip (searched : Searched graph unreached (⟨moduleId, next :: pending⟩ :: outer))
    (registered : next ∈ graph.moduleIds) (reached : next ∉ unreached)
    (notOnPath : next ∉ (⟨moduleId, pending⟩ :: outer : List Stop).map Stop.moduleId) :
    Searched graph unreached (⟨moduleId, pending⟩ :: outer) := by
  refine ⟨searched.left, ?_, ?_⟩
  · intro stop isHead dependency depends
    cases isHead
    rcases searched.innermost _ rfl dependency depends with isPending | grounded
    · rcases List.mem_cons.mp isPending with rfl | isPending
      · exact .inr (searched.left dependency registered reached notOnPath)
      · exact .inl isPending
    · exact .inr grounded
  · cases outer with
    | nil => exact List.isChain_singleton _
    | cons stop others => exact List.isChain_cons_cons.mpr (List.isChain_cons_cons.mp searched.others)

end Searched

end Path

section Search

/-- A search reaches modules and never gives them back. -/
theorem cyclesOnPath_sublist (graph : DependencyGraph) (unreached : List Text) (path : List Stop) :
    (cyclesOnPath graph unreached path).2.Sublist unreached := by
  fun_induction cyclesOnPath graph unreached path with
  | case1 unreached => exact .refl _
  | case2 unreached moduleId outer ih => exact ih
  | case3 unreached moduleId next pending outer present ih => exact ih.trans List.erase_sublist
  | case4 unreached moduleId next pending outer absent cycles rest searched isOnPath ih =>
      rw [searched] at ih
      exact ih
  | case5 unreached moduleId next pending outer absent cycles rest searched notOnPath ih =>
      rw [searched] at ih
      exact ih

/-- A search that finds no cycle leaves grounded modules behind. -/
theorem grounded_of_cyclesOnPath {unreached : List Text} {path : List Stop}
    (onPath : OnPath graph unreached path) (distinct : unreached.Nodup)
    (searched : Searched graph unreached path) (nothing : (cyclesOnPath graph unreached path).1 = [])
    {moduleId : Text} (registered : moduleId ∈ graph.moduleIds)
    (reached : moduleId ∉ (cyclesOnPath graph unreached path).2) : graph.Grounded moduleId := by
  fun_induction cyclesOnPath graph unreached path with
  | case1 unreached => exact searched.left moduleId registered reached List.not_mem_nil
  | case2 unreached innermost outer ih =>
      exact ih onPath.leave distinct searched.leave nothing reached
  | case3 unreached innermost next pending outer present ih =>
      exact ih (onPath.follow distinct present) (distinct.erase next) searched.follow nothing reached
  | case4 unreached innermost next pending outer absent cycles rest outcome isOnPath ih =>
      cases nothing
  | case5 unreached innermost next pending outer absent cycles rest outcome notOnPath ih =>
      rw [outcome] at ih
      have isRegistered : next ∈ graph.moduleIds :=
        graph.mem_moduleIds_of_dependsOn (onPath.pends _ (List.mem_cons_self ..) next
          (List.mem_cons_self ..))
      exact ih (onPath.skip absent) distinct (searched.skip isRegistered absent notOnPath) nothing
        reached

/-- What a search finds leads back to itself. -/
theorem cyclesOnPath_of_acyclic (acyclic : graph.Acyclic) {unreached : List Text}
    {path : List Stop} (onPath : OnPath graph unreached path) (distinct : unreached.Nodup) :
    (cyclesOnPath graph unreached path).1 = [] := by
  fun_induction cyclesOnPath graph unreached path with
  | case1 unreached => rfl
  | case2 unreached innermost outer ih => exact ih onPath.leave distinct
  | case3 unreached innermost next pending outer present ih =>
      exact ih (onPath.follow distinct present) (distinct.erase next)
  | case4 unreached innermost next pending outer absent cycles rest outcome isOnPath ih =>
      have depends : graph.DependsOn innermost next :=
        onPath.pends _ (List.mem_cons_self ..) next (List.mem_cons_self ..)
      rcases List.mem_map.mp isOnPath with ⟨stop, mem, rfl⟩
      rcases List.mem_cons.mp mem with rfl | mem
      · exact absurd (.single depends) (acyclic innermost)
      · exact absurd ((onPath.reaches mem).tail depends) (acyclic stop.moduleId)
  | case5 unreached innermost next pending outer absent cycles rest outcome notOnPath ih =>
      rw [outcome] at ih
      exact ih (onPath.skip absent) distinct

theorem grounded_of_cyclesFrom {unreached roots : List Text} (distinct : unreached.Nodup)
    (complete : ∀ moduleId ∈ unreached, moduleId ∈ roots)
    (left : ∀ moduleId ∈ graph.moduleIds, moduleId ∉ unreached → graph.Grounded moduleId)
    (nothing : cyclesFrom graph unreached roots = []) {moduleId : Text}
    (registered : moduleId ∈ graph.moduleIds) : graph.Grounded moduleId := by
  induction roots generalizing unreached with
  | nil => exact left moduleId registered fun mem => nomatch complete moduleId mem
  | cons root roots ih =>
      rw [cyclesFrom] at nothing
      split at nothing
      · next isUnreached =>
          rcases List.append_eq_nil_iff.mp nothing with ⟨noneHere, noneLater⟩
          have fewer := cyclesOnPath_sublist graph (unreached.erase root) [graph.arrive root]
          have begun : Searched graph (unreached.erase root) [graph.arrive root] := by
            refine ⟨?_, ?_, List.isChain_singleton _⟩
            · intro other registered reached notOnPath
              have notRoot : other ≠ root := fun same => notOnPath (List.mem_singleton.mpr same)
              exact left other registered fun mem =>
                reached ((List.mem_erase_of_ne notRoot).mpr mem)
            · intro stop isHead dependency depends
              cases isHead
              exact .inl depends
          refine ih ((distinct.erase root).sublist fewer) ?_ ?_ noneLater
          · intro other mem
            have stillUnreached := fewer.subset mem
            rcases List.mem_cons.mp (complete other (List.mem_of_mem_erase stillUnreached)) with
              rfl | isLater
            · exact absurd stillUnreached distinct.not_mem_erase
            · exact isLater
          · intro other registered reached
            exact grounded_of_cyclesOnPath (OnPath.begin graph _ root) (distinct.erase root) begun
              noneHere registered reached
      · next isReached =>
          refine ih distinct (fun other mem => ?_) left nothing
          rcases List.mem_cons.mp (complete other mem) with rfl | isLater
          · exact absurd mem isReached
          · exact isLater

theorem cyclesFrom_of_acyclic (acyclic : graph.Acyclic) {unreached : List Text}
    (distinct : unreached.Nodup) (roots : List Text) : cyclesFrom graph unreached roots = [] := by
  induction roots generalizing unreached with
  | nil => rfl
  | cons root roots ih =>
      rw [cyclesFrom]
      split
      · have fewer := cyclesOnPath_sublist graph (unreached.erase root) [graph.arrive root]
        exact List.append_eq_nil_iff.mpr
          ⟨cyclesOnPath_of_acyclic acyclic (OnPath.begin graph _ root) (distinct.erase root),
            ih ((distinct.erase root).sublist fewer)⟩
      · exact ih distinct

/-- A cycle is found exactly if some module leads back to itself. -/
theorem cycles_eq_nil_iff : graph.cycles = [] ↔ graph.Acyclic := by
  constructor
  · intro nothing moduleId cycle
    rcases Relation.TransGen.tail'_iff.mp cycle with ⟨last, -, depends⟩
    have grounded : graph.Grounded moduleId :=
      grounded_of_cyclesFrom graph.nodup_moduleIds (fun _ mem => mem)
        (fun other registered reached => absurd registered reached) nothing
        (graph.mem_moduleIds_of_dependsOn depends)
    exact grounded.not_leads_back cycle
  · exact fun acyclic => cyclesFrom_of_acyclic acyclic graph.nodup_moduleIds graph.moduleIds

end Search

section Diagnostics

theorem unresolved_eq_nil_iff : graph.unresolved = [] ↔
    ∀ moduleId ∈ graph.moduleIds, ∀ name ∈ graph.declaredBy moduleId,
      (graph.carrier? name).isSome = true := by
  simp [unresolved, List.flatMap_eq_nil_iff, Option.isSome_iff_ne_none]

/-- Of two entries of a list in order, the first one has the smaller place. -/
theorem idxOf_lt_of_sublist {ids : List Text} (distinct : ids.Nodup) {first second : Text}
    (ordered : [first, second].Sublist ids) : ids.idxOf first < ids.idxOf second := by
  induction ids with
  | nil => cases ordered
  | cons id rest ih =>
      rcases List.nodup_cons.mp distinct with ⟨fresh, restDistinct⟩
      cases ordered with
      | cons _ later =>
          have firstLater : first ≠ id := by
            rintro rfl
            exact fresh (later.subset (by simp))
          have secondLater : second ≠ id := by
            rintro rfl
            exact fresh (later.subset (by simp))
          rw [List.idxOf_cons_ne _ (Ne.symm firstLater), List.idxOf_cons_ne _ (Ne.symm secondLater)]
          exact Nat.succ_lt_succ (ih restDistinct later)
      | cons_cons _ later =>
          have secondLater : second ≠ first := by
            rintro rfl
            exact fresh (List.singleton_sublist.mp later)
          rw [List.idxOf_cons_self, List.idxOf_cons_ne _ (Ne.symm secondLater)]
          exact Nat.succ_pos _

/-- Modules that come after all their dependencies do not lead back to themselves. -/
theorem acyclic_of_ordered {ids : List Text} (distinct : ids.Nodup)
    (ordered : ∀ moduleId ∈ graph.moduleIds, ∀ dependency, graph.DependsOn moduleId dependency →
      [dependency, moduleId].Sublist ids) : graph.Acyclic := by
  have descends {moduleId target : Text} (registered : moduleId ∈ graph.moduleIds)
      (leads : Relation.TransGen graph.DependsOn moduleId target) :
      ids.idxOf target < ids.idxOf moduleId := by
    induction leads with
    | single depends => exact idxOf_lt_of_sublist distinct (ordered _ registered _ depends)
    | @tail middle last before depends ih =>
        rcases Relation.TransGen.tail'_iff.mp before with ⟨_, -, reaches⟩
        have isRegistered := graph.mem_moduleIds_of_dependsOn reaches
        exact (idxOf_lt_of_sublist distinct (ordered _ isRegistered _ depends)).trans ih
  intro moduleId cycle
  rcases Relation.TransGen.tail'_iff.mp cycle with ⟨_, -, depends⟩
  exact absurd (descends (graph.mem_moduleIds_of_dependsOn depends) cycle) (Nat.lt_irrefl _)

/--
Nothing is reported about a graph exactly if every name that a module declares is carried by a
component, and the first one that carries it is written strictly before the module.
-/
theorem diagnostics_eq_nil_iff (graph : DependencyGraph) :
    graph.diagnostics = [] ↔
      ∀ moduleId ∈ graph.moduleIds, ∀ name ∈ graph.declaredBy moduleId,
        ∃ dependency, graph.carrier? name = some dependency ∧
          [dependency, moduleId].Sublist (graph.sorted.map Prod.fst) := by
  have parts : graph.diagnostics = [] ↔ graph.unresolved = [] ∧ graph.cycles = [] := by
    simp [diagnostics, List.append_eq_nil_iff]
  rw [parts, unresolved_eq_nil_iff, cycles_eq_nil_iff]
  constructor
  · rintro ⟨carried, acyclic⟩ moduleId registered name declared
    rcases Option.isSome_iff_exists.mp (carried moduleId registered name declared) with
      ⟨dependency, carries⟩
    have depends : graph.DependsOn moduleId dependency :=
      List.mem_filterMap.mpr ⟨name, declared, carries⟩
    exact ⟨dependency, carries, graph.sorted_of_acyclic acyclic registered depends⟩
  · intro inOrder
    constructor
    · intro moduleId registered name declared
      rcases inOrder moduleId registered name declared with ⟨dependency, carries, -⟩
      exact Option.isSome_iff_exists.mpr ⟨dependency, carries⟩
    · have distinct : (graph.sorted.map Prod.fst).Nodup := by
        rw [sorted_moduleIds]
        exact graph.sortedIds_perm.nodup_iff.mpr graph.nodup_moduleIds
      refine acyclic_of_ordered distinct fun moduleId registered dependency depends => ?_
      rcases List.mem_filterMap.mp depends with ⟨name, declared, carries⟩
      rcases inOrder moduleId registered name declared with ⟨other, carries', isEarlier⟩
      cases carries.symm.trans carries'
      exact isEarlier

end Diagnostics

end ComponentInliner.DependencyGraph
