import ComponentInliner.Proofs.Component.Cycle
import Mathlib.Data.List.Nodup
import Mathlib.Order.RelClasses

/-!
# The search for cycles, step by step

A search begins at a module that it has not reached, follows a dependency that it has not reached,
passes over one that it has left, meets one on the path that it is on, or leaves a module whose
dependencies it has all looked at. Each step leaves less to do (`SearchStep.shrinks`), so that every
search comes to an end, and no step changes what will have been found by then
(`SearchStep.answer_eq`). No module is on a path twice, and each one depends on the next one inwards;
so the part of a path that leads back to a module is a cycle without repetitions.
-/

namespace ComponentInliner.DependencyGraph

/-- Modules each of which depends on the next one, and the last one on the first, without
repetitions. -/
structure IsSimpleCycle (graph : DependencyGraph) (cycle : List Text) : Prop where
  nonempty : cycle ≠ []
  distinct : cycle.Nodup
  linked : cycle.IsChain graph.DependsOn
  closed : ∀ first ∈ cycle.head?, ∀ last ∈ cycle.getLast?, graph.DependsOn last first

/-- Where a search stands: the modules that it may still begin at, those that it has not reached,
the path that it is on, and the cycles found so far. -/
structure Search where
  roots : List Text
  unreached : List Text
  path : List Stop
  found : List (List Text)

def beginSearch (graph : DependencyGraph) : Search :=
  ⟨graph.moduleIds, graph.moduleIds, [], []⟩

inductive SearchStep (graph : DependencyGraph) : Search → Search → Prop
  | pass {root : Text} {roots unreached : List Text} {found : List (List Text)}
      (reached : root ∉ unreached) :
      SearchStep graph ⟨root :: roots, unreached, [], found⟩ ⟨roots, unreached, [], found⟩
  | start {root : Text} {roots unreached : List Text} {found : List (List Text)}
      (isUnreached : root ∈ unreached) :
      SearchStep graph ⟨root :: roots, unreached, [], found⟩
        ⟨roots, unreached.erase root, [graph.arrive root], found⟩
  | leave {roots unreached : List Text} {moduleId : Text} {outer : List Stop}
      {found : List (List Text)} :
      SearchStep graph ⟨roots, unreached, ⟨moduleId, []⟩ :: outer, found⟩
        ⟨roots, unreached, outer, found⟩
  | follow {roots unreached pending : List Text} {moduleId next : Text} {outer : List Stop}
      {found : List (List Text)} (isUnreached : next ∈ unreached) :
      SearchStep graph ⟨roots, unreached, ⟨moduleId, next :: pending⟩ :: outer, found⟩
        ⟨roots, unreached.erase next, graph.arrive next :: ⟨moduleId, pending⟩ :: outer, found⟩
  | meet {roots unreached pending : List Text} {moduleId next : Text} {outer : List Stop}
      {found : List (List Text)} (reached : next ∉ unreached)
      (isOnPath : next ∈ (⟨moduleId, pending⟩ :: outer : List Stop).map Stop.moduleId) :
      SearchStep graph ⟨roots, unreached, ⟨moduleId, next :: pending⟩ :: outer, found⟩
        ⟨roots, unreached, ⟨moduleId, pending⟩ :: outer,
          found ++ [cycleTo next (⟨moduleId, pending⟩ :: outer)]⟩
  | skip {roots unreached pending : List Text} {moduleId next : Text} {outer : List Stop}
      {found : List (List Text)} (reached : next ∉ unreached)
      (notOnPath : next ∉ (⟨moduleId, pending⟩ :: outer : List Stop).map Stop.moduleId) :
      SearchStep graph ⟨roots, unreached, ⟨moduleId, next :: pending⟩ :: outer, found⟩
        ⟨roots, unreached, ⟨moduleId, pending⟩ :: outer, found⟩

/-- What a search will have found at its end. -/
def Search.answer (graph : DependencyGraph) (search : Search) : List (List Text) :=
  search.found ++ (cyclesOnPath graph search.unreached search.path).1 ++
    cyclesFrom graph (cyclesOnPath graph search.unreached search.path).2 search.roots

/-- How much a search has left to do: modules to reach, then the path, then places to begin at. -/
def Search.measure (search : Search) : Nat × Nat × Nat :=
  (search.unreached.length, remainingWork search.path, search.roots.length)

/-- There is less left to do. -/
def Search.Shrinks : Search → Search → Prop :=
  InvImage (Prod.Lex (· < ·) (Prod.Lex (· < ·) (· < ·))) Search.measure

/-- What is known of a search at every step. -/
structure Search.Sound (graph : DependencyGraph) (search : Search) : Prop where
  onPath : OnPath graph search.unreached search.path
  distinct : (search.path.map Stop.moduleId ++ search.unreached).Nodup
  found : ∀ cycle ∈ search.found, graph.IsSimpleCycle cycle

variable {graph : DependencyGraph} {search later final : Search}

namespace SearchStep

theorem shrinks (step : graph.SearchStep search later) : later.Shrinks search := by
  cases step with
  | pass => exact .right _ (.right _ (Nat.lt_succ_self _))
  | start isUnreached | follow isUnreached =>
      have positive := List.length_pos_of_mem isUnreached
      have shorter := List.length_erase_of_mem isUnreached
      apply Prod.Lex.left
      simp only
      omega
  | leave | meet | skip => exact .right _ (.left _ _ (by simp [remainingWork]))

theorem answer_eq (step : graph.SearchStep search later) :
    later.answer graph = search.answer graph := by
  cases step with
  | pass reached => simp [Search.answer, cyclesOnPath, cyclesFrom, reached]
  | start isUnreached => simp [Search.answer, cyclesOnPath, cyclesFrom, isUnreached]
  | leave => simp [Search.answer, cyclesOnPath]
  | follow isUnreached => simp [Search.answer, cyclesOnPath, isUnreached]
  | meet reached isOnPath =>
      simp only [Search.answer, cyclesOnPath, dif_neg reached, if_pos isOnPath]
      simp
  | skip reached notOnPath =>
      simp only [Search.answer, cyclesOnPath, dif_neg reached, if_neg notOnPath]

end SearchStep

/-- A search without a next step is at its end. -/
theorem found_of_stuck (stuck : ∀ later, ¬graph.SearchStep search later) :
    search.found = search.answer graph := by
  rcases search with ⟨roots, unreached, path, found⟩
  cases path with
  | nil =>
      cases roots with
      | nil => simp [Search.answer, cyclesOnPath, cyclesFrom]
      | cons root roots =>
          by_cases isUnreached : root ∈ unreached
          · exact absurd (.start isUnreached) (stuck _)
          · exact absurd (.pass isUnreached) (stuck _)
  | cons stop outer =>
      rcases stop with ⟨moduleId, pending⟩
      cases pending with
      | nil => exact absurd .leave (stuck _)
      | cons next pending =>
          by_cases isUnreached : next ∈ unreached
          · exact absurd (.follow isUnreached) (stuck _)
          by_cases isOnPath : next ∈ (⟨moduleId, pending⟩ :: outer : List Stop).map Stop.moduleId
          · exact absurd (.meet isUnreached isOnPath) (stuck _)
          · exact absurd (.skip isUnreached isOnPath) (stuck _)

theorem wellFounded_searchStep (graph : DependencyGraph) :
    WellFounded fun later search => graph.SearchStep search later := by
  have shrinks : WellFounded Search.Shrinks :=
    InvImage.wf _ (Nat.lt_wfRel.wf.prod_lex (Nat.lt_wfRel.wf.prod_lex Nat.lt_wfRel.wf))
  exact Subrelation.wf SearchStep.shrinks shrinks

/-- Whatever steps a search takes, they come to an end. -/
theorem exists_end (graph : DependencyGraph) (search : Search) :
    ∃ final, Relation.ReflTransGen graph.SearchStep search final ∧
      ∀ later, ¬graph.SearchStep final later := by
  induction search using (wellFounded_searchStep graph).induction with
  | _ search ih =>
      by_cases stuck : ∀ later, ¬graph.SearchStep search later
      · exact ⟨search, .refl, stuck⟩
      · push Not at stuck
        rcases stuck with ⟨later, step⟩
        rcases ih later step with ⟨final, reaches, isEnd⟩
        exact ⟨final, .head step reaches, isEnd⟩

theorem found_of_end (reaches : Relation.ReflTransGen graph.SearchStep graph.beginSearch final)
    (isEnd : ∀ later, ¬graph.SearchStep final later) : final.found = graph.cycles := by
  have answer : final.answer graph = graph.beginSearch.answer graph := by
    clear isEnd
    induction reaches with
    | refl => rfl
    | tail _ step ih => exact step.answer_eq.trans ih
  rw [found_of_stuck isEnd, answer]
  simp [Search.answer, beginSearch, cyclesOnPath, cycles]

/-- What leads back from the innermost module of a path to a module on the path. -/
theorem isSimpleCycle_cycleTo {path : List Stop} {moduleId next : Text}
    (chained : path.IsChain fun inner outer => graph.DependsOn outer.moduleId inner.moduleId)
    (distinct : (path.map Stop.moduleId).Nodup)
    (isInnermost : (path.map Stop.moduleId).head? = some moduleId)
    (isOnPath : next ∈ path.map Stop.moduleId) (depends : graph.DependsOn moduleId next) :
    graph.IsSimpleCycle (cycleTo next path) := by
  have linked : (path.map Stop.moduleId).IsChain fun inner outer => graph.DependsOn outer inner :=
    (List.isChain_map Stop.moduleId).mpr chained
  rcases List.eq_append_cons_of_mem isOnPath with ⟨inside, outside, split, fresh⟩
  have back : cycleTo next path = next :: inside.reverse := by
    simp [cycleTo, split, List.idxOf_append, fresh, List.take_append, List.take_of_length_le]
  rw [split, List.append_cons] at distinct linked isInnermost
  have reversed : next :: inside.reverse = (inside ++ [next]).reverse := by simp
  rw [back]
  constructor
  · exact List.cons_ne_nil _ _
  · rw [reversed]
    exact List.nodup_reverse.mpr distinct.of_append_left
  · rw [reversed]
    exact List.isChain_reverse.mpr linked.left_of_append
  · intro first isFirst last isLast
    rw [reversed, List.getLast?_reverse] at isLast
    rw [List.head?_append_of_ne_nil _ (by simp)] at isInnermost
    cases isFirst
    cases isInnermost.symm.trans isLast
    exact depends

theorem SearchStep.sound (step : graph.SearchStep search later) (sound : search.Sound graph) :
    later.Sound graph := by
  cases step with
  | pass => exact ⟨sound.onPath, sound.distinct, sound.found⟩
  | @start root roots unreached found isUnreached =>
      have distinct : unreached.Nodup := sound.distinct
      refine ⟨OnPath.begin graph _ root, ?_, sound.found⟩
      exact List.nodup_cons.mpr ⟨distinct.not_mem_erase, distinct.erase root⟩
  | leave => exact ⟨sound.onPath.leave, (List.nodup_cons.mp sound.distinct).2, sound.found⟩
  | @follow roots unreached pending moduleId next outer found isUnreached =>
      have perm := @reach_perm graph unreached ⟨moduleId, next :: pending⟩ outer next pending
        (by simp [nextUnreached?, isUnreached])
      refine ⟨sound.onPath.follow sound.distinct.of_append_right isUnreached, ?_, sound.found⟩
      exact perm.nodup_iff.mpr sound.distinct
  | @meet roots unreached pending moduleId next outer found reached isOnPath =>
      have depends : graph.DependsOn moduleId next :=
        sound.onPath.pends _ (List.mem_cons_self ..) next (List.mem_cons_self ..)
      have passed := sound.onPath.skip reached
      have isCycle := isSimpleCycle_cycleTo passed.chained sound.distinct.of_append_left rfl isOnPath
        depends
      refine ⟨passed, sound.distinct, fun cycle mem => ?_⟩
      rcases List.mem_append.mp mem with before | isNew
      · exact sound.found cycle before
      · exact List.mem_singleton.mp isNew ▸ isCycle
  | skip reached => exact ⟨sound.onPath.skip reached, sound.distinct, sound.found⟩

theorem sound_of_reaches (reaches : Relation.ReflTransGen graph.SearchStep graph.beginSearch search) :
    search.Sound graph := by
  induction reaches with
  | refl => exact ⟨⟨.nil, nofun, nofun⟩, graph.nodup_moduleIds, nofun⟩
  | tail _ step ih => exact step.sound ih

/--
Every search for cycles comes to an end, whatever steps it takes, and what it has found by then are
the cycles of the graph. Each of them is a simple cycle of dependencies, and there is one exactly if
some module leads back to itself.
-/
theorem cycles_of_search (graph : DependencyGraph) :
    (WellFounded fun later search => graph.SearchStep search later) ∧
      (∀ final, Relation.ReflTransGen graph.SearchStep graph.beginSearch final →
        (∀ later, ¬graph.SearchStep final later) → final.found = graph.cycles) ∧
      (∀ cycle ∈ graph.cycles, graph.IsSimpleCycle cycle) ∧
      (graph.cycles ≠ [] ↔ ∃ moduleId, Relation.TransGen graph.DependsOn moduleId moduleId) := by
  refine ⟨wellFounded_searchStep graph, fun _ reaches isEnd => found_of_end reaches isEnd, ?_, ?_⟩
  · intro cycle mem
    rcases exists_end graph graph.beginSearch with ⟨final, reaches, isEnd⟩
    rw [← found_of_end reaches isEnd] at mem
    exact (sound_of_reaches reaches).found cycle mem
  · rw [ne_eq, cycles_eq_nil_iff]
    simp [Acyclic]

end ComponentInliner.DependencyGraph
