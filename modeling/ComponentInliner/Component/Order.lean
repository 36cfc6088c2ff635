import ComponentInliner.Component.Graph

/-!
# Dependencies first

The order in which components are written: a depth-first walk starts from every module in the
order of registration and lists a module when all its dependencies have been walked. What was
reached once is not walked again, so the walk ends on cycles too; the members of a cycle come in
the order in which the walk leaves them.

The walk keeps the path to the current module as a list of stops, innermost first, and the
modules that it has not reached. Each step leaves a module or reaches a new one.
-/

namespace ComponentInliner.DependencyGraph

/-- The first of the pending modules that was not reached yet, and what is pending after it. -/
def nextUnreached? (unreached : List Text) : List Text → Option (Text × List Text)
  | [] => none
  | moduleId :: pending =>
      if moduleId ∈ unreached then some (moduleId, pending) else nextUnreached? unreached pending

theorem mem_of_nextUnreached? {unreached pending rest : List Text} {moduleId : Text}
    (found : nextUnreached? unreached pending = some (moduleId, rest)) : moduleId ∈ unreached := by
  induction pending with
  | nil => simp [nextUnreached?] at found
  | cons first pending hypothesis =>
      rw [nextUnreached?] at found
      split at found
      · rename_i present
        cases found
        exact present
      · exact hypothesis found

/-- Walks to the end of a path: the modules in the order in which they are left, and the modules
that stay unreached. -/
def walkPath (graph : DependencyGraph) (unreached : List Text) (path : List Stop) :
    List Text × List Text :=
  match path with
  | [] => ([], unreached)
  | stop :: outer =>
      match _found : nextUnreached? unreached stop.pending with
      | none =>
          let (left, unreached) := walkPath graph unreached outer
          (stop.moduleId :: left, unreached)
      | some (next, pending) =>
          walkPath graph (unreached.erase next)
            (graph.arrive next :: ⟨stop.moduleId, pending⟩ :: outer)
termination_by (unreached.length, path.length)
decreasing_by
  · exact Prod.Lex.right _ (by simp)
  · have present := mem_of_nextUnreached? _found
    have positive := List.length_pos_of_mem present
    have shorter := List.length_erase_of_mem present
    exact Prod.Lex.left _ _ (by omega)

/-- Walks from each of the given modules that is not reached when its turn comes. -/
def walkFrom (graph : DependencyGraph) (unreached : List Text) : List Text → List Text
  | [] => []
  | root :: roots =>
      if root ∈ unreached then
        let (left, unreached) := walkPath graph (unreached.erase root) [graph.arrive root]
        left ++ walkFrom graph unreached roots
      else
        walkFrom graph unreached roots

/-- The module ids with dependencies before their dependents. -/
def sortedIds (graph : DependencyGraph) : List Text :=
  walkFrom graph graph.moduleIds graph.moduleIds

def sorted (graph : DependencyGraph) : List (Text × ComponentRecord) :=
  graph.sortedIds.filterMap graph.entry?

end ComponentInliner.DependencyGraph
