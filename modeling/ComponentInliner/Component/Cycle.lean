import ComponentInliner.Component.Graph

/-!
# Dependency cycles and diagnostics

A depth-first walk finds a cycle whenever it looks at a module that is on its current path: the
path from that module on is the cycle. `diagnostics` says what is wrong with a graph: names that
no component carries, and cycles.
-/

namespace ComponentInliner.DependencyGraph

/-- The part of a path, innermost stop first, from a given module inwards. -/
def cycleTo (moduleId : Text) (path : List Stop) : List Text :=
  let ids := path.map Stop.moduleId
  (ids.take (ids.idxOf moduleId + 1)).reverse

/-- How many dependencies of the stops on a path are still to be looked at, and stops to leave. -/
def remainingWork : (path : List Stop) → Nat
  | [] => 0
  | stop :: outer => stop.pending.length + 1 + remainingWork outer

/-- Looks for cycles to the end of a path: the cycles, and the modules that stay unreached. -/
def cyclesOnPath (graph : DependencyGraph) (unreached : List Text) (path : List Stop) :
    List (List Text) × List Text :=
  match path with
  | [] => ([], unreached)
  | ⟨_, []⟩ :: outer => cyclesOnPath graph unreached outer
  | ⟨moduleId, next :: pending⟩ :: outer =>
      if _present : next ∈ unreached then
        cyclesOnPath graph (unreached.erase next)
          (graph.arrive next :: ⟨moduleId, pending⟩ :: outer)
      else
        let (cycles, rest) := cyclesOnPath graph unreached (⟨moduleId, pending⟩ :: outer)
        if next ∈ (⟨moduleId, pending⟩ :: outer : List Stop).map Stop.moduleId then
          (cycleTo next (⟨moduleId, pending⟩ :: outer) :: cycles, rest)
        else
          (cycles, rest)
termination_by (unreached.length, remainingWork path)
decreasing_by
  · exact Prod.Lex.right _ (by simp [remainingWork])
  · have positive := List.length_pos_of_mem _present
    have shorter := List.length_erase_of_mem _present
    exact Prod.Lex.left _ _ (by omega)
  · exact Prod.Lex.right _ (by simp [remainingWork])

/-- Looks for cycles from each of the given modules that is not reached when its turn comes. -/
def cyclesFrom (graph : DependencyGraph) (unreached : List Text) : List Text → List (List Text)
  | [] => []
  | root :: roots =>
      if root ∈ unreached then
        let (cycles, unreached) := cyclesOnPath graph (unreached.erase root) [graph.arrive root]
        cycles ++ cyclesFrom graph unreached roots
      else
        cyclesFrom graph unreached roots

/-- The cycles that a depth-first walk meets, each from the module that it returns to. -/
def cycles (graph : DependencyGraph) : List (List Text) :=
  cyclesFrom graph graph.moduleIds graph.moduleIds

def hasCycles (graph : DependencyGraph) : Bool :=
  !graph.cycles.isEmpty

def nameOf (graph : DependencyGraph) (moduleId : Text) : Text :=
  ((graph.components.get? moduleId).map ComponentRecord.name).getD []

/-- What is said about a name that no component carries. -/
def unknownMessage (graph : DependencyGraph) (moduleId name : Text) : Text :=
  "Component \x60" ++ graph.nameOf moduleId ++ "\x60 (" ++ moduleId ++
    ") depends on unknown component \x60" ++ name ++ "\x60."

/-- What is said about a cycle; the first name is repeated at the end. -/
def cycleMessage (graph : DependencyGraph) (cycle : List Text) : Text :=
  let names := cycle.map graph.nameOf
  "Dependency cycle: " ++ Text.joinWith " -> " (names ++ names.take 1) ++ "."

/-- What is wrong with a graph, a line for each problem. -/
def diagnostics (graph : DependencyGraph) : List Text :=
  graph.unresolved.map (fun (moduleId, name) => graph.unknownMessage moduleId name) ++
    graph.cycles.map graph.cycleMessage

end ComponentInliner.DependencyGraph
