import ComponentInliner.Component.Record
import ComponentInliner.OrderedMap

/-!
# The dependency graph

Components name what they depend on, and a name means the first registered component that carries
it. A `DependencyGraph` is a registration with the names that each module id declares; its edges
are the declared names that some component carries.
-/

namespace ComponentInliner

/-- Components by module id, in the order in which they were registered. -/
structure Registration extends OrderedMap Text ComponentRecord where
  /-- No module has two components. -/
  distinct : toOrderedMap.Distinct

namespace Registration

def empty : Registration :=
  ⟨.empty, OrderedMap.distinct_empty⟩

/-- Registers the component of a module in the place of the one before, if there was one. -/
def insert (registration : Registration) (moduleId : Text) (record : ComponentRecord) :
    Registration :=
  ⟨registration.toOrderedMap.insert moduleId record, registration.distinct.insert moduleId record⟩

def erase (registration : Registration) (moduleId : Text) : Registration :=
  ⟨registration.toOrderedMap.erase moduleId, registration.distinct.erase moduleId⟩

/-- Registers all components of a second registration in its order. -/
def insertAll (registration other : Registration) : Registration :=
  ⟨registration.toOrderedMap.insertAll other.toOrderedMap,
    registration.distinct.insertAll other.toOrderedMap⟩

def ofList (entries : List (Text × ComponentRecord)) : Registration :=
  ⟨.ofList entries, OrderedMap.distinct_ofList entries⟩

end Registration

/-- Registered components and the names that they declare as dependencies. -/
structure DependencyGraph where
  components : Registration
  declared : OrderedMap Text (List Text)

namespace DependencyGraph

/-- The graph of components that declare what their metadata says. -/
def ofComponents (components : Registration) : DependencyGraph :=
  ⟨components, ⟨components.entries.map fun (moduleId, record) =>
    (moduleId, record.metadata.dependencies)⟩⟩

def moduleIds (graph : DependencyGraph) : List Text :=
  graph.components.keys

/-- The first registered module whose component carries a name. -/
def carrier? (graph : DependencyGraph) (name : Text) : Option Text :=
  (graph.components.entries.find? fun entry => entry.2.name = name).map Prod.fst

/-- The names that a module declares, in order. -/
def declaredBy (graph : DependencyGraph) (moduleId : Text) : List Text :=
  (graph.declared.get? moduleId).getD []

/-- The modules that a module depends on, in the order of its declared names. -/
def dependencies (graph : DependencyGraph) (moduleId : Text) : List Text :=
  (graph.declaredBy moduleId).filterMap graph.carrier?

/-- The declared names that no component carries, with the modules that declare them. -/
def unresolved (graph : DependencyGraph) : List (Text × Text) :=
  graph.moduleIds.flatMap fun moduleId =>
    ((graph.declaredBy moduleId).filter fun name => (graph.carrier? name).isNone).map (moduleId, ·)

/-- The component of a module with the module id, if it is registered. -/
def entry? (graph : DependencyGraph) (moduleId : Text) : Option (Text × ComponentRecord) :=
  (graph.components.get? moduleId).map (moduleId, ·)

/-- A module on the current path of a depth-first walk. -/
structure Stop where
  moduleId : Text
  pending : List Text

def arrive (graph : DependencyGraph) (moduleId : Text) : Stop :=
  ⟨moduleId, graph.dependencies moduleId⟩

end DependencyGraph

end ComponentInliner
