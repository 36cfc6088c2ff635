import ComponentInliner.Component.Graph
import ComponentInliner.Log

/-!
# Build sessions

A session holds what a build has found so far: the components by module id, the names they
declare, and the warnings to report. Both maps keep the order in which modules were registered.
A module that is analyzed again keeps its place; one that is no component any more loses it.
-/

namespace ComponentInliner

/-- The state of a build. -/
structure Session where
  root : Text
  components : Registration
  declared : OrderedMap Text (List Text)
  warnings : List Text

namespace Session

def begin (root : Text) : Session :=
  ⟨root, .empty, .empty, []⟩

def graph (session : Session) : DependencyGraph :=
  ⟨session.components, session.declared⟩

def contains (session : Session) (moduleId : Text) : Bool :=
  session.components.contains moduleId

def register (session : Session) (moduleId : Text) (record : ComponentRecord) : Session :=
  { session with
    components := session.components.insert moduleId record,
    declared := session.declared.insert moduleId record.metadata.dependencies }

def remove (session : Session) (moduleId : Text) : Session :=
  { session with
    components := session.components.erase moduleId,
    declared := session.declared.erase moduleId }

/-- Forgets the declared dependencies of a module and nothing else. -/
def forgetDeclared (session : Session) (moduleId : Text) : Session :=
  { session with declared := session.declared.erase moduleId }

/-- Takes the outcome of an analysis: registers the component, or forgets the one before. -/
def record (session : Session) (moduleId : Text) (component? : Option ComponentRecord) : Session :=
  match component? with
  | some component => session.register moduleId component
  | none => session.remove moduleId

/-- What is logged when a module is forgotten: nothing if it had no component. -/
def removalLog (session : Session) (moduleId : Text) : List LogRecord :=
  if session.contains moduleId then
    [⟨.debug, "boredom_compiler.session", "Removed component entry for " ++ moduleId⟩]
  else
    []

def warn (session : Session) (message : Text) : Session :=
  { session with warnings := session.warnings ++ [message] }

def clear (session : Session) : Session :=
  begin session.root

/-- The declared dependencies of a registered module, or those of its metadata. -/
def declaredBy (session : Session) (moduleId : Text) (record : ComponentRecord) : List Text :=
  (session.declared.get? moduleId).getD record.metadata.dependencies

/-- Adds what a second session found. -/
def absorb (session other : Session) : Session :=
  ⟨session.root, session.components.insertAll other.components,
    session.declared.insertAll ⟨other.components.entries.map fun (moduleId, record) =>
      (moduleId, other.declaredBy moduleId record)⟩,
    session.warnings ++ other.warnings⟩

/-- The session that sessions make together; its root is the one given or that of the first. -/
def merge (root? : Option Text) (sessions : List Session) : Session :=
  let firstRoot := (sessions.head?.map root).getD []
  sessions.foldl absorb (begin (root?.getD firstRoot))

end Session

end ComponentInliner
