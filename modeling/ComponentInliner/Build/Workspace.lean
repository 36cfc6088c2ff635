import ComponentInliner.Build.Session

/-!
# Sessions side by side

A host may build with several sessions at a time and put them together at the end. It keeps each
session at a place, where it is changed. Merging opens a new session and adds what the others found,
one component after the other.
-/

namespace ComponentInliner

/-- The sessions of a host. A place is an index. -/
abbrev Workspace := List Session

/-- Takes over a component and the names that it declares. -/
def Session.adopt (session : Session) (moduleId : Text) (component : ComponentRecord)
    (names : List Text) : Session :=
  { session with
    components := session.components.insert moduleId component,
    declared := session.declared.insert moduleId names }

namespace Workspace

/-- Keeps a session at a new place. -/
def keep (session : Session) : StateM Workspace Nat :=
  modifyGet fun workspace => (workspace.length, workspace ++ [session])

def change (place : Nat) (change : Session → Session) : StateM Workspace Unit :=
  modify fun workspace => workspace.modify place change

/-- Adds what the session at a second place found to the session at a first place. -/
def absorb (target source : Nat) : StateM Workspace Unit := do
  match (← get)[source]? with
  | some session =>
      session.components.entries.forM fun (moduleId, component) =>
        change target fun merged =>
          merged.adopt moduleId component (session.declaredBy moduleId component)
      change target fun merged => { merged with warnings := merged.warnings ++ session.warnings }
  | none => return ()

/-- Puts the sessions at some places together in a new one, and answers its place. -/
def merge (root? : Option Text) (sources : List Nat) : StateM Workspace Nat := do
  let first? := sources.head?.bind ((← get)[·]?)
  let target ← keep (Session.begin (root?.getD ((first?.map Session.root).getD [])))
  sources.forM (absorb target)
  return target

end Workspace

end ComponentInliner
