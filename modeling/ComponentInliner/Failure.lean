import ComponentInliner.Component.Record

/-!
# Failures

The failures that the library reports to its callers. Each has a kind, a message and details;
`Failure.text` is how it is shown.
-/

namespace ComponentInliner

/-- The kinds of failures. Every kind but the first refines the first. -/
inductive FailureKind where
  | general
  | moduleSource
  | constantValue
  | invalidComponent
  | runtimeMissing
  | configuration
  deriving DecidableEq, Repr

/-- A reported failure. -/
structure Failure where
  kind : FailureKind
  message : Text
  details : List (Text × Text)
  deriving DecidableEq

namespace Failure

/-- The message, with the details in parentheses if there are any. -/
def text (failure : Failure) : Text :=
  if failure.details.isEmpty then
    failure.message
  else
    let shown := failure.details.map fun (name, detail) => name ++ "=" ++ detail
    failure.message ++ " (" ++ Text.joinWith ", " shown ++ ")"

/-- A module that was required to be a component and is none. -/
def invalidComponent (moduleId : Text) (issues : List Text) : Failure :=
  let summary : Text := "Invalid component module '" ++ moduleId ++ "'"
  ⟨.invalidComponent,
    if issues.isEmpty then summary else summary ++ ": " ++ Text.joinWith "; " issues,
    [("issue_count", Text.ofNat issues.length)]⟩

/-- A runtime script that none of the searched paths holds. -/
def runtimeMissing (filename : Text) (searched : Nat) : Failure :=
  ⟨.runtimeMissing, "Could not find runtime '" ++ filename ++ "'",
    [("searched", Text.ofNat searched)]⟩

def configuration (message : Text) : Failure :=
  ⟨.configuration, message, []⟩

/-- What is reported when a record is required of a module without one. -/
def ofAnalysis (moduleId : Text) (analysis : Analysis) : Failure :=
  let messages := analysis.issues.map fun issue => Text.ofString issue.message
  invalidComponent moduleId
    (if messages.isEmpty then ["Module does not export a component."] else messages)

end Failure

end ComponentInliner
