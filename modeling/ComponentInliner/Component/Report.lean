import ComponentInliner.Component.Record

/-!
# Warnings about modules

The issues of one module are reported together, one line each under the id of the module.
-/

namespace ComponentInliner.Component

/-- What every build warning begins with. -/
def warningMark : String := "[boredom-compiler]"

def issueReport (moduleId : Text) (messages : List Text) : Text :=
  warningMark ++ " " ++ moduleId ++ "\n" ++
    Text.joinWith "\n" (messages.map fun message => "  - " ++ message)

end ComponentInliner.Component
