import ComponentInliner.Text.Basic

/-!
# Module ids

A build host names modules by paths that may carry a query or a fragment and may use backslashes.
The normal form of an id drops the first two and uses slashes.
-/

namespace ComponentInliner.ModuleId

/-- The normal form of a module id. -/
def normalize (moduleId : Text) : Text :=
  let path := (moduleId.takeWhile fun point : CodePoint => point ≠ '?').takeWhile
    fun point : CodePoint => point ≠ '#'
  path.map fun point : CodePoint => if point = '\\' then '/' else point

end ComponentInliner.ModuleId
