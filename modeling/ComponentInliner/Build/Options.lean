import ComponentInliner.Filter

/-!
# Build options

What a build can be told. Names and paths come from a configuration that may hold anything, so
they are settings; using one that is no text is a fault of the build.
-/

namespace ComponentInliner

structure BuildOptions where
  inlinesRuntime : Bool
  reportsIssues : Bool
  compactsStyles : Bool
  checksDependencies : Bool
  includeChoice : FilterChoice
  excludeChoice : FilterChoice
  runtimeName : Setting
  bootstrapName : Setting
  searchPaths : List Setting

namespace BuildOptions

/-- The name of the runtime file if nothing is said about it. -/
def usualRuntime : Text := "boreDOM.js"

/-- The name of the starting script if nothing is said about it. -/
def usualBootstrap : Text := "main.js"

def usual : BuildOptions :=
  ⟨true, true, true, false, none, none, .text usualRuntime, .text usualBootstrap, []⟩

end BuildOptions

end ComponentInliner
