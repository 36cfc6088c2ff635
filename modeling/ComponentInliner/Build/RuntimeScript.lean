import ComponentInliner.FileTree

/-!
# Finding the runtime

The runtime is a script that compiled documents need. It is looked for in places that the options
name, then in the usual places below the project root; the first file that can be read is taken.
-/

namespace ComponentInliner.RuntimeScript

/-- The places below the project root where a runtime file of a given name usually is. -/
def usualPlaces (filename : Text) : List Text :=
  [filename, "src/" ++ filename, "node_modules/@mr_hugo/boredom/dist/" ++ filename]

/-- The paths where a runtime is looked for, in order. -/
def candidates (root filename : Text) (searchPaths : List Text) : List Path :=
  let base := Path.ofText (if root.isEmpty then "." else root)
  (searchPaths ++ usualPlaces filename).map fun place => base.join (Path.ofText place)

/-- The outcome of looking for the runtime. -/
inductive Lookup where
  | found (path : Path) (code : Text)
  /-- None of so many paths could be read. -/
  | missing (searched : Nat)

/-- The first of some paths that is a file with a text, with that text. -/
def firstReadable (tree : FileTree) : List Path → Option (Path × Text)
  | [] => none
  | path :: paths =>
      match tree.readText path with
      | .ok code => some (path, code)
      | .error _ => firstReadable tree paths

def find (tree : FileTree) (root filename : Text) (searchPaths : List Text) : Lookup :=
  let paths := candidates root filename searchPaths
  match firstReadable tree paths with
  | some (path, code) => .found path code
  | none => .missing paths.length

end ComponentInliner.RuntimeScript
