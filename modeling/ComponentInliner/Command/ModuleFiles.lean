import ComponentInliner.FileTree

/-!
# The files of component paths

A component path is a file, or a directory with all the files below it in the order of their
paths, or it leads nowhere.
-/

namespace ComponentInliner

/-- What a component path leads to. -/
inductive PathContent where
  | files (paths : List Path)
  | missing (path : Path)
  deriving DecidableEq

def PathContent.of (tree : FileTree) (path : Path) : PathContent :=
  match (tree.locate path).toOption with
  | none => .missing path
  | some place =>
      match tree.entry? place with
      | some (.file _) => .files [path]
      | some .directory => .files ((tree.filesBelow place).map path.below)
      | none => .missing path

/-- What is said about a path that leads nowhere. -/
def PathContent.missingMessage (path : Path) : Text :=
  "Component path " ++ path.text ++ " does not exist"

end ComponentInliner
