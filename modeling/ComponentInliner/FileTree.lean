import ComponentInliner.OrderedMap
import ComponentInliner.Path
import ComponentInliner.Text.LineEnding
import ComponentInliner.Text.Utf8

/-!
# File trees

The part of a file system that the program sees, as a value: directories and files by their
absolute parts, and the working directory. Looking something up follows the parts one by one, so
two points lead from a directory to the one above it, and nothing lies below a file.
-/

namespace ComponentInliner

open Text (Bytes)

/-- What stands at a place of a file tree. -/
inductive FileEntry where
  | directory
  | file (bytes : Bytes)
  deriving DecidableEq

/-- A file system. -/
structure FileTree where
  entries : OrderedMap (List Text) FileEntry
  workingDirectory : List Text

/-- Why a file cannot be read or written. -/
inductive FileFault where
  | missing
  | isDirectory
  | notDirectory
  | notText
  deriving DecidableEq, Repr

namespace FileTree

/-- The entry with given absolute parts; the root is a directory. -/
def entry? (tree : FileTree) (parts : List Text) : Option FileEntry :=
  if parts.isEmpty then some .directory else tree.entries.get? parts

def addDirectory (tree : FileTree) (parts : List Text) : FileTree :=
  ((List.range (parts.length + 1)).map parts.take).foldl (fun tree above =>
    if (tree.entry? above).isSome then tree
    else { tree with entries := tree.entries.insert above .directory }) tree

def addFile (tree : FileTree) (parts : List Text) (bytes : Bytes) : FileTree :=
  let tree := tree.addDirectory parts.dropLast
  { tree with entries := tree.entries.insert parts (.file bytes) }

/-- Follows parts from a directory to the parts of what they lead to. -/
def follow (tree : FileTree) (place : List Text) : List Text → Except FileFault (List Text)
  | [] => .ok place
  | part :: parts =>
      match tree.entry? place with
      | some .directory =>
          follow tree (if part = ".." then place.dropLast else place ++ [part]) parts
      | some (.file _) => .error .notDirectory
      | none => .error .missing

/-- The absolute parts that a path leads to; what they name need not exist. -/
def locate (tree : FileTree) (path : Path) : Except FileFault (List Text) :=
  tree.follow (if path.anchor = .relative then tree.workingDirectory else []) path.parts

def lookup? (tree : FileTree) (path : Path) : Option FileEntry :=
  (tree.locate path).toOption.bind tree.entry?

def isFile (tree : FileTree) (path : Path) : Bool :=
  match tree.lookup? path with
  | some (.file _) => true
  | _ => false

def isDirectory (tree : FileTree) (path : Path) : Bool :=
  tree.lookup? path = some .directory

def readBytes (tree : FileTree) (path : Path) : Except FileFault Bytes := do
  match tree.entry? (← tree.locate path) with
  | some (.file bytes) => return bytes
  | some .directory => throw .isDirectory
  | none => throw .missing

/-- The text of a file, with every line ending made a line feed. -/
def readText (tree : FileTree) (path : Path) : Except FileFault Text := do
  match Text.decode? (← tree.readBytes path) with
  | some text => return Text.unifyLineEndings text
  | none => throw .notText

/-- The parts of all files below a directory, seen from it, in order. -/
def filesBelow (tree : FileTree) (place : List Text) : List (List Text) :=
  let below := tree.entries.entries.filterMap fun (parts, entry) =>
    match entry with
    | .file _ => if place.isPrefixOf parts then some (parts.drop place.length) else none
    | .directory => none
  (below.filter fun parts => !parts.isEmpty).mergeSort Path.partsLe

def writeBytes (tree : FileTree) (path : Path) (bytes : Bytes) : Except FileFault FileTree := do
  let parts ← tree.locate path
  match tree.entry? parts with
  | some .directory => throw .isDirectory
  | some (.file _) => return { tree with entries := tree.entries.insert parts (.file bytes) }
  | none =>
      match tree.entry? parts.dropLast with
      | some .directory => return { tree with entries := tree.entries.insert parts (.file bytes) }
      | some (.file _) => throw .notDirectory
      | none => throw .missing

def makeDirectory (tree : FileTree) (path : Path) : Except FileFault FileTree :=
  makeFrom tree (if path.anchor = .relative then tree.workingDirectory else []) path.parts
where
  makeFrom (tree : FileTree) (place : List Text) : List Text → Except FileFault FileTree
    | [] => .ok tree
    | part :: parts =>
        let next := if part = ".." then place.dropLast else place ++ [part]
        match tree.entry? next with
        | some .directory => makeFrom tree next parts
        | some (.file _) => .error (if parts.isEmpty then .isDirectory else .notDirectory)
        | none =>
            makeFrom { tree with entries := tree.entries.insert next .directory } next parts

end FileTree

end ComponentInliner
