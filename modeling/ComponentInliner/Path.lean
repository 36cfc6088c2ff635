import ComponentInliner.Text.Basic

/-!
# Paths

A path is a list of parts below an anchor: nothing for a relative path, one slash or two for an
absolute one. Empty parts and parts that are a single point do not count, and two points are a
part like any other: they are taken away only when a path is resolved.
-/

namespace ComponentInliner

/-- What a path begins with. -/
inductive Anchor where
  | relative
  | root
  /-- Two slashes, which some systems read in a way of their own. -/
  | doubleRoot
  deriving DecidableEq, Repr

/-- A path of a file or a directory. -/
structure Path where
  anchor : Anchor
  parts : List Text
  deriving DecidableEq, Repr

namespace Path

/-- The parts of a text between slashes that count. -/
def partsOf (text : Text) : List Text :=
  (Text.splitOnPoint '/' text).filter fun part => !part.isEmpty && part ≠ "."

def ofText (text : Text) : Path :=
  let slashes := (text.takeWhile fun point : CodePoint => point = '/').length
  let anchor :=
    if slashes = 0 then Anchor.relative else if slashes = 2 then .doubleRoot else .root
  ⟨anchor, partsOf text⟩

def anchorText : Anchor → Text
  | .relative => ""
  | .root => "/"
  | .doubleRoot => "//"

/-- The text of a path; the path without anchor and parts is a single point. -/
def text (path : Path) : Text :=
  if path.anchor = .relative ∧ path.parts.isEmpty then "."
  else anchorText path.anchor ++ Text.joinWith "/" path.parts

/-- The place of a path seen from another one; an absolute path stays. -/
def join (base path : Path) : Path :=
  if path.anchor = .relative then ⟨base.anchor, base.parts ++ path.parts⟩ else path

def below (base : Path) (parts : List Text) : Path :=
  ⟨base.anchor, base.parts ++ parts⟩

def name (path : Path) : Text :=
  path.parts.getLastD []

def parent (path : Path) : Path :=
  ⟨path.anchor, path.parts.dropLast⟩

/-- The end of a name from its last point on, unless the point is its first or last character. -/
def extension (path : Path) : Text :=
  let reversed := path.name.reverse
  let tail := reversed.takeWhile fun point : CodePoint => point ≠ '.'
  let hasName := tail.length + 1 < reversed.length
  if hasName && !tail.isEmpty then '.' :: tail.reverse else []

/-- Takes every pair of a part and two points after it away, from the left. -/
def withoutParents (taken : List Text) : List Text → List Text
  | [] => taken.reverse
  | part :: parts => withoutParents (if part = ".." then taken.tail else part :: taken) parts

/-- The absolute parts of a path seen from a directory, with parent parts taken away. -/
def resolve (workingDirectory : List Text) (path : Path) : Path :=
  let base := if path.anchor = .relative then workingDirectory else []
  ⟨.root, withoutParents [] (base ++ path.parts)⟩

def partsLe : (left right : List Text) → Bool
  | [], _ => true
  | _ :: _, [] => false
  | leftPart :: left, rightPart :: right =>
      if leftPart = rightPart then partsLe left right
      else Text.lexicographicLe leftPart rightPart

end Path

end ComponentInliner
