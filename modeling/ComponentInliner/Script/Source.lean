import ComponentInliner.Script.Expression

/-!
# Readers of source

A reader of source gives the statements of a module, or a tree with errors in it if the source does
not follow the grammar. What is wrong with the source is told from the first error of that tree: a
part of the source that is out of place, or one that is missing.
-/

namespace ComponentInliner.Script

/-- A syntax error and where it is, with lines counted from one and columns from zero. -/
inductive SyntaxFault where
  | unexpected (line column : Nat)
  | missing (kind : String) (line column : Nat)
  /-- The source has an error, but no part of it is one. -/
  | unplaced
  /-- Nothing is known about the error. -/
  | unlocated
  deriving DecidableEq, Repr

def SyntaxFault.message : SyntaxFault → String
  | .unexpected line column => s!"Unexpected token ({line}:{column})"
  | .missing kind line column => s!"Missing {kind} ({line}:{column})"
  | .unplaced => "Unexpected token"
  | .unlocated => "<syntax error>"

/-- The tree of a source with errors. -/
inductive ErrorTree where
  /-- A node: its kind, where it begins, whether it is out of place, whether it is missing in the
  source, and whether there is an error below it. -/
  | node (kind : String) (line column : Nat) (isError isMissing hasError : Bool)
      (children : List ErrorTree)
  /-- A tree of a reader that does not tell where its errors are. -/
  | hidden

mutual

/-- The first error of a tree. -/
def ErrorTree.firstFault? : ErrorTree → Option SyntaxFault
  | .node kind line column isError isMissing hasError children =>
      if isMissing then some (.missing kind line column)
      else if isError then some (.unexpected line column)
      else if hasError then firstFaultOf? children
      else none
  | .hidden => some .unlocated

/-- The first error of some trees. -/
def firstFaultOf? : List ErrorTree → Option SyntaxFault
  | [] => none
  | tree :: rest => tree.firstFault?.or (firstFaultOf? rest)

end

/-- What is wrong with the source of a tree. -/
def ErrorTree.fault (tree : ErrorTree) : SyntaxFault :=
  tree.firstFault?.getD .unplaced

/-- Reads the statements of a module. -/
abbrev SourceReader := List Char → Except ErrorTree (List WrittenStatement)

end ComponentInliner.Script
