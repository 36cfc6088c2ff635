import ComponentInliner.Text.Quoted

/-!
# Writing by lines and columns

A `Pen` writes a YAML text from left to right and knows the column it has reached, so that lines
can be indented and long scalars folded. Every step is a function from pens to pens that adds to
what is written.
-/

namespace ComponentInliner.Yaml

/-- What is written so far. -/
structure Pen where
  pieces : List Text
  column : Nat
  /-- Whether what is written ends in white space, or is nothing. -/
  hasGap : Bool
  /-- Whether the line has only white space and marks of block entries. -/
  isFresh : Bool

namespace Pen

def start : Pen := ⟨[], 0, true, true⟩

def text (pen : Pen) : Text :=
  pen.pieces.reverse.flatten

def put (content : Text) (pen : Pen) : Pen :=
  { pen with pieces := content :: pen.pieces, column := pen.column + content.length }

def endLine (pen : Pen) : Pen :=
  ⟨"\n" :: pen.pieces, 0, true, true⟩

/-- Goes to a column, on a new line unless the line has nothing but marks before it. -/
def indentTo (indent : Nat) (pen : Pen) : Pen :=
  let isPast := indent < pen.column || (pen.column = indent && !pen.hasGap)
  let pen := if !pen.isFresh || isPast then pen.endLine else pen
  if pen.column < indent then
    { pen.put (List.replicate (indent - pen.column) (CodePoint.ofChar ' ')) with hasGap := true }
  else
    pen

/-- Writes a mark, after a space if it needs one. -/
def mark (content : Text) (needsGap keepsFresh : Bool) (pen : Pen) : Pen :=
  let pen := if needsGap && !pen.hasGap then pen.put " " else pen
  { pen.put content with hasGap := false, isFresh := pen.isFresh && keepsFresh }

/-- Says that the line has more than marks now. -/
def settle (pen : Pen) : Pen :=
  { pen with hasGap := false, isFresh := false }

end Pen

end ComponentInliner.Yaml
