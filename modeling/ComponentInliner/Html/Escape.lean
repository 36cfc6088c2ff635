import ComponentInliner.Text.Basic

/-!
# Character references

Text in an attribute or a comment is written with character references for the characters that
could end it or begin another reference.
-/

namespace ComponentInliner.Html

/-- The characters that are written as a reference, with their references. -/
def references : List (Char × String) :=
  [('&', "&amp;"), ('<', "&lt;"), ('>', "&gt;"), ('\'', "&#39;"), ('"', "&#34;")]

/-- How a code point is written in an attribute. -/
def escapePoint (point : CodePoint) : Text :=
  match references.find? fun entry => point = entry.1 with
  | some (_, reference) => Text.ofString reference
  | none => [point]

def escape (text : Text) : Text :=
  text.flatMap escapePoint

end ComponentInliner.Html
