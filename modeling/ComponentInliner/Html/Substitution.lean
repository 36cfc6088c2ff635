import ComponentInliner.Text.Basic

/-!
# Replacing tags

A substitution goes through a document from its beginning and puts other text in the place of the
tags that it finds. It goes on behind a tag that is replaced, so that tags inside that tag are not
looked at, and the replacement is not either. What becomes of a document is told code point by code
point; the new document is put together from that.
-/

namespace ComponentInliner.Html

/-- A tag at the beginning of a text. -/
structure Tag where
  replacement : Text
  /-- The text after it. -/
  after : Text

/-- The tags that are replaced in a document. -/
structure Substitution where
  tag? : Text → Option Tag
  /-- Only the first tag is replaced. -/
  once : Bool

/-- What becomes of a code point of a document. -/
inductive Fate where
  /-- It stays. -/
  | kept
  /-- A tag begins with it, and a text takes the place of the tag. -/
  | replaced (replacement : Text)
  /-- It belongs to a tag that begins before it. -/
  | dropped
  deriving DecidableEq, Repr

def Fate.leaves (fate : Fate) (point : CodePoint) : Text :=
  match fate with
  | .kept => [point]
  | .replaced replacement => replacement
  | .dropped => []

/-- The new text that code points leave together. -/
def leftover (fates : List Fate) (text : Text) : Text :=
  (List.zipWith Fate.leaves fates text).flatten

namespace Substitution

def nothing : Substitution where
  tag? _ := none
  once := false

/--
What becomes of the code points of a text. The first `covered` belong to a tag that begins before
the text; `searching` tells whether more tags are replaced.
-/
def fates (substitution : Substitution) :
    (searching : Bool) → (covered : Nat) → Text → List Fate
  | _, _, [] => []
  | searching, covered + 1, _ :: rest => .dropped :: substitution.fates searching covered rest
  | searching, 0, point :: rest =>
      match if searching then substitution.tag? (point :: rest) else none with
      | some tag =>
          .replaced tag.replacement ::
            substitution.fates (!substitution.once) (rest.length - tag.after.length) rest
      | none => .kept :: substitution.fates searching 0 rest

/-- The document in which the tags are replaced. -/
def apply (substitution : Substitution) (document : Text) : Text :=
  leftover (substitution.fates true 0 document) document

end Substitution

end ComponentInliner.Html
