import ComponentInliner.Text.Classes

/-!
# Sources that look like components

A source that cannot be parsed may still be meant as a component. It counts as one if somewhere
in it a declaration or a clause seems to export one of the names of a component.
-/

namespace ComponentInliner.Hint

def exportedNames : List Text := ["metadata", "style", "template", "logic"]

/-- The keywords of declarations that may be exported. -/
def declarationKeywords : List Text := ["const", "let", "var", "function", "class"]

/-- The text after one or more blanks, if it begins with one. -/
def dropBlanks? : Text → Option Text
  | [] => none
  | point :: rest => if point.isBlank then some (rest.dropWhile CodePoint.isBlank) else none

/-- Whether a text begins with one of the exported names as a whole word. -/
def beginsWithName (text : Text) : Bool :=
  exportedNames.any fun name =>
    match Text.dropPrefix? name text with
    | none => false
    | some [] => true
    | some (next :: _) => !next.isWord

/-- Whether one of the exported names stands in a text as a whole word. -/
def holdsName (afterWord : Bool) : Text → Bool
  | [] => false
  | point :: rest =>
      (!afterWord && beginsWithName (point :: rest)) || holdsName point.isWord rest

/-- Whether a declaration that exports one of the names begins after the word `export`. -/
def declares (afterExport : Text) : Bool :=
  match dropBlanks? afterExport with
  | none => false
  | some text =>
      declarationKeywords.any fun keyword =>
        ((Text.dropPrefix? keyword text).bind dropBlanks?).any beginsWithName

/-- Whether a closed clause that exports one of the names begins after the word `export`. -/
def lists (afterExport : Text) : Bool :=
  match afterExport.dropWhile CodePoint.isBlank with
  | brace :: rest =>
      let clause := rest.takeWhile fun point : CodePoint => point ≠ '}'
      decide (brace = '{') && decide (clause.length < rest.length) && holdsName false clause
  | [] => false

def looksLikeComponent : Text → Bool
  | [] => false
  | point :: rest =>
      (match Text.dropPrefix? "export" (point :: rest) with
        | some after => declares after || lists after
        | none => false) || looksLikeComponent rest

end ComponentInliner.Hint
