import ComponentInliner.Text.Classes

/-!
# Compact style sheets

A style sheet is written compactly by dropping its comments and putting one space for every run
of white space, none at the ends. A comment that is not closed is no comment.
-/

namespace ComponentInliner.StyleSheet

/-- Whether a text holds the end of a comment. -/
def closesComment (text : Text) : Bool :=
  text.contains "*/"

/-- Drops the comments of a style sheet; `inside` tells whether the text begins in a comment. -/
def dropComments (inside : Bool) : Text → Text
  | [] => []
  | [point] => if inside then [] else [point]
  | first :: second :: rest =>
      if inside then
        if first = '*' ∧ second = '/' then dropComments false rest
        else dropComments true (second :: rest)
      else if first = '/' ∧ second = '*' ∧ closesComment rest then
        dropComments true rest
      else
        first :: dropComments false (second :: rest)

/-- Puts one space for every run of white space; `afterBlank` tells whether one came before. -/
def collapseBlanks (afterBlank : Bool) : Text → Text
  | [] => []
  | point :: rest =>
      if point.isBlank then
        if afterBlank then collapseBlanks true rest else ' ' :: collapseBlanks true rest
      else
        point :: collapseBlanks false rest

/-- A style sheet without comments and needless white space. -/
def compact (style : Text) : Text :=
  (collapseBlanks false (dropComments false style)).trimBoth CodePoint.isBlank

end ComponentInliner.StyleSheet
