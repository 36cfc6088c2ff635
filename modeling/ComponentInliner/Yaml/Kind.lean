import ComponentInliner.Yaml.Moment
import ComponentInliner.Yaml.Number

/-!
# What plain scalars mean

A scalar without quotes and tag may mean something else than its text: nothing, a flag, a number
or a moment. Two more are marks of mappings: one merges another mapping, one stands for the value
of a mapping as a whole. The look of the scalar decides.
-/

namespace ComponentInliner.Yaml

/-- What a scalar may mean. -/
inductive ScalarKind where
  | nothing
  | flag
  | integer
  | number
  | moment
  | text
  | merge
  | standIn
  deriving DecidableEq, Repr

/-- The words for flags in lower case, with what they mean. -/
def flagWords : List (Text × Bool) :=
  [("yes", true), ("no", false), ("true", true), ("false", false), ("on", true), ("off", false)]

/-- The flag that a word means in any casing. -/
def flagOf? (word : Text) : Option Bool :=
  flagWords.lookup (word.map CodePoint.asciiLower)

/-- Whether a word is in lower case, in upper case, or in lower case after its first letter. -/
def isRegularlyCased (word : Text) : Bool :=
  let isLower (point : CodePoint) : Bool := point.isBetween 'a' 'z'
  let isUpper (point : CodePoint) : Bool := point.isBetween 'A' 'Z'
  word.all isLower || word.all isUpper || (word.head?.any isUpper && word.tail.all isLower)

namespace ScalarKind

def ofPlain (text : Text) : ScalarKind :=
  let lowered := text.map CodePoint.asciiLower
  if text.isEmpty || text = "~" then nothing
  else if isRegularlyCased text && lowered = "null" then nothing
  else if isRegularlyCased text && (flagOf? text).isSome then flag
  else if looksLikeNumber text then number
  else if looksLikeInteger text then integer
  else if Moment.looksLikeMoment text then moment
  else if text = "<<" then merge
  else if text = "=" then standIn
  else .text

end ScalarKind

end ComponentInliner.Yaml
