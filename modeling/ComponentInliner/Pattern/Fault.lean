import ComponentInliner.Pattern.Basic
import ComponentInliner.Text.Quoted

/-!
# Malformed patterns

What may be wrong with a written pattern, and where. `PatternFault.message` says it, with the
line and the column as well if the pattern has several lines.
-/

namespace ComponentInliner

/-- What is wrong with a written pattern. -/
inductive PatternProblem where
  | escapeAtEnd
  | unterminatedGroup
  | unbalancedParenthesis
  | unterminatedSet
  | nothingToRepeat
  | multipleRepeat
  | reversedCounts
  | badEscape (escape : Text)
  | incompleteEscape (escape : Text)
  | largeOctal (escape : Text)
  | missingBrace
  | badRange (first last : Text)
  | unexpectedEnd
  | unknownExtension (extension : Text)
  | unterminatedComment
  | misplacedFlags
  | unknownFlag
  | missingFlagEnd
  | missingFlag
  | missingColon
  | localeFlag
  | conflictingFlags
  | fixedFlags
  | flagOnAndOff
  /-- A flag that counts for the whole pattern, in a group that has a body. -/
  | wholeFlag (isOn : Bool)
  | missingName (what : String)
  | unterminatedName (terminator : Char)
  | badName (name : Text)
  | unknownName (name : Text)
  | redefinedName (name : Text) (group former : Nat)
  | unknownGroup (group : Nat)
  | openGroup
  /-- A reference to a group in the same body that is looked back over. -/
  | groupBehind
  /-- A condition on the whole pattern, which is no group. -/
  | groupZero
  | thirdBranch
  | unknownCharacter (name : Text)
  deriving DecidableEq, Repr

/-- What is said about a problem. -/
def PatternProblem.text : PatternProblem → Text
  | .escapeAtEnd => "bad escape (end of pattern)"
  | .unterminatedGroup => "missing ), unterminated subpattern"
  | .unbalancedParenthesis => "unbalanced parenthesis"
  | .unterminatedSet => "unterminated character set"
  | .nothingToRepeat => "nothing to repeat"
  | .multipleRepeat => "multiple repeat"
  | .reversedCounts => "min repeat greater than max repeat"
  | .badEscape escape => "bad escape " ++ escape
  | .incompleteEscape escape => "incomplete escape " ++ escape
  | .largeOctal escape => "octal escape value " ++ escape ++ " outside of range 0-0o377"
  | .missingBrace => "missing \x7b"
  | .badRange first last => "bad character range " ++ first ++ "-" ++ last
  | .unexpectedEnd => "unexpected end of pattern"
  | .unknownExtension extension => "unknown extension ?" ++ extension
  | .unterminatedComment => "missing ), unterminated comment"
  | .misplacedFlags => "global flags not at the start of the expression"
  | .unknownFlag => "unknown flag"
  | .missingFlagEnd => "missing -, : or )"
  | .missingFlag => "missing flag"
  | .missingColon => "missing :"
  | .localeFlag => "bad inline flags: cannot use 'L' flag with a str pattern"
  | .conflictingFlags => "bad inline flags: flags 'a', 'u' and 'L' are incompatible"
  | .fixedFlags => "bad inline flags: cannot turn off flags 'a', 'u' and 'L'"
  | .flagOnAndOff => "bad inline flags: flag turned on and off"
  | .wholeFlag isOn => Text.ofString
      ("bad inline flags: cannot turn " ++ (if isOn then "on" else "off") ++ " global flag")
  | .missingName what => Text.ofString ("missing " ++ what)
  | .unterminatedName terminator =>
      "missing " ++ [CodePoint.ofChar terminator] ++ ", unterminated name"
  | .badName name => "bad character in group name " ++ name.quoted
  | .unknownName name => "unknown group name " ++ name.quoted
  | .redefinedName name group former =>
      "redefinition of group name " ++ name.quoted ++ " as group " ++ Text.ofNat group ++
        "; was group " ++ Text.ofNat former
  | .unknownGroup group => "invalid group reference " ++ Text.ofNat group
  | .openGroup => "cannot refer to an open group"
  | .groupBehind => "cannot refer to group defined in the same lookbehind subpattern"
  | .groupZero => "bad group number"
  | .thirdBranch => "conditional backref with more than two branches"
  | .unknownCharacter name => "undefined character name " ++ name.quoted

/-- Why a written pattern cannot be read. -/
inductive PatternFault where
  | malformed (problem : PatternProblem) (position : Nat)
  /-- A repetition in a pattern that is to be a template. -/
  | repetitionInTemplate (kind : RepetitionKind)
  /-- The pattern looks back over a stretch of no fixed width. -/
  | varyingWidth
  /-- The pattern looks back over a stretch that is too long. -/
  | farBehind
  /-- A repetition count that is too large to be counted to. -/
  | largeCount
  /-- A repetition count with more digits than a numeral may have. -/
  | longCount
  /-- An escape for a number that is far beyond all code points. -/
  | largeEscape
  /-- The flags of the whole pattern ask both for ASCII and for Unicode. -/
  | opposedFlags
  deriving DecidableEq, Repr

namespace PatternFault

/-- Line and column of a position, both counted from one. -/
def lineAndColumn (pattern : Text) (position : Nat) : Nat × Nat :=
  let before := pattern.take position
  let lineFeed : CodePoint := '\n'
  let column := (before.reverse.takeWhile fun point : CodePoint => point ≠ lineFeed).length
  (before.count lineFeed + 1, column + 1)

/-- The name of the operator of a repetition. -/
def operator : RepetitionKind → Text
  | .greedy => "MAX_REPEAT"
  | .lazy => "MIN_REPEAT"
  | .possessive => "POSSESSIVE_REPEAT"

def message (pattern : Text) : PatternFault → Text
  | .malformed problem position =>
      let place := problem.text ++ " at position " ++ Text.ofNat position
      if pattern.contains "\n" then
        let (line, column) := lineAndColumn pattern position
        place ++ " (line " ++ Text.ofNat line ++ ", column " ++ Text.ofNat column ++ ")"
      else
        place
  | .repetitionInTemplate kind => "internal: unsupported template operator " ++ operator kind
  | .varyingWidth => "look-behind requires fixed-width pattern"
  | .farBehind => "looks too much behind"
  | .largeCount => "the repetition number is too large"
  | .longCount => "the repetition number has too many digits"
  | .largeEscape => "the number of the escape is too large"
  | .opposedFlags => "ASCII and UNICODE flags are incompatible"

/-- Whether a fault is reported as one of the pattern. The others break off whatever reads it. -/
def isReported : PatternFault → Bool
  | .malformed _ _ | .repetitionInTemplate _ | .varyingWidth | .farBehind => true
  | .largeCount | .longCount | .largeEscape | .opposedFlags => false

end PatternFault

end ComponentInliner
