import ComponentInliner.Proofs.Html.Tags
import Mathlib.Data.Nat.Find

/-!
# Putting the runtime into a document

The runtime takes the place of the first script tag for its file. Where that tag begins and ends is
said without a search: a document can be taken apart at a script tag, and of all the ways to do so
the one with the shortest beginning counts. For a file name without quotation marks there is at most
one such way, since the source of a tag ends with the first quotation mark and its attributes with
the first `>`. The code is put in as it is.
-/

namespace ComponentInliner.Html

/-- The element that loads a script file. -/
def loadingScript (source attributes : Text) : Text :=
  "<script src=\"" ++ source ++ "\"" ++ attributes ++ "></script>"

/-- The parts of a document that has a script tag for a file: the text before the tag, the folder
before the file name, the attributes behind the source, and the text after the tag. -/
structure RuntimeSplit where
  before : Text
  folder : Text
  attributes : Text
  after : Text
  deriving DecidableEq

namespace RuntimeSplit

variable {filename document : Text} {split other : RuntimeSplit}

/-- The parts make up the document. -/
structure Splits (filename document : Text) (split : RuntimeSplit) : Prop where
  unquoted : CodePoint.ofChar '"' ∉ split.folder
  unclosed : CodePoint.ofChar '>' ∉ split.attributes
  joined : document = split.before ++ loadingScript (split.folder ++ filename) split.attributes ++
    split.after

/-- No script tag for the file begins earlier. -/
structure IsFirst (filename document : Text) (split : RuntimeSplit) : Prop where
  splits : split.Splits filename document
  shortest : ∀ other : RuntimeSplit, other.Splits filename document →
    split.before.length ≤ other.before.length

theorem isRuntimeTag_iff {text : Text} :
    IsRuntimeTag filename text ↔
      ∃ split : RuntimeSplit, split.before = [] ∧ split.Splits filename text := by
  constructor
  · rintro ⟨folder, attributes, after, unquoted, unclosed, read⟩
    refine ⟨⟨[], folder, attributes, after⟩, rfl, unquoted, unclosed, ?_⟩
    simpa only [loadingScript, List.append_assoc, List.nil_append] using read
  · rintro ⟨⟨before, folder, attributes, after⟩, rfl, unquoted, unclosed, joined⟩
    refine ⟨folder, attributes, after, unquoted, unclosed, ?_⟩
    simpa only [loadingScript, List.append_assoc, List.nil_append] using joined

/-- A tag that begins in a part of a document splits the document there. -/
theorem exists_splits_of_beginsIn {part following : Text}
    (begins : BeginsIn (IsRuntimeTag filename) part following) :
    ∃ split : RuntimeSplit, split.Splits filename (part ++ following) ∧
      split.before.length < part.length := by
  obtain ⟨rest, ⟨start, rfl⟩, ordinary, isTag⟩ := begins
  obtain ⟨⟨before, folder, attributes, after⟩, rfl, unquoted, unclosed, joined⟩ :=
    isRuntimeTag_iff.mp isTag
  refine ⟨⟨start, folder, attributes, after⟩, ⟨unquoted, unclosed, ?_⟩, ?_⟩
  · rw [List.append_assoc, joined]
    simp only [List.nil_append, List.append_assoc]
  · have reaches := List.length_pos_of_ne_nil ordinary
    simp only [List.length_append]
    omega

/-- Before the first tag no tag begins. -/
theorem IsFirst.not_beginsIn {following : Text} (first : split.IsFirst filename document)
    (joined : document = split.before ++ following) :
    ¬BeginsIn (IsRuntimeTag filename) split.before following := by
  intro begins
  obtain ⟨other, splits, earlier⟩ := exists_splits_of_beginsIn begins
  rw [← joined] at splits
  exact absurd (first.shortest other splits) (Nat.not_le.mpr earlier)

/-- A tag is read in one way: its source ends with the first quotation mark, its attributes with the
first `>`. -/
theorem Splits.eq_of_before (unquoted : CodePoint.ofChar '"' ∉ filename)
    (splits : split.Splits filename document) (otherSplits : other.Splits filename document)
    (same : split.before = other.before) : split = other := by
  obtain ⟨before, folder, attributes, after⟩ := split
  obtain ⟨before, otherFolder, otherAttributes, otherAfter⟩ := other
  cases same
  have reads := splits.joined.symm.trans otherSplits.joined
  simp only [loadingScript, List.append_assoc, List.append_cancel_left_eq] at reads
  have folderThenName := List.not_mem_append splits.unquoted unquoted
  have otherThenName := List.not_mem_append otherSplits.unquoted unquoted
  have atQuote : folder ++ filename ++
        CodePoint.ofChar '"' :: (attributes ++ "></script>" ++ after) =
      otherFolder ++ filename ++
        CodePoint.ofChar '"' :: (otherAttributes ++ "></script>" ++ otherAfter) := by
    simpa [Text.ofString] using reads
  obtain ⟨sameSource, behindSource⟩ := eq_of_first folderThenName otherThenName atQuote
  have atEnd : attributes ++ CodePoint.ofChar '>' :: ("</script>" ++ after) =
      otherAttributes ++ CodePoint.ofChar '>' :: ("</script>" ++ otherAfter) := by
    simpa [Text.ofString] using behindSource
  obtain ⟨sameAttributes, behindTag⟩ := eq_of_first splits.unclosed otherSplits.unclosed atEnd
  have sameFolder : folder = otherFolder := List.append_cancel_right sameSource
  have sameAfter : after = otherAfter := List.append_cancel_left behindTag
  rw [sameFolder, show attributes = otherAttributes from sameAttributes, sameAfter]

/-- There is one first tag at most. -/
theorem IsFirst.eq (unquoted : CodePoint.ofChar '"' ∉ filename)
    (first : split.IsFirst filename document) (otherFirst : other.IsFirst filename document) :
    other = split := by
  have sameLength := Nat.le_antisymm (otherFirst.shortest split first.splits)
    (first.shortest other otherFirst.splits)
  have reads := otherFirst.splits.joined.symm.trans first.splits.joined
  simp only [List.append_assoc] at reads
  have sameBefore := (List.append_inj reads sameLength).1
  exact otherFirst.splits.eq_of_before unquoted first.splits sameBefore

/-- If there is a tag, there is a first one. -/
theorem exists_isFirst (splits : split.Splits filename document) :
    ∃ first : RuntimeSplit, first.IsFirst filename document := by
  let places := fun place => ∃ other : RuntimeSplit,
    other.Splits filename document ∧ other.before.length = place
  have somewhere : ∃ place, places place := ⟨_, split, splits, rfl⟩
  classical
  obtain ⟨first, firstSplits, isLeast⟩ := Nat.find_spec somewhere
  refine ⟨first, firstSplits, fun other otherSplits => ?_⟩
  rw [isLeast]
  exact Nat.find_min' somewhere ⟨other, otherSplits, rfl⟩

end RuntimeSplit

open RuntimeSplit

section Inlining

variable {filename : Text} (unquoted : CodePoint.ofChar '"' ∉ filename) (code : Text)

include unquoted in
/-- The tag that is found is the only one that can be read at the beginning of a text. -/
theorem runtimeInlining_tag? {folder attributes after : Text}
    (folderUnquoted : CodePoint.ofChar '"' ∉ folder)
    (unclosed : CodePoint.ofChar '>' ∉ attributes) :
    (runtimeInlining code filename).tag? (loadingScript (folder ++ filename) attributes ++ after) =
      some ⟨inlineScript attributes code, after⟩ := by
  let text := loadingScript (folder ++ filename) attributes ++ after
  let split : RuntimeSplit := ⟨[], folder, attributes, after⟩
  have splits : split.Splits filename text := ⟨folderUnquoted, unclosed, rfl⟩
  have isTag : IsRuntimeTag filename text := isRuntimeTag_iff.mpr ⟨split, rfl, splits⟩
  have finds : (runtimeInlining code filename).Finds text := finds_runtimeInlining.mpr isTag
  obtain ⟨tag, found⟩ := Option.isSome_iff_exists.mp finds
  obtain ⟨⟨foundAttributes, foundAfter⟩, read, rfl⟩ := Option.map_eq_some_iff.mp found
  obtain ⟨foundFolder, foundUnquoted, foundUnclosed, reads⟩ := runtimeTag?_sound read
  let other : RuntimeSplit := ⟨[], foundFolder, foundAttributes, foundAfter⟩
  have otherSplits : other.Splits filename text :=
    ⟨foundUnquoted, foundUnclosed, by simpa only [other, loadingScript, List.append_assoc,
      List.nil_append] using reads⟩
  have same : split = other := splits.eq_of_before unquoted otherSplits rfl
  have sameAttributes : attributes = foundAttributes := congrArg RuntimeSplit.attributes same
  have sameAfter : after = foundAfter := congrArg RuntimeSplit.after same
  rw [found, sameAttributes, sameAfter]

include unquoted in
theorem inlineRuntime_of_isFirst {document : Text} {split : RuntimeSplit}
    (first : split.IsFirst filename document) :
    inlineRuntime code filename document = split.before ++ "<script" ++ split.attributes ++ ">\n" ++
      code ++ "\n</script>" ++ split.after := by
  obtain ⟨before, folder, attributes, after⟩ := split
  have joined := first.splits.joined
  rw [List.append_assoc] at joined
  have noTag : ¬BeginsIn (runtimeInlining code filename).Finds before
      (loadingScript (folder ++ filename) attributes ++ after) := by
    rw [BeginsIn.congr fun _ => finds_runtimeInlining]
    exact first.not_beginsIn joined
  have found : (runtimeInlining code filename).tag?
      (loadingScript (folder ++ filename) attributes ++ after) =
        some ⟨inlineScript attributes code, after⟩ :=
    runtimeInlining_tag? unquoted code first.splits.unquoted first.splits.unclosed
  rw [inlineRuntime, joined, Substitution.apply_append_of_none noTag]
  have atTag : (runtimeInlining code filename).apply
      (loadingScript (folder ++ filename) attributes ++ after) =
        inlineScript attributes code ++ after :=
    Substitution.apply_of_first rfl found (List.suffix_append _ _)
  rw [atTag]
  simp only [inlineScript, List.append_assoc]

end Inlining

/-- A document without a script tag for the file stays as it is. In every other document there is
exactly one first tag, and it alone is replaced: by a script with the attributes of the tag and the
code, each as it is. -/
theorem inlineRuntime_exact {filename : Text} (unquoted : CodePoint.ofChar '"' ∉ filename)
    (code document : Text) :
    ((∀ split : RuntimeSplit, ¬split.Splits filename document) →
      inlineRuntime code filename document = document) ∧
    ((∃ split : RuntimeSplit, split.Splits filename document) →
      ∃ split : RuntimeSplit, (∀ other, other.IsFirst filename document ↔ other = split) ∧
        inlineRuntime code filename document = split.before ++ "<script" ++ split.attributes ++
          ">\n" ++ code ++ "\n</script>" ++ split.after) := by
  constructor
  · intro none
    have noTag : ¬BeginsIn (runtimeInlining code filename).Finds document [] := by
      rw [BeginsIn.congr fun _ => finds_runtimeInlining]
      intro begins
      obtain ⟨split, splits, -⟩ := exists_splits_of_beginsIn begins
      exact none split (by simpa using splits)
    have stays := Substitution.apply_append_of_none noTag
    rw [List.append_nil] at stays
    exact stays.trans (List.append_nil _)
  · rintro ⟨split, splits⟩
    obtain ⟨first, isFirst⟩ := exists_isFirst splits
    refine ⟨first, fun other => ⟨isFirst.eq unquoted, ?_⟩, ?_⟩
    · rintro rfl
      exact isFirst
    · exact inlineRuntime_of_isFirst unquoted code isFirst

/-- A document with two script tags for the runtime. -/
def twoRuntimeTags : Text :=
  loadingScript "app.js" [] ++ loadingScript "/boreDOM.js" " defer" ++
    loadingScript "boreDOM.js" []

theorem inlineRuntime_exact_second :
    CodePoint.ofChar '"' ∉ Text.ofString "boreDOM.js" ∧
      (∃ split : RuntimeSplit, split.Splits "boreDOM.js" twoRuntimeTags) ∧
      ∃ split : RuntimeSplit, (∀ other, other.IsFirst "boreDOM.js" twoRuntimeTags ↔ other = split) ∧
        inlineRuntime "$1" "boreDOM.js" twoRuntimeTags = split.before ++ "<script" ++
          split.attributes ++ ">\n" ++ "$1" ++ "\n</script>" ++ split.after := by
  have unquoted : CodePoint.ofChar '"' ∉ Text.ofString "boreDOM.js" := by decide
  have isSplit : ∃ split : RuntimeSplit, split.Splits "boreDOM.js" twoRuntimeTags :=
    ⟨⟨loadingScript "app.js" [], "/", " defer", loadingScript "boreDOM.js" []⟩,
      by decide, by decide, rfl⟩
  exact ⟨unquoted, isSplit, (inlineRuntime_exact unquoted "$1" twoRuntimeTags).2 isSplit⟩

end ComponentInliner.Html
