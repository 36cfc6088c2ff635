import ComponentInliner.Proofs.Html.Tags
import ComponentInliner.Proofs.StyleSheet.Blanks
import ComponentInliner.Proofs.Text.Excision

/-!
# Comments in compact style sheets

Comments are cut out of a style sheet in one pass, before its white space is collapsed. Collapsing
neither makes nor ends a comment, but cutting does: a slash in front of a comment and an asterisk
behind it meet when the comment is gone. That is the only way in which a compact style sheet comes
to hold a comment, since a comment that is opened in what is left was not closed in the style sheet;
and exactly then writing it compactly once more changes it.
-/

namespace ComponentInliner

namespace Text

variable {needle text before after : Text}

theorem splitFirst?_sound (found : splitFirst? needle text = some (before, after)) :
    text = before ++ needle ++ after := by
  induction text generalizing before with
  | nil =>
      unfold splitFirst? at found
      split at found
      · next empty =>
          cases found
          rw [List.isEmpty_iff.mp empty]
          rfl
      · cases found
  | cons point rest ih =>
      unfold splitFirst? at found
      split at found
      · next isStart =>
          cases found
          exact dropPrefix?_eq_some.mp isStart
      · obtain ⟨⟨within, behind⟩, onRest, same⟩ := Option.map_eq_some_iff.mp found
        cases same
        rw [ih onRest]
        rfl

theorem contains_iff : text.contains needle ↔ needle <:+: text := by
  unfold contains
  induction text with
  | nil => simp [splitFirst?]
  | cons point rest ih =>
      rw [List.infix_cons_iff, ← ih]
      cases isStart : dropPrefix? needle (point :: rest) with
      | some behind =>
          have begins : needle <+: point :: rest :=
            ⟨behind, (dropPrefix?_eq_some.mp isStart).symm⟩
          simp [splitFirst?, isStart, begins]
      | none =>
          have notStart : ¬needle <+: point :: rest := by
            rintro ⟨behind, read⟩
            rw [dropPrefix?_eq_some.mpr read.symm] at isStart
            cases isStart
          simp [splitFirst?, isStart, notStart]

end Text

namespace StyleSheet

open Excision

theorem closesComment_iff {text : Text} : closesComment text ↔ Text.ofString "*/" <:+: text :=
  Text.contains_iff

/-- A text is a comment. -/
def IsClosedComment (text : Text) : Prop :=
  ∃ inside : Text, text = "/*" ++ inside ++ "*/"

/-- The text behind a comment at the beginning of a text. -/
def afterComment? (text : Text) : Option Text :=
  (Text.dropPrefix? "/*" text).bind fun inside => (Text.splitFirst? "*/" inside).map Prod.snd

theorem isSome_afterComment?_iff {text : Text} :
    (afterComment? text).isSome ↔
      ∃ comment following, IsClosedComment comment ∧ text = comment ++ following := by
  rw [afterComment?, Option.isSome_bind]
  constructor
  · intro found
    obtain ⟨inside, isOpen, closes⟩ := (Option.any_eq_true _ _).mp found
    rw [Option.isSome_map] at closes
    obtain ⟨before, after, read⟩ := closesComment_iff.mp closes
    refine ⟨_, after, ⟨before, rfl⟩, ?_⟩
    rw [Text.dropPrefix?_eq_some.mp isOpen, ← read]
    simp only [List.append_assoc]
  · rintro ⟨_, following, ⟨inside, rfl⟩, rfl⟩
    have isOpen : Text.dropPrefix? "/*" ("/*" ++ inside ++ "*/" ++ following) =
        some (inside ++ "*/" ++ following) :=
      Text.dropPrefix?_eq_some.mpr (by simp only [List.append_assoc])
    have closes : closesComment (inside ++ "*/" ++ following) :=
      closesComment_iff.mpr ⟨inside, following, rfl⟩
    rw [isOpen, Option.any_some, Option.isSome_map]
    exact closes

theorem afterComment?_shortens {text after : Text} (found : afterComment? text = some after) :
    after.length < text.length := by
  obtain ⟨inside, isOpen, found⟩ := Option.bind_eq_some_iff.mp found
  obtain ⟨⟨before, behind⟩, closes, rfl⟩ := Option.map_eq_some_iff.mp found
  rw [Text.dropPrefix?_eq_some.mp isOpen, Text.splitFirst?_sound closes]
  have opening : 0 < (Text.ofString "/*").length := by decide
  simp only [List.length_append]
  omega

/-- The comments of style sheets. -/
def comments : Excision where
  IsPart := IsClosedComment
  behind? := afterComment?
  finds _ := isSome_afterComment?_iff
  shortens _ _ := afterComment?_shortens

section Dropping

variable {text rest after : Text} {stretches : List Text}

theorem afterComment?_open : afterComment? ("/*" ++ rest) =
    (Text.splitFirst? "*/" rest).map Prod.snd := by
  simp [afterComment?, Text.dropPrefix?_eq_some.mpr (show "/*" ++ rest = "/*" ++ rest from rfl)]

theorem dropComments_inside {before : Text}
    (closes : Text.splitFirst? "*/" text = some (before, after)) :
    dropComments true text = dropComments false after := by
  induction text generalizing before with
  | nil => cases closes
  | cons first rest ih =>
      cases rest with
      | nil =>
          have single := congrArg List.length (Text.splitFirst?_sound closes)
          simp [Text.ofString] at single
          omega
      | cons second rest =>
          rw [Text.splitFirst?] at closes
          cases isEnd : Text.dropPrefix? "*/" (first :: second :: rest) with
          | some behind =>
              rw [isEnd] at closes
              cases closes
              have read := Text.dropPrefix?_eq_some.mp isEnd
              have isFirst : first = '*' := (List.cons.inj read).1
              have isSecond : second = '/' := (List.cons.inj (List.cons.inj read).2).1
              have isRest : rest = after := (List.cons.inj (List.cons.inj read).2).2
              simp [dropComments, isFirst, isSecond, isRest]
          | none =>
              rw [isEnd] at closes
              obtain ⟨⟨within, behind⟩, onRest, same⟩ := Option.map_eq_some_iff.mp closes
              cases same
              have notEnd : ¬(first = '*' ∧ second = '/') := by
                rintro ⟨rfl, rfl⟩
                have found : Text.dropPrefix? "*/" (Text.ofString "*/" ++ rest) = some rest :=
                  Text.dropPrefix?_eq_some.mpr rfl
                cases found.symm.trans isEnd
              rw [dropComments]
              simp only [if_true, if_neg notEnd]
              exact ih onRest

theorem dropComments_of_cut (isCut : afterComment? text = some after) :
    dropComments false text = dropComments false after := by
  obtain ⟨inside, isOpen, found⟩ := Option.bind_eq_some_iff.mp isCut
  obtain ⟨⟨before, behind⟩, closes, rfl⟩ := Option.map_eq_some_iff.mp found
  have isClosed : closesComment inside := by simp [closesComment, Text.contains, closes]
  rw [Text.dropPrefix?_eq_some.mp isOpen, ← dropComments_inside closes]
  cases inside with
  | nil => cases closes
  | cons point inside => simp [Text.ofString, dropComments, isClosed]

theorem dropComments_of_uncut {point : CodePoint}
    (uncut : afterComment? (point :: rest) = none) :
    dropComments false (point :: rest) = point :: dropComments false rest := by
  cases rest with
  | nil => rfl
  | cons second rest =>
      have noComment : ¬(point = '/' ∧ second = '*' ∧ closesComment rest) := by
        rintro ⟨rfl, rfl, closes⟩
        have found : afterComment? ("/*" ++ rest) = none := uncut
        rw [afterComment?_open, Option.map_eq_none_iff] at found
        simp [closesComment, Text.contains, found] at closes
      simp [dropComments, noComment]

/-- The stretches that one pass leaves make up the style sheet without its comments. -/
theorem dropComments_eq_flatten (leaves : comments.Leaves text stretches) :
    dropComments false text = stretches.flatten := by
  induction leaves with
  | done => rfl
  | kept uncut onRest ih => rw [dropComments_of_uncut uncut, ih]; rfl
  | cut isCut onRest ih => exact (dropComments_of_cut isCut).trans ih

/-- Without a comment end there is no comment. -/
theorem not_occurs_of_not_closes (unclosed : ¬closesComment text) : ¬comments.Occurs text := by
  rintro ⟨_, ⟨inside, rfl⟩, occurs⟩
  have isEnd : Text.ofString "*/" <:+ Text.ofString "/*" ++ inside ++ "*/" :=
    List.suffix_append _ _
  exact unclosed (closesComment_iff.mpr (isEnd.isInfix.trans occurs))

/-- A comment in what is left is opened by a slash in front of a cut and an asterisk behind it. -/
theorem occurs_iff_meet (leaves : comments.Leaves text stretches) :
    comments.Occurs stretches.flatten ↔
      ∃ inside : Text, Meet stretches "/" ("*" ++ inside ++ "*/") := by
  constructor
  · rintro ⟨_, ⟨inside, rfl⟩, occurs⟩
    refine ⟨inside, ?_⟩
    induction leaves with
    | done => exact absurd (List.infix_nil.mp occurs) (by simp [Text.ofString])
    | cut _ _ ih => exact (ih occurs).cons []
    | @kept point rest stretch stretches uncut onRest ih =>
        rcases List.infix_cons_iff.mp occurs with ⟨following, atStart⟩ | later
        · have read : CodePoint.ofChar '/' :: CodePoint.ofChar '*' ::
              (inside ++ "*/" ++ following) = point :: (stretch ++ stretches.flatten) := by
            simpa [Text.ofString] using atStart
          obtain ⟨isSlash, behindSlash⟩ := List.cons.inj read
          cases stretch with
          | nil => exact ⟨[[point]], stretches, rfl, ⟨[], by simp [← isSlash, Text.ofString]⟩,
              following, by simpa [Text.ofString] using behindSlash⟩
          | cons second stretch =>
              -- The comment was not closed in the style sheet, so nothing was cut out behind it.
              obtain ⟨isAsterisk, behindAsterisk⟩ := List.cons.inj behindSlash
              cases onRest with
              | @kept second rest stretch stretches secondUncut onRest =>
                  have unclosed : ¬closesComment rest := by
                    rw [← isSlash, ← isAsterisk] at uncut
                    have found : afterComment? ("/*" ++ rest) = none := uncut
                    rw [afterComment?_open, Option.map_eq_none_iff] at found
                    simp [closesComment, Text.contains, found]
                  have isRest := onRest.eq_of_not_occurs (not_occurs_of_not_closes unclosed)
                  have whole : inside ++ "*/" ++ following = rest := by
                    simpa [(List.cons.inj isRest).1, (List.cons.inj isRest).2] using behindAsterisk
                  exact absurd (closesComment_iff.mpr ⟨inside, following, whole⟩) unclosed
        · exact (ih later).lengthen (by simp [Text.ofString])
  · rintro ⟨inside, meet⟩
    exact ⟨_, ⟨inside, rfl⟩, meet.together⟩

end Dropping

/-- Collapsing white space neither makes nor ends a comment. -/
theorem occurs_collapseBlanks_iff {text : Text} :
    comments.Occurs (collapseBlanks false text) ↔ comments.Occurs text := by
  constructor
  · rintro ⟨_, ⟨inside, rfl⟩, before, after, whole⟩
    have read : collapseBlanks false text = before ++ CodePoint.ofChar '/' ::
        (CodePoint.ofChar '*' :: (inside ++ CodePoint.ofChar '*' ::
          (CodePoint.ofChar '/' :: after))) := by
      simpa [Text.ofString] using whole.symm
    obtain ⟨front, fromSlash, rfl, -, atAsterisk⟩ := exists_of_collapseBlanks (by decide) read
    obtain ⟨none, fromAsterisk, rfl, isNone, atInside⟩ :=
      exists_of_collapseBlanks (by decide) (atAsterisk.trans (List.nil_append _).symm)
    obtain ⟨within, fromEnd, rfl, -, atEnd⟩ := exists_of_collapseBlanks (by decide) atInside
    obtain ⟨nothing, rest, rfl, isNothing, -⟩ :=
      exists_of_collapseBlanks (by decide) (atEnd.trans (List.nil_append _).symm)
    rw [collapseBlanks_eq_nil_iff.mp isNone, collapseBlanks_eq_nil_iff.mp isNothing]
    exact ⟨_, ⟨within, rfl⟩, front, rest, by simp [Text.ofString]⟩
  · rintro ⟨_, ⟨inside, rfl⟩, before, after, rfl⟩
    refine ⟨_, ⟨collapseBlanks false inside, rfl⟩, collapseBlanks false before,
      collapseBlanks false after, ?_⟩
    have opening (afterBlank : Bool) (rest : Text) :
        collapseBlanks afterBlank ("/*" ++ rest) = "/*" ++ collapseBlanks false rest := by
      rfl
    have closing (afterBlank : Bool) (rest : Text) :
        collapseBlanks afterBlank ("*/" ++ rest) = "*/" ++ collapseBlanks false rest := by
      rfl
    simp only [List.append_assoc, collapseBlanks_append, opening, closing]

theorem occurs_tidied_iff {text : Text} : comments.Occurs (tidied text) ↔ comments.Occurs text := by
  refine Iff.trans ?_ occurs_collapseBlanks_iff
  obtain ⟨before, after, isWhole, -, -⟩ :=
    Text.exists_trimBoth CodePoint.isBlank (collapseBlanks false text)
  constructor
  · rintro ⟨part, isPart, occurs⟩
    exact ⟨part, isPart, occurs.trans ⟨before, after, isWhole.symm⟩⟩
  · rintro ⟨_, ⟨inside, rfl⟩, left, right, read⟩
    refine ⟨_, ⟨inside, rfl⟩, left.dropWhile CodePoint.isBlank,
      right.rdropWhile CodePoint.isBlank, ?_⟩
    rw [tidied, ← read]
    refine (Text.trimBoth_around (by simp [Text.ofString]) ?_ ?_).symm
    · rintro point isHead
      cases isHead
      decide
    · rintro point isLast
      rw [List.getLast?_append] at isLast
      cases isLast
      decide

/-- The white space of a compact style sheet is single spaces between other code points. It is made
up of the stretches that the style sheet leaves without its comments, and holds a comment exactly if
at a cut a slash meets an asterisk with a comment end behind it. Writing it compactly again changes
nothing exactly if it holds no comment. -/
theorem compact_settles (style : Text) :
    IsTidy (compact style) ∧
    ∃ stretches, comments.Leaves style stretches ∧ compact style = tidied stretches.flatten ∧
      (comments.Occurs (compact style) ↔
        ∃ inside : Text, Meet stretches "/" ("*" ++ inside ++ "*/")) ∧
      (compact (compact style) = compact style ↔ ¬comments.Occurs (compact style)) := by
  have tidy : IsTidy (compact style) := isTidy_tidied _
  obtain ⟨first, more, leaves⟩ := comments.exists_leaves style
  have isCompact : compact style = tidied (first :: more).flatten := by
    rw [compact_eq, dropComments_eq_flatten leaves]
  refine ⟨tidy, first :: more, leaves, isCompact, ?_, ?_⟩
  · rw [isCompact, occurs_tidied_iff, occurs_iff_meet leaves]
  · obtain ⟨second, others, again⟩ := comments.exists_leaves (compact style)
    rw [compact_eq (compact style), dropComments_eq_flatten again, ← again.flatten_eq_iff]
    constructor
    · intro same
      rcases again.eq_or_shorter with isAll | shorter
      · rw [isAll, List.flatten_singleton]
      · have leftLength := length_tidied_le (second :: others).flatten
        rw [same] at leftLength
        exact absurd shorter (Nat.not_lt.mpr leftLength)
    · intro same
      rw [same]
      exact tidied_eq_self_iff.mpr tidy

/-- The slash in front of a comment and the asterisk behind it open another one. -/
theorem compact_reopens :
    comments.Occurs (compact "//* */* x */") ∧
      compact (compact "//* */* x */") ≠ compact "//* */* x */" := by
  have isCompact : compact "//* */* x */" = Text.ofString "/* x */" := by decide
  rw [isCompact]
  exact ⟨⟨_, ⟨" x ", rfl⟩, List.infix_rfl⟩, by decide⟩

end StyleSheet

end ComponentInliner
