import ComponentInliner.Proofs.StyleSheet.Comments
import ComponentInliner.Proofs.StyleSheet.Tokens

/-!
# What compact style sheets are written as

Writing a style sheet compactly goes by code points, not by lexemes. As long as no comment begins
within another lexeme, the comments that are dropped are the lexemes that are closed comments
(`dropComments_eq_of_lexed`); a comment that is not closed ends the style sheet and is left, since
it is no comment to the one that drops them. White space is collapsed to the same as if the tokens
were written one after the other, with that comment behind them (`compact_eq_written`).
-/

namespace ComponentInliner.StyleSheet

section Comments

variable {lexeme rest text : Text} {parts : List Text}

theorem isComment_iff : isComment lexeme ↔ Text.ofString "/*" <+: lexeme := by
  rw [isComment, Text.startsWith, Option.isSome_iff_exists]
  constructor
  · rintro ⟨inside, opened⟩
    exact ⟨inside, (Text.dropPrefix?_eq_some.mp opened).symm⟩
  · rintro ⟨inside, rfl⟩
    exact ⟨inside, Text.dropPrefix?_eq_some.mpr rfl⟩

theorem scan_opened (inside : Text) :
    scan .start ("/*" ++ inside) = "/*" ++ scan .comment inside := by
  rfl

theorem scan_asterisk (text : Text) : scan .asterisk text =
    if text.head? = some (CodePoint.ofChar '/') then Text.ofString "/" else scan .comment text := by
  cases text with
  | nil => rfl
  | cons point rest =>
      by_cases isSlash : point = '/'
      · cases rest <;> simp [scan, Reading.next?, isSlash, Text.ofString]
      · simp [scan, Reading.next?, isSlash]

/-- A comment is read up to the first end of a comment, or to the end of the text. -/
theorem scan_comment (text : Text) : scan .comment text =
    ((Text.splitFirst? "*/" text).map fun (before, _) => before ++ "*/").getD text := by
  induction text with
  | nil => rfl
  | cons point rest ih =>
      cases isEnd : Text.dropPrefix? "*/" (point :: rest) with
      | some after =>
          have read : point :: rest = "*/" ++ after := Text.dropPrefix?_eq_some.mp isEnd
          have splits : Text.splitFirst? "*/" (point :: rest) = some ([], after) := by
            rw [Text.splitFirst?, isEnd]
          rw [splits, read]
          cases after <;> rfl
      | none =>
          have splits : Text.splitFirst? "*/" (point :: rest) =
              (Text.splitFirst? "*/" rest).map fun (before, after) => (point :: before, after) := by
            rw [Text.splitFirst?, isEnd]
          have step : scan .comment (point :: rest) = point :: scan .comment rest := by
            by_cases isAsterisk : point = '*'
            · have noSlash : rest.head? ≠ some (CodePoint.ofChar '/') := by
                intro isHead
                obtain ⟨after, rfl⟩ := List.head?_eq_some_iff.mp isHead
                rw [isAsterisk] at isEnd
                cases isEnd.symm.trans (Text.dropPrefix?_eq_some.mpr rfl)
              rw [scan, Reading.next?, if_pos isAsterisk]
              simp only [scan_asterisk, if_neg noSlash]
            · rw [scan, Reading.next?, if_neg isAsterisk]
          rw [step, splits, ih]
          cases Text.splitFirst? "*/" rest <;> rfl

/-- A comment that is dropped. -/
def isClosed (lexeme : Text) : Bool :=
  isComment lexeme && closesComment (lexeme.drop 2)

/-- No comment begins within a lexeme that is none. -/
def CommentsApart : List Text → Prop
  | [] => True
  | lexeme :: rest =>
      (¬isComment lexeme →
        ¬Html.BeginsIn (fun text => (afterComment? text).isSome) lexeme rest.flatten) ∧
      CommentsApart rest

instance CommentsApart.decidable : (lexemes : List Text) → Decidable (CommentsApart lexemes)
  | [] => inferInstanceAs (Decidable True)
  | _ :: rest =>
      have := CommentsApart.decidable rest
      inferInstanceAs (Decidable (_ ∧ _))

/-- The comment at the end of some lexemes that is not closed, as it is tidied, behind a space if
white space stands in front of it; `spaced` tells whether white space stands in front of them. -/
def endingFrom (spaced : Bool) : List Text → Text
  | [] => []
  | lexeme :: rest =>
      if isClosed lexeme then endingFrom spaced rest
      else if isComment lexeme then gap spaced ++ tidied lexeme
      else endingFrom (isSpacing lexeme) rest

/-- What stands behind the tokens of a style sheet, if its last comment is not closed. -/
def ending (text : Text) : Text :=
  endingFrom false (lexemes text)

theorem not_closes_of_open (opened : isComment lexeme) (open' : ¬isClosed lexeme) :
    ¬closesComment (lexeme.drop 2) := by
  simpa [isClosed, opened] using open'

theorem noSpace_of_isComment (opened : isComment lexeme) : ¬isSpacing lexeme := by
  obtain ⟨inside, rfl⟩ := isComment_iff.mp opened
  have noBlank : ¬Html.isMarkupBlank (CodePoint.ofChar '/') := by decide
  exact noBlank

/-- A comment that is not closed goes on to the end of the text. -/
theorem eq_nil_of_unclosed (read : scan .start (lexeme ++ rest) = lexeme)
    (opened : isComment lexeme) (open' : ¬isClosed lexeme) : rest = [] := by
  have unclosed := not_closes_of_open opened open'
  obtain ⟨inside, rfl⟩ := isComment_iff.mp opened
  rw [List.append_assoc, scan_opened, scan_comment] at read
  have isInside := List.append_cancel_left read
  cases splits : Text.splitFirst? "*/" (inside ++ rest) with
  | none =>
      rw [splits, Option.map_none, Option.getD_none] at isInside
      exact List.append_right_eq_self.mp isInside
  | some halves =>
      rw [splits, Option.map_some, Option.getD_some] at isInside
      have isEnd : Text.ofString "*/" <:+: inside := ⟨halves.1, [], by simp [← isInside]⟩
      exact absurd (closesComment_iff.mpr isEnd) unclosed

theorem Lexed.eq_nil (lexed : Lexed text parts) (nothing : text = []) : parts = [] := by
  cases lexed with
  | done => rfl
  | next several => exact absurd (List.append_eq_nil_iff.mp nothing).1 several

/-- In a comment that is not closed there are no others. -/
theorem not_occurs_of_unclosed (unclosed : ¬closesComment (lexeme.drop 2)) :
    ¬comments.Occurs lexeme := by
  rintro ⟨_, ⟨inside, rfl⟩, before, after, rfl⟩
  refine unclosed (closesComment_iff.mpr ⟨(before ++ "/*" ++ inside).drop 2, after, ?_⟩)
  have long : 2 ≤ (before ++ "/*" ++ inside).length := by
    simp [Text.ofString]
    omega
  rw [List.append_assoc _ _ after, ← List.drop_append_of_le_length long]
  simp only [List.append_assoc]

theorem dropComments_of_not_occurs (nothing : ¬comments.Occurs text) :
    dropComments false text = text := by
  obtain ⟨stretch, stretches, leaves⟩ := comments.exists_leaves text
  rw [dropComments_eq_flatten leaves, leaves.eq_of_not_occurs nothing, List.flatten_singleton]

theorem dropComments_of_comment (read : scan .start (lexeme ++ rest) = lexeme)
    (opened : isComment lexeme) (closed : closesComment (lexeme.drop 2)) :
    dropComments false (lexeme ++ rest) = dropComments false rest := by
  obtain ⟨inside, rfl⟩ := isComment_iff.mp opened
  rw [List.append_assoc, scan_opened, scan_comment] at read
  have isInside := List.append_cancel_left read
  cases splits : Text.splitFirst? "*/" (inside ++ rest) with
  | none =>
      -- The comment would go on to the end of the text, and it is closed before.
      have isClosed : Text.ofString "*/" <:+: inside ++ rest :=
        List.infix_append_of_infix_left (closesComment_iff.mp closed)
      have found := Text.contains_iff.mpr isClosed
      rw [Text.contains, splits] at found
      cases found
  | some halves =>
      obtain ⟨before, after⟩ := halves
      rw [splits, Option.map_some, Option.getD_some] at isInside
      have sameRest : rest = after := by
        have isWhole := Text.splitFirst?_sound splits
        rw [← isInside] at isWhole
        exact List.append_cancel_left isWhole
      apply dropComments_of_cut
      rw [List.append_assoc, afterComment?_open, splits, sameRest]
      rfl

theorem dropComments_of_apart
    (apart : ¬Html.BeginsIn (fun text => (afterComment? text).isSome) lexeme rest) :
    dropComments false (lexeme ++ rest) = lexeme ++ dropComments false rest := by
  induction lexeme with
  | nil => rfl
  | cons point lexeme ih =>
      rw [Html.BeginsIn.cons_iff, not_or, Option.not_isSome_iff_eq_none] at apart
      have uncut : afterComment? (point :: (lexeme ++ rest)) = none := apart.1
      rw [List.cons_append, dropComments_of_uncut uncut, ih apart.2, List.cons_append]

/-- If no comment begins within another lexeme, all lexemes but the closed comments are left. -/
theorem dropComments_eq_of_lexed (lexed : Lexed text parts) (apart : CommentsApart parts) :
    dropComments false text = (parts.filter fun lexeme => !isClosed lexeme).flatten := by
  induction lexed with
  | done => rfl
  | @next lexeme rest parts several read onRest ih =>
      obtain ⟨noComment, restApart⟩ := apart
      rw [onRest.flatten_eq] at noComment
      by_cases opened : isComment lexeme
      · by_cases closed : isClosed lexeme
        · have closes := (Bool.and_eq_true_iff.mp closed).2
          rw [dropComments_of_comment read opened closes, ih restApart,
            List.filter_cons_of_neg (by simp [closed])]
        · have unclosed := not_closes_of_open opened closed
          have nothing := eq_nil_of_unclosed read opened closed
          rw [onRest.eq_nil nothing, nothing, List.append_nil,
            dropComments_of_not_occurs (not_occurs_of_unclosed unclosed)]
          simp [closed]
      · rw [dropComments_of_apart (noComment opened), ih restApart,
          List.filter_cons_of_pos (by simp [isClosed, opened]), List.flatten_cons]

end Comments

section Spacing

variable {lexeme rest text : Text} {parts : List Text}

theorem isBlank_of_isMarkupBlank {point : CodePoint} (isSpace : Html.isMarkupBlank point) :
    point.isBlank := by
  simp only [Html.isMarkupBlank, Bool.or_eq_true, decide_eq_true_eq] at isSpace
  rcases isSpace with (((rfl | rfl) | isFeed) | rfl) | rfl
  · decide
  · decide
  · simp [CodePoint.isBlank, isFeed]
  · decide
  · decide

theorem gap_blank (spaced : Bool) : ∀ point ∈ gap spaced, CodePoint.isBlank point := by
  cases spaced with
  | false => exact nofun
  | true => exact List.forall_mem_singleton.mpr (by decide)

/-- A comment is only trimmed at its end. -/
theorem tidied_opened (inside : Text) : tidied ("/*" ++ inside) =
    "/*" ++ (collapseBlanks false inside).rdropWhile CodePoint.isBlank := by
  have around : Text.trimBoth CodePoint.isBlank
      (([] : Text) ++ "/*" ++ collapseBlanks false inside) =
        ([] : Text) ++ "/*" ++ (collapseBlanks false inside).rdropWhile CodePoint.isBlank := by
    refine Text.trimBoth_around (List.cons_ne_nil _ _) ?_ ?_
    all_goals
      rintro point ⟨⟩
      decide
  exact around

theorem exists_collapseBlanks_comment (opened : isComment lexeme) (afterBlank : Bool) :
    ∃ after, (∀ point ∈ after, CodePoint.isBlank point) ∧
      collapseBlanks afterBlank lexeme = tidied lexeme ++ after := by
  obtain ⟨inside, rfl⟩ := isComment_iff.mp opened
  refine ⟨(collapseBlanks false inside).rtakeWhile CodePoint.isBlank,
    fun point mem => List.mem_rtakeWhile_imp mem, ?_⟩
  rw [tidied_opened, List.append_assoc, List.rdropWhile_append_rtakeWhile]
  rfl

theorem isComment_tidied (opened : isComment lexeme) : isComment (tidied lexeme) := by
  obtain ⟨inside, rfl⟩ := isComment_iff.mp opened
  rw [tidied_opened]
  exact isComment_iff.mpr (List.prefix_append _ _)

theorem collapseBlanks_tidied (afterBlank : Bool) (text : Text) :
    collapseBlanks afterBlank (tidied text) = tidied text := by
  have tidy := isTidy_tidied text
  exact collapseBlanks_eq_self tidy.spaces tidy.single fun _ => tidy.start

/-- What is left of some lexemes is collapsed to the same as their tokens and what stands behind
them. -/
theorem exists_collapseBlanks_written (lexed : Lexed text parts) (afterBlank spaced : Bool) :
    ∃ after, (∀ point ∈ after, CodePoint.isBlank point) ∧
      collapseBlanks afterBlank
          (gap spaced ++ (parts.filter fun lexeme => !isClosed lexeme).flatten) =
        collapseBlanks afterBlank (written (tokensFrom spaced parts) ++ endingFrom spaced parts) ++
          after := by
  induction lexed generalizing afterBlank spaced with
  | done =>
      refine ⟨gap (spaced && !afterBlank), gap_blank _, ?_⟩
      cases afterBlank <;> cases spaced <;> rfl
  | @next lexeme rest parts several read onRest ih =>
      by_cases opened : isComment lexeme
      · rw [tokensFrom, if_pos opened, endingFrom]
        by_cases closed : isClosed lexeme
        · rw [List.filter_cons_of_neg (by simp [closed]), if_pos closed]
          exact ih afterBlank spaced
        · obtain rfl := onRest.eq_nil (eq_nil_of_unclosed read opened closed)
          obtain ⟨after, areBlank, same⟩ :=
            exists_collapseBlanks_comment opened (endsBlank afterBlank (gap spaced))
          refine ⟨after, areBlank, ?_⟩
          rw [if_neg closed, if_pos opened, List.filter_cons_of_pos (by simp [closed])]
          simp only [tokensFrom, written, List.flatMap_nil, List.nil_append, List.filter_nil,
            List.flatten_singleton, collapseBlanks_append, same,
            collapseBlanks_tidied, List.append_assoc]
      · have kept : ¬isClosed lexeme := by simp [isClosed, opened]
        rw [List.filter_cons_of_pos (by simp [kept]), List.flatten_cons, tokensFrom,
          if_neg opened, endingFrom, if_neg kept, if_neg opened]
        by_cases spacing : isSpacing lexeme
        · rw [if_pos spacing]
          obtain ⟨after, areBlank, same⟩ := ih afterBlank true
          refine ⟨after, areBlank, ?_⟩
          have lexemeBlank : ∀ point ∈ gap spaced ++ lexeme, CodePoint.isBlank point := by
            rw [List.forall_mem_append]
            exact ⟨gap_blank spaced, fun point mem =>
              isBlank_of_isMarkupBlank (isMarkupBlank_of_isSpacing read spacing point mem)⟩
          have several : gap true ≠ [] := List.cons_ne_nil _ _
          rw [spacing, ← same, ← List.append_assoc, collapseBlanks_run (by simp [*]) lexemeBlank,
            collapseBlanks_run several (gap_blank true)]
        · rw [if_neg spacing, Bool.eq_false_iff.mpr spacing]
          obtain ⟨after, areBlank, same⟩ := ih (endsBlank afterBlank (gap spaced ++ lexeme)) false
          refine ⟨after, areBlank, ?_⟩
          rw [gap_false, List.nil_append] at same
          rw [written_cons, Token.written, ← List.append_assoc, collapseBlanks_append, same,
            List.append_assoc (gap spaced ++ lexeme),
            collapseBlanks_append _ (gap spaced ++ lexeme), List.append_assoc]

/-- White space in front of a text makes no difference. -/
theorem tidied_append {run : Text} (areBlank : ∀ point ∈ run, CodePoint.isBlank point)
    (text : Text) : tidied (run ++ text) = tidied text := by
  have oneSpace (following : Text) :
      Text.trimBoth CodePoint.isBlank (CodePoint.ofChar ' ' :: following) =
        Text.trimBoth CodePoint.isBlank following :=
    Text.trimBoth_append_left (gap_blank true)
  by_cases several : run = []
  · rw [several, List.nil_append]
  · rw [tidied, collapseBlanks_run several areBlank]
    refine (oneSpace _).trans ?_
    cases text with
    | nil => rfl
    | cons point rest =>
        by_cases isBlank : point.isBlank
        · simp [tidied, collapseBlanks, isBlank, oneSpace]
        · simp [tidied, collapseBlanks, isBlank]

theorem tidied_eq_of_lexed (lexed : Lexed text parts) (spaced : Bool) :
    tidied (parts.filter fun lexeme => !isClosed lexeme).flatten =
      tidied (written (tokensFrom false (parts.dropWhile isSkipped)) ++
        endingFrom spaced parts) := by
  induction lexed generalizing spaced with
  | done => rfl
  | @next lexeme rest parts several read onRest ih =>
      by_cases opened : isComment lexeme
      · rw [List.dropWhile_cons_of_pos (by simp [isSkipped, opened]), endingFrom]
        by_cases closed : isClosed lexeme
        · rw [List.filter_cons_of_neg (by simp [closed]), if_pos closed]
          exact ih spaced
        · obtain rfl := onRest.eq_nil (eq_nil_of_unclosed read opened closed)
          rw [if_neg closed, if_pos opened, List.dropWhile_nil, tokensFrom, written,
            List.flatMap_nil, List.nil_append, tidied_append (gap_blank spaced),
            tidied_eq_self_iff.mpr (isTidy_tidied lexeme)]
          simp [closed]
      · have kept : ¬isClosed lexeme := by simp [isClosed, opened]
        rw [List.filter_cons_of_pos (by simp [kept])]
        by_cases spacing : isSpacing lexeme
        · rw [List.dropWhile_cons_of_pos (by simp [isSkipped, spacing]), List.flatten_cons,
            tidied_append, ih true, endingFrom, if_neg kept, if_neg opened, spacing]
          exact fun point mem =>
            isBlank_of_isMarkupBlank (isMarkupBlank_of_isSpacing read spacing point mem)
        · rw [List.dropWhile_cons_of_neg (by simp [isSkipped, opened, spacing])]
          obtain ⟨after, areBlank, same⟩ :=
            exists_collapseBlanks_written (.next several read onRest) false false
          have sameEnding : endingFrom spaced (lexeme :: parts) =
              endingFrom false (lexeme :: parts) := by
            rw [endingFrom, endingFrom, if_neg kept, if_neg kept, if_neg opened, if_neg opened]
          rw [gap_false, List.nil_append, List.filter_cons_of_pos (by simp [kept])] at same
          rw [sameEnding, tidied, same, tidied]
          exact Text.trimBoth_append_right areBlank

/-- If no comment begins within another lexeme, a style sheet is compactly written as its tokens and
what stands behind them. White space within tokens is tidied no less than between them. -/
theorem compact_eq_written {style : Text} (apart : CommentsApart (lexemes style)) :
    compact style = tidied (written (tokens style) ++ ending style) := by
  have lexed := lexed_lexemes style
  rw [compact_eq, dropComments_eq_of_lexed lexed apart, tidied_eq_of_lexed lexed false]
  rfl

end Spacing

end ComponentInliner.StyleSheet
