import ComponentInliner.Proofs.StyleSheet.Endings

/-!
# Style sheets that end in a comment

A comment that is not closed is left at the end of a compact style sheet, where the tokens in front
of it are read back if they are apart from each other (`tokens_written_comment`). Each of them has
something behind it in the style sheet, so none is a string or an escape sequence that goes on to
the end, and the comment does not carry on the last one (`scan_stop`).

`InFront` says what else is known of such tokens: where a comment seems to begin in one of them, no
end of a comment follows, neither in the style sheet nor in what it is written as.
-/

namespace ComponentInliner.StyleSheet

section Endings

variable {text rest : Text} {parts : List Text} {spaced : Bool}

theorem closesComment_append_left (closes : closesComment text) (rest : Text) :
    closesComment (text ++ rest) :=
  closesComment_iff.mpr (List.infix_append_of_infix_left (closesComment_iff.mp closes))

theorem closesComment_append_right (before : Text) (closes : closesComment text) :
    closesComment (before ++ text) :=
  closesComment_iff.mpr (List.infix_append_of_infix_right (closesComment_iff.mp closes))

/-- Collapsing white space neither makes nor splits the end of a comment. -/
theorem closesComment_collapseBlanks (afterBlank : Bool) (text : Text) :
    closesComment (collapseBlanks afterBlank text) ↔ closesComment text := by
  rw [closesComment_iff, closesComment_iff]
  constructor
  · rintro ⟨before, after, whole⟩
    have read : collapseBlanks afterBlank text = before ++ CodePoint.ofChar '*' ::
        (CodePoint.ofChar '/' :: after) := by
      simpa [Text.ofString] using whole.symm
    obtain ⟨front, fromSlash, rfl, -, atSlash⟩ := exists_of_collapseBlanks (by decide) read
    obtain ⟨nothing, rest, rfl, isNothing, -⟩ :=
      exists_of_collapseBlanks (by decide) (atSlash.trans (List.nil_append _).symm)
    rw [collapseBlanks_eq_nil_iff.mp isNothing]
    exact ⟨front, rest, by simp [Text.ofString]⟩
  · rintro ⟨before, after, rfl⟩
    rw [List.append_assoc, collapseBlanks_append]
    exact ⟨collapseBlanks afterBlank before, collapseBlanks false after, List.append_assoc _ _ _⟩

/-- What stands in a token is no comment that ends behind it. -/
def NoneInside (following : Text) : List Token → Prop
  | [] => True
  | token :: more =>
      (∀ before after, token.text = before ++ "/*" ++ after →
        ¬closesComment (after ++ (written more ++ following))) ∧
      NoneInside following more

/-- Tokens in front of a comment that is not closed, with or without white space between. -/
structure InFront (tokens : List Token) (spaced : Bool) (comment : Text) : Prop where
  areTokens : ∀ token ∈ tokens, IsToken token.text
  followed : ∀ token ∈ tokens, ∃ rest, rest ≠ [] ∧ scan .start (token.text ++ rest) = token.text
  noneInside : NoneInside (gap spaced ++ comment) tokens
  opened : isComment comment
  unclosed : ¬comments.Occurs comment
  tidy : IsTidy comment

theorem map_text_tokensFrom (spaced : Bool) (parts : List Text) :
    (tokensFrom spaced parts).map Token.text = parts.filter fun part => !isSkipped part := by
  induction parts generalizing spaced with
  | nil => rfl
  | cons part parts ih =>
      rw [tokensFrom]
      split
      · next opened => rw [ih, List.filter_cons_of_neg (by simp [isSkipped, opened])]
      · next noComment =>
          split
          · next spacing => rw [ih, List.filter_cons_of_neg (by simp [isSkipped, spacing])]
          · next noSpace =>
              rw [List.map_cons, ih,
                List.filter_cons_of_pos (by simp [isSkipped, noComment, noSpace])]

/-- What a token is written as is one of the lexemes. -/
theorem text_mem_lexemes {token : Token} (mem : token ∈ tokens text) :
    token.text ∈ lexemes text := by
  have inTexts := List.mem_map_of_mem mem (f := Token.text)
  rw [tokens, map_text_tokensFrom] at inTexts
  exact (List.dropWhile_sublist _).mem (List.mem_of_mem_filter inTexts)

/-- What a style sheet is written as ends no comment that the style sheet does not end. -/
theorem closesComment_of_written (lexed : Lexed rest parts) (apart : CommentsApart parts)
    (before : Text)
    (closes : closesComment
      (before ++ (written (tokensFrom false parts) ++ endingFrom false parts))) :
    closesComment (before ++ rest) := by
  by_contra unclosed
  have onRest : ¬closesComment rest := mt (closesComment_append_right before) unclosed
  have isRest : (parts.filter fun part => !isClosed part).flatten = rest := by
    rw [← dropComments_eq_of_lexed lexed apart,
      dropComments_of_not_occurs (not_occurs_of_not_closes onRest)]
  obtain ⟨blanks, -, same⟩ := exists_collapseBlanks_written lexed (endsBlank false before) false
  rw [gap_false, List.nil_append, isRest] at same
  refine unclosed ((closesComment_collapseBlanks false _).mp ?_)
  rw [collapseBlanks_append, same, ← List.append_assoc, ← collapseBlanks_append]
  exact closesComment_append_left ((closesComment_collapseBlanks false _).mpr closes) blanks

theorem noneInside_of_lexed (lexed : Lexed text parts) (apart : CommentsApart parts)
    (spaced : Bool) : NoneInside (endingFrom spaced parts) (tokensFrom spaced parts) := by
  induction lexed generalizing spaced with
  | done => trivial
  | @next lexeme rest parts several read onRest ih =>
      obtain ⟨noneBegins, restApart⟩ := apart
      by_cases opened : isComment lexeme
      · rw [tokensFrom, if_pos opened, endingFrom]
        by_cases closed : isClosed lexeme
        · rw [if_pos closed]
          exact ih restApart spaced
        · obtain rfl := onRest.eq_nil (eq_nil_of_unclosed read opened closed)
          trivial
      · have kept : ¬isClosed lexeme := by simp [isClosed, opened]
        rw [tokensFrom, if_neg opened, endingFrom, if_neg kept, if_neg opened]
        by_cases spacing : isSpacing lexeme
        · rw [if_pos spacing, spacing]
          exact ih restApart true
        · rw [if_neg spacing, Bool.eq_false_iff.mpr spacing]
          refine ⟨fun before after isLexeme closes => noneBegins opened ?_, ih restApart false⟩
          refine ⟨"/*" ++ after, ⟨before, by rw [← List.append_assoc, ← isLexeme]⟩,
            List.cons_ne_nil _ _, ?_⟩
          change (afterComment? ("/*" ++ after ++ parts.flatten)).isSome
          rw [onRest.flatten_eq, List.append_assoc, afterComment?_open, Option.isSome_map]
          exact closesComment_of_written onRest restApart after closes

/-- If a style sheet ends in a comment, something follows every token. -/
theorem followed_of_lexed (lexed : Lexed text parts) (ends : endingFrom spaced parts ≠ []) :
    ∀ lexeme ∈ parts, ¬isComment lexeme →
      ∃ rest, rest ≠ [] ∧ scan .start (lexeme ++ rest) = lexeme := by
  induction lexed generalizing spaced with
  | done => exact nofun
  | @next lexeme rest parts several read onRest ih =>
      rw [endingFrom] at ends
      rw [List.forall_mem_cons]
      by_cases opened : isComment lexeme
      · refine ⟨fun noComment => absurd opened noComment, ?_⟩
        by_cases closed : isClosed lexeme
        · rw [if_pos closed] at ends
          exact ih ends
        · rw [onRest.eq_nil (eq_nil_of_unclosed read opened closed)]
          exact nofun
      · have kept : ¬isClosed lexeme := by simp [isClosed, opened]
        rw [if_neg kept, if_neg opened] at ends
        refine ⟨fun _ => ⟨rest, ?_, read⟩, ih ends⟩
        rintro rfl
        rw [onRest.eq_nil rfl] at ends
        exact ends rfl

/-- White space and closed comments in front of the first token make no difference to what comes
behind the last one. -/
theorem noneInside_of_dropWhile (lexed : Lexed text parts) (apart : CommentsApart parts)
    (spaced : Bool) :
    NoneInside (endingFrom spaced parts) (tokensFrom false (parts.dropWhile isSkipped)) := by
  induction lexed generalizing spaced with
  | done => trivial
  | @next lexeme rest parts several read onRest ih =>
      by_cases opened : isComment lexeme
      · rw [List.dropWhile_cons_of_pos (by simp [isSkipped, opened]), endingFrom]
        by_cases closed : isClosed lexeme
        · rw [if_pos closed]
          exact ih apart.2 spaced
        · rw [onRest.eq_nil (eq_nil_of_unclosed read opened closed)]
          trivial
      · have kept : ¬isClosed lexeme := by simp [isClosed, opened]
        by_cases spacing : isSpacing lexeme
        · rw [List.dropWhile_cons_of_pos (by simp [isSkipped, spacing]), endingFrom, if_neg kept,
            if_neg opened, spacing]
          exact ih apart.2 true
        · have sameEnding : endingFrom spaced (lexeme :: parts) =
              endingFrom false (lexeme :: parts) := by
            rw [endingFrom, endingFrom, if_neg kept, if_neg kept, if_neg opened, if_neg opened]
          rw [List.dropWhile_cons_of_neg (by simp [isSkipped, opened, spacing]), sameEnding]
          exact noneInside_of_lexed (.next several read onRest) apart false

theorem endingFrom_cases (parts : List Text) (spaced : Bool) : endingFrom spaced parts = [] ∨
    ∃ gapped lexeme, endingFrom spaced parts = gap gapped ++ tidied lexeme ∧
      isComment lexeme ∧ ¬isClosed lexeme := by
  induction parts generalizing spaced with
  | nil => exact .inl rfl
  | cons lexeme parts ih =>
      rw [endingFrom]
      split
      · exact ih spaced
      · next open' =>
          split
          · next opened => exact .inr ⟨spaced, lexeme, rfl, opened, open'⟩
          · exact ih _

/-- Either the comments of a style sheet are closed, or its tokens are in front of one. -/
theorem ending_cases {style : Text} (apart : CommentsApart (lexemes style)) :
    ending style = [] ∨ ∃ spaced comment, ending style = gap spaced ++ comment ∧
      InFront (tokens style) spaced comment := by
  rcases endingFrom_cases (lexemes style) false with
    nothing | ⟨spaced, lexeme, isEnding, opened, open'⟩
  · exact .inl nothing
  · refine .inr ⟨spaced, tidied lexeme, isEnding, ?_⟩
    have lexed := lexed_lexemes style
    have several : endingFrom false (lexemes style) ≠ [] := by
      intro nothing
      obtain ⟨inside, isComment⟩ := isComment_iff.mp (isComment_tidied opened)
      rw [isEnding, ← isComment] at nothing
      exact absurd nothing (by simp [Text.ofString])
    have areTokens := isToken_of_mem_tokens style
    have noneInside := noneInside_of_dropWhile lexed apart false
    rw [isEnding] at noneInside
    exact {
      areTokens := areTokens
      followed := fun token mem => followed_of_lexed lexed several token.text
        (text_mem_lexemes mem) (areTokens token mem).noComment
      noneInside := noneInside
      opened := isComment_tidied opened
      unclosed := mt occurs_tidied_iff.mp (not_occurs_of_unclosed (not_closes_of_open opened open'))
      tidy := isTidy_tidied lexeme }

end Endings

section Writing

variable {text comment : Text} {ts : List Token} {spaced : Bool}

theorem exists_opened (opened : isComment comment) :
    ∃ inside, comment = CodePoint.ofChar '/' :: CodePoint.ofChar '*' :: inside := by
  obtain ⟨inside, rfl⟩ := isComment_iff.mp opened
  exact ⟨inside, rfl⟩

theorem collapseBlanks_of_tidy (tidy : IsTidy text) (afterBlank : Bool) :
    collapseBlanks afterBlank text = text :=
  collapseBlanks_eq_self tidy.spaces tidy.single fun _ => tidy.start

theorem InFront.isStop (inFront : InFront ts spaced comment) (gapped : Bool) :
    IsStop (gap gapped ++ comment) := by
  obtain ⟨inside, rfl⟩ := exists_opened inFront.opened
  cases gapped with
  | false => exact ⟨_, _, rfl, .inr rfl⟩
  | true => exact ⟨_, _, rfl, .inl rfl⟩

theorem dropWhile_collapseBlanks (text : Text) :
    (collapseBlanks false text).dropWhile CodePoint.isBlank = collapseBlanks true text := by
  have stays (text : Text) :
      (collapseBlanks true text).dropWhile CodePoint.isBlank = collapseBlanks true text := by
    have start := (collapseBlanks_single true text).2 rfl
    cases isText : collapseBlanks true text with
    | nil => rfl
    | cons point rest =>
        rw [isText] at start
        exact List.dropWhile_cons_of_neg (start point rfl)
  cases text with
  | nil => rfl
  | cons point rest =>
      by_cases isBlank : point.isBlank
      · have isSpace : (CodePoint.ofChar ' ').isBlank = true := by decide
        simp [collapseBlanks, isBlank, isSpace, stays]
      · simp [collapseBlanks, isBlank]

/-- The white space in front of a comment is tidied on its own, but for a space between. -/
theorem InFront.tidied_append (inFront : InFront ts spaced comment) (text : Text) :
    tidied (text ++ comment) = collapseBlanks true text ++ comment := by
  have several : comment ≠ [] := by
    obtain ⟨inside, rfl⟩ := exists_opened inFront.opened
    exact List.cons_ne_nil _ _
  have tidy := inFront.tidy
  have around : Text.trimBoth CodePoint.isBlank (collapseBlanks false text ++ comment ++ []) =
      (collapseBlanks false text).dropWhile CodePoint.isBlank ++ comment ++
        List.rdropWhile CodePoint.isBlank [] :=
    Text.trimBoth_around several (by simpa using tidy.start) (by simpa using tidy.stop)
  rw [List.append_nil] at around
  rw [tidied, collapseBlanks_append, collapseBlanks_of_tidy tidy, around, dropWhile_collapseBlanks]
  exact List.append_nil _

theorem collapseBlanks_of_tidy_append {text other : Text} (tidy : IsTidy (text ++ other)) :
    collapseBlanks true text = text := by
  refine collapseBlanks_eq_self (List.forall_mem_append.mp tidy.spaces).1
    tidy.single.left_of_append fun _ point isHead => tidy.start point ?_
  exact List.mem_head?_append_of_mem_head? isHead

/-- If there is nothing else to tidy, at most the space in front of the comment is left out. -/
theorem InFront.tidied_written (inFront : InFront ts spaced comment)
    (tidy : IsTidy (written ts ++ comment)) :
    ∃ other, tidied (written ts ++ (gap spaced ++ comment)) =
      written ts ++ (gap other ++ comment) := by
  refine ⟨spaced && !endsBlank true (written ts), ?_⟩
  rw [← List.append_assoc, inFront.tidied_append, collapseBlanks_append,
    collapseBlanks_of_tidy_append tidy, List.append_assoc]
  cases spaced <;> cases endsBlank true (written ts) <;> rfl

theorem InFront.isTidy_written {gapped : Bool} (inFront : InFront ts spaced comment)
    (tidy : IsTidy (written ts ++ (gap gapped ++ comment))) : IsTidy (written ts ++ comment) := by
  rw [← tidied_eq_self_iff, inFront.tidied_append, collapseBlanks_of_tidy_append tidy]

theorem scan_unclosed (opened : isComment comment) (unclosed : ¬comments.Occurs comment) :
    scan .start comment = comment := by
  obtain ⟨inside, rfl⟩ := isComment_iff.mp opened
  rw [scan_opened, scan_comment]
  cases splits : Text.splitFirst? "*/" inside with
  | none => rfl
  | some halves =>
      obtain ⟨before, after⟩ := halves
      refine absurd ⟨_, ⟨before, rfl⟩, [], after, ?_⟩ unclosed
      rw [Text.splitFirst?_sound splits]
      simp

/-- Tokens that are apart from each other are read back in front of the comment. -/
theorem tokens_written_comment {style : Text} (inFront : InFront (tokens style) spaced comment)
    (apart : (tokens style).IsChain Apart) (gapped : Bool) :
    tokens (written (tokens style) ++ (gap gapped ++ comment)) = tokens style := by
  have isPiece : IsPiece comment := by
    refine ⟨?_, noSpace_of_isComment inFront.opened, [], ?_⟩
    · obtain ⟨inside, rfl⟩ := exists_opened inFront.opened
      exact List.cons_ne_nil _ _
    · rw [List.append_nil]
      exact scan_unclosed inFront.opened inFront.unclosed
  have isWritten : written (tokens style ++ [⟨gapped, comment⟩]) =
      written (tokens style) ++ (gap gapped ++ comment) := by
    simp [written, Token.written]
  rw [← isWritten]
  refine tokens_written ?_ (List.forall_mem_singleton.mpr isPiece) ?_
  · refine List.isChain_append.mpr ⟨apart, List.isChain_singleton _, ?_⟩
    rintro token isLast _ ⟨⟩
    have mem := List.mem_of_getLast? isLast
    have isToken := inFront.areTokens token mem
    obtain ⟨rest, several, read⟩ := inFront.followed token mem
    exact scan_stop read several isToken.several isToken.noSpace isToken.noComment
      (inFront.isStop gapped)
  · have isSpace : isSkipped (gap true) := by decide
    have isSkippedComment : isSkipped comment := by simp [isSkipped, inFront.opened]
    have isRead := @lexemes_written ⟨gapped, comment⟩ [] isPiece (List.isChain_singleton _)
      (List.forall_mem_nil _)
    rw [isRead, List.forall_mem_append, List.forall_mem_cons]
    refine ⟨?_, isSkippedComment, List.forall_mem_nil _⟩
    cases gapped with
    | false => exact List.forall_mem_nil _
    | true => exact List.forall_mem_singleton.mpr isSpace

end Writing

end ComponentInliner.StyleSheet
