import ComponentInliner.Proofs.StyleSheet.Unclosed

/-!
# Slashes and asterisks in front of a comment

Where closed comments are dropped between a slash and an asterisk, these open a comment when they
are written one after the other. In front of a comment that is not closed, this could go unnoticed
by a count of code points: the tokens behind might be found again in the comment at the end. They
are not. If the tokens are read back in the compact style sheet, a comment stands between each slash
and asterisk there, too, directly behind the slash, so it begins at a later slash and asterisk of
those that are written; for the last ones there is none (`InFront.not_isPair`). Without such a pair,
the reader is never ahead of what is written, and finds it as it is
(`InFront.written_of_collapsed`).
-/

namespace ComponentInliner.StyleSheet

section Slashes

variable {reading goal : Reading} {point : CodePoint} {text rest following before : Text}

theorem WordPart.after_ne_escape (part : WordPart) (point : CodePoint) :
    part.after point ≠ .escape := by
  cases part <;> rw [after]
  all_goals repeat' split
  all_goals exact nofun

theorem WordPart.eq_backslash_of_next {part : WordPart}
    (goesOn : part.next? point rest = some .escape) : point = '\\' := by
  by_contra noBackslash
  rw [next?] at goesOn
  split at goesOn
  · cases goesOn
  · split at goesOn
    · exact after_ne_escape part point (Option.some_inj.mp goesOn)
    · repeat' split at goesOn
      all_goals cases goesOn

theorem WordPart.eq_backslash_of_first (begins : first? point rest = some .escape) :
    point = '\\' := by
  by_contra noBackslash
  rw [first?, if_neg noBackslash] at begins
  repeat' split at begins
  all_goals cases begins

/-- Only a backslash begins an escape sequence. -/
theorem Reading.eq_backslash_of_next (goesOn : reading.next? point rest = some (.word .escape)) :
    point = '\\' := by
  cases reading with
  | slash | stringEscape | closed => cases goesOn
  | space | string | comment | asterisk =>
      simp only [Reading.next?] at goesOn
      repeat' split at goesOn
      all_goals cases goesOn
  | word part =>
      obtain ⟨next, partNext, isEscape⟩ := Option.map_eq_some_iff.mp goesOn
      cases isEscape
      exact WordPart.eq_backslash_of_next partNext
  | start =>
      simp only [Reading.next?] at goesOn
      repeat' split at goesOn
      · cases goesOn
      · cases goesOn
      · cases goesOn
      · cases begins : WordPart.first? point rest with
        | none =>
            rw [begins] at goesOn
            cases goesOn
        | some part =>
            rw [begins] at goesOn
            cases goesOn
            exact WordPart.eq_backslash_of_first begins

/-- In front of something, the last slash of a token stands behind a backslash. -/
theorem Reading.InToken.last_slash (inToken : reading.InToken) (several : following ≠ [])
    (read : scan reading (text ++ CodePoint.ofChar '/' :: following) =
      text ++ [CodePoint.ofChar '/']) :
    (text = [] ∧ reading = .word .escape) ∨ text.getLast? = some (CodePoint.ofChar '\\') := by
  induction text generalizing reading with
  | nil =>
      obtain ⟨goal, goesOn, onRest⟩ := scan_cons_eq_cons.mp read
      obtain ⟨first, more, rfl⟩ := List.exists_cons_of_ne_nil several
      cases reading with
      | start | space | slash | comment | asterisk => exact inToken.elim
      | closed => cases goesOn
      | stringEscape quote =>
          cases goesOn
          rw [scan_cons_eq_nil, Reading.next?] at onRest
          repeat' split at onRest
          all_goals cases onRest
      | string quote =>
          have noQuote : CodePoint.ofChar '/' ≠ quote := by
            rintro rfl
            exact absurd (show isQuote (CodePoint.ofChar '/') from inToken) (by decide)
          rw [Reading.next?, if_neg noQuote] at goesOn
          cases goesOn
          rw [scan_cons_eq_nil, Reading.next?] at onRest
          repeat' split at onRest
          all_goals cases onRest
      | word part =>
          by_cases isEscape : part = .escape
          · exact .inl ⟨rfl, congrArg _ isEscape⟩
          · have stops : part.next? (CodePoint.ofChar '/') (first :: more) = none := by
              rw [WordPart.next?, if_neg isEscape]
              rfl
            rw [Reading.next?, stops] at goesOn
            cases goesOn
  | cons point text ih =>
      obtain ⟨goal, goesOn, onRest⟩ := scan_cons_eq_cons.mp read
      right
      rcases ih (inToken.behind goesOn) onRest with ⟨rfl, rfl⟩ | isLast
      · rw [Reading.eq_backslash_of_next goesOn]
        rfl
      · rw [List.getLast?_cons, isLast]
        rfl

/-- A token that begins with a slash is one. -/
theorem IsToken.eq_nil_of_slash (isToken : IsToken (CodePoint.ofChar '/' :: text)) :
    text = [] := by
  obtain ⟨rest, read⟩ := isToken.read
  have noOpening := noOpening_of_scan read isToken.noComment
  obtain ⟨goal, goesOn, onRest⟩ := scan_cons_eq_cons.mp read
  have isClosed : Reading.start.next? (CodePoint.ofChar '/') (text ++ rest) = some .closed := by
    rw [Reading.next?, if_neg (by decide), if_neg (by decide), if_neg noOpening]
    rfl
  cases isClosed.symm.trans goesOn
  cases text with
  | nil => rfl
  | cons first text => cases onRest

/-- A token in front of something that ends with a slash, which no backslash stands before, is one.
-/
theorem IsToken.eq_nil_of_last_slash (isToken : IsToken (text ++ [CodePoint.ofChar '/']))
    (several : following ≠ [])
    (read : scan .start (text ++ CodePoint.ofChar '/' :: following) =
      text ++ [CodePoint.ofChar '/'])
    (noBackslash : ∀ point ∈ text.getLast?, point ≠ '\\') : text = [] := by
  cases text with
  | nil => rfl
  | cons point text =>
      obtain ⟨goal, goesOn, onRest⟩ := scan_cons_eq_cons.mp read
      have noSlash : ¬(point = '/' ∧
          (text ++ CodePoint.ofChar '/' :: following).head? = some (CodePoint.ofChar '*')) := by
        rintro ⟨rfl, -⟩
        exact absurd isToken.eq_nil_of_slash (by simp)
      have inToken := Reading.inToken_of_start goesOn isToken.noSpace noSlash
      rcases inToken.last_slash several onRest with ⟨rfl, rfl⟩ | isLast
      · exact absurd (Reading.eq_backslash_of_next goesOn) (noBackslash point rfl)
      · refine absurd rfl (noBackslash (CodePoint.ofChar '\\') ?_)
        rw [List.getLast?_cons, isLast]
        rfl

end Slashes

section Ink

variable {text other : Text} {point next : CodePoint} {spaced otherSpaced : Bool}

/-- How many code points of a text are no white space. -/
def ink (text : Text) : Nat :=
  text.countP fun point => !point.isBlank

theorem ink_append (text other : Text) : ink (text ++ other) = ink text + ink other :=
  List.countP_append

theorem ink_cons (ordinary : ¬point.isBlank) : ink (point :: text) = ink text + 1 :=
  List.countP_cons_of_pos (by simp [ordinary])

theorem ink_gap (spaced : Bool) : ink (gap spaced) = 0 := by
  cases spaced <;> decide

/-- Collapsing white space leaves everything else. -/
theorem ink_collapseBlanks (afterBlank : Bool) (text : Text) :
    ink (collapseBlanks afterBlank text) = ink text := by
  fun_induction collapseBlanks afterBlank text with
  | case1 => rfl
  | case2 point rest isBlank ih => simpa [ink, isBlank] using ih
  | case3 afterBlank point rest isBlank notAfter ih =>
      have isSpace : (CodePoint.ofChar ' ').isBlank = true := by decide
      simpa [ink, isBlank, isSpace] using ih
  | case4 afterBlank point rest ordinary ih => rw [ink_cons ordinary, ink_cons ordinary, ih]

theorem collapseBlanks_gap (ordinary : ¬point.isBlank) (afterBlank spaced : Bool) (text : Text) :
    collapseBlanks afterBlank (gap spaced ++ point :: text) =
      gap (spaced && !afterBlank) ++ point :: collapseBlanks false text := by
  rw [collapseBlanks_append, collapseBlanks_of_not_blank ordinary]
  cases spaced <;> cases afterBlank <;> rfl

theorem gap_cancel (ordinary : ¬point.isBlank) (otherOrdinary : ¬next.isBlank)
    (same : gap spaced ++ point :: text = gap otherSpaced ++ next :: other) :
    point :: text = next :: other := by
  have isSpace : (CodePoint.ofChar ' ').isBlank = true := by decide
  cases spaced <;> cases otherSpaced
  · exact same
  · exact absurd ((List.cons.inj same).1 ▸ isSpace) ordinary
  · exact absurd ((List.cons.inj same).1 ▸ isSpace) otherOrdinary
  · exact (List.cons.inj same).2

end Ink

section Pairs

variable {text rest before after comment : Text} {first : Token} {more ts pair : List Token}
  {parts : List Text} {spaced afterBlank : Bool}

theorem InFront.tail (inFront : InFront (first :: more) spaced comment) :
    InFront more spaced comment := by
  obtain ⟨areTokens, followed, noneInside, opened, unclosed, tidy⟩ := inFront
  exact ⟨(List.forall_mem_cons.mp areTokens).2, (List.forall_mem_cons.mp followed).2, noneInside.2,
    opened, unclosed, tidy⟩

/-- A slash and an asterisk with nothing but comments between. -/
def IsPair : List Token → Prop
  | first :: second :: _ => first.text = "/" ∧ second.spaced = false ∧
      second.text.head? = some (CodePoint.ofChar '*')
  | _ => False

theorem isPair_of_written (inFront : InFront (first :: more) spaced comment)
    (isSlash : first.text = "/")
    (reads : written more ++ (gap spaced ++ comment) = CodePoint.ofChar '*' :: after) :
    IsPair (first :: more) := by
  cases more with
  | nil =>
      obtain ⟨inside, rfl⟩ := exists_opened inFront.opened
      cases spaced
      · exact absurd (List.cons.inj reads).1 (by decide)
      · exact absurd (List.cons.inj reads).1 (by decide)
  | cons second more =>
      obtain ⟨point, rest, isText⟩ :=
        List.exists_cons_of_ne_nil (inFront.tail.areTokens second (List.mem_cons_self ..)).several
      rw [written_cons, Token.written] at reads
      cases isSpaced : second.spaced with
      | true =>
          rw [isSpaced] at reads
          exact absurd (List.cons.inj reads).1 (by decide)
      | false =>
          rw [isSpaced, isText] at reads
          refine ⟨isSlash, isSpaced, ?_⟩
          rw [isText, (List.cons.inj reads).1]
          rfl

theorem exists_of_gap {point : CodePoint} (noSpace : point ≠ ' ')
    (reads : gap spaced ++ text = before ++ point :: rest) :
    ∃ front, before = gap spaced ++ front ∧ text = front ++ point :: rest := by
  cases spaced with
  | false => exact ⟨before, rfl, reads⟩
  | true =>
      cases before with
      | nil => exact absurd (List.cons.inj reads).1.symm noSpace
      | cons first before =>
          obtain ⟨rfl, same⟩ := List.cons.inj reads
          exact ⟨before, rfl, same⟩

/-- Where a comment begins in what tokens are written as, and no backslash stands before it, there
are a slash and an asterisk. -/
theorem InFront.exists_pair (inFront : InFront ts spaced comment)
    (found : written ts ++ (gap spaced ++ comment) =
      before ++ CodePoint.ofChar '/' :: CodePoint.ofChar '*' :: after)
    (noBackslash : ∀ point ∈ before.getLast?, point ≠ '\\') (closes : closesComment after) :
    ∃ pair, pair <:+ ts ∧ IsPair pair ∧
      ink (CodePoint.ofChar '/' :: CodePoint.ofChar '*' :: after) =
        ink (written pair ++ (gap spaced ++ comment)) := by
  induction ts generalizing before with
  | nil =>
      obtain ⟨front, -, isComment⟩ := exists_of_gap (by decide) found
      obtain ⟨inside, behind, rfl⟩ := closesComment_iff.mp closes
      refine absurd ⟨_, ⟨inside, rfl⟩, front, behind, ?_⟩ inFront.unclosed
      rw [isComment]
      simp [Text.ofString]
  | cons first more ih =>
      have later {before : Text} (noBackslash : ∀ point ∈ before.getLast?, point ≠ '\\')
          (found : written more ++ (gap spaced ++ comment) =
            before ++ CodePoint.ofChar '/' :: CodePoint.ofChar '*' :: after) :
          ∃ pair, pair <:+ first :: more ∧ IsPair pair ∧
            ink (CodePoint.ofChar '/' :: CodePoint.ofChar '*' :: after) =
              ink (written pair ++ (gap spaced ++ comment)) := by
        obtain ⟨pair, isEnd, found⟩ := ih inFront.tail found noBackslash
        exact ⟨pair, isEnd.trans (List.suffix_cons first more), found⟩
      obtain ⟨isToken, -⟩ := List.forall_mem_cons.mp inFront.areTokens
      obtain ⟨⟨following, several, read⟩, -⟩ := List.forall_mem_cons.mp inFront.followed
      rw [written_cons, List.append_assoc] at found
      rcases List.append_eq_append_iff.mp found with
        ⟨front, rfl, isRest⟩ | ⟨back, isFirst, isRest⟩
      · refine later (fun point isLast => noBackslash point ?_) isRest
        exact List.mem_getLast?_append_of_mem_getLast? isLast
      · cases back with
        | nil => exact @later [] (by simp) isRest.symm
        | cons slash back =>
            obtain ⟨rfl, isBehind⟩ := List.cons.inj isRest
            obtain ⟨front, rfl, isText⟩ := exists_of_gap (by decide) isFirst
            cases back with
            | cons asterisk back =>
                obtain ⟨rfl, rfl⟩ := List.cons.inj isBehind
                have isInside : first.text = front ++ "/*" ++ back := by
                  simp [isText, Text.ofString]
                exact absurd closes (inFront.noneInside.1 front back isInside)
            | nil =>
                rw [isText] at isToken read
                rw [List.append_assoc] at read
                have nothing : front = [] := by
                  refine isToken.eq_nil_of_last_slash several read fun point isLast => ?_
                  exact noBackslash point (List.mem_getLast?_append_of_mem_getLast? isLast)
                rw [nothing] at isText
                have isPair := isPair_of_written inFront isText isBehind.symm
                refine ⟨first :: more, List.suffix_rfl, isPair, ?_⟩
                rw [written_cons, Token.written, List.append_assoc, List.append_assoc, ink_append,
                  ink_gap, Nat.zero_add, isText, isRest]
                rfl

theorem spaced_of_tokensFrom {second : Token} (isTokens : tokensFrom true parts = second :: more) :
    second.spaced = true := by
  induction parts with
  | nil => cases isTokens
  | cons part parts ih =>
      rw [tokensFrom] at isTokens
      split at isTokens
      · exact ih isTokens
      · split at isTokens
        · exact ih isTokens
        · cases isTokens
          rfl

/-- Between a slash and an asterisk that are tokens, without white space, there is a comment. -/
theorem exists_comment_between {second : Token} (lexed : Lexed rest parts)
    (read : scan .start (CodePoint.ofChar '/' :: rest) = [CodePoint.ofChar '/'])
    (isTokens : tokensFrom false parts = second :: more) (unspaced : second.spaced = false)
    (isAsterisk : second.text.head? = some (CodePoint.ofChar '*')) :
    ∃ after, rest = CodePoint.ofChar '/' :: CodePoint.ofChar '*' :: after ∧
      closesComment after := by
  cases lexed with
  | done => cases isTokens
  | @next lexeme rest parts several isLexeme onRest =>
      rw [tokensFrom] at isTokens
      split at isTokens
      · next opened =>
          by_cases closed : isClosed lexeme
          · obtain ⟨inside, rfl⟩ := exists_opened opened
            have closes : closesComment inside := (Bool.and_eq_true_iff.mp closed).2
            exact ⟨inside ++ rest, rfl, closesComment_append_left closes rest⟩
          · rw [onRest.eq_nil (eq_nil_of_unclosed isLexeme opened closed)] at isTokens
            cases isTokens
      · split at isTokens
        · exact absurd (spaced_of_tokensFrom isTokens) (by simp [unspaced])
        · cases isTokens
          obtain ⟨text, rfl⟩ := List.head?_eq_some_iff.mp isAsterisk
          have opened :
              scan .start (CodePoint.ofChar '/' :: (CodePoint.ofChar '*' :: text ++ rest)) =
                "/*" ++ scan .comment (text ++ rest) := scan_opened _
          rw [opened] at read
          cases (List.cons.inj read).2

/-- Behind a slash, a comment begins wherever a slash and an asterisk are read as tokens. There is
less left than the tokens from the asterisk on would take. -/
theorem exists_reopened (lexed : Lexed text parts) (isEnd : pair <:+ tokensFrom spaced parts)
    (isPair : IsPair pair) : ∃ before after,
      text = before ++ CodePoint.ofChar '/' ::
        CodePoint.ofChar '/' :: CodePoint.ofChar '*' :: after ∧
      closesComment after ∧
      ink (written (tokensFrom spaced parts)) +
          ink (CodePoint.ofChar '/' :: CodePoint.ofChar '*' :: after) ≤
        ink text + ink (written pair.tail) := by
  induction lexed generalizing spaced with
  | done =>
      rw [tokensFrom, List.suffix_nil] at isEnd
      rw [isEnd] at isPair
      exact isPair.elim
  | @next lexeme rest parts several read onRest ih =>
      rw [tokensFrom] at isEnd ⊢
      split at isEnd
      · next opened =>
          obtain ⟨before, after, rfl, closes, short⟩ := ih isEnd
          refine ⟨lexeme ++ before, after, (List.append_assoc _ _ _).symm, closes, ?_⟩
          rw [if_pos opened, ink_append]
          omega
      · next noComment =>
        rw [if_neg noComment]
        split at isEnd
        · next spacing =>
            obtain ⟨before, after, rfl, closes, short⟩ := ih isEnd
            refine ⟨lexeme ++ before, after, (List.append_assoc _ _ _).symm, closes, ?_⟩
            rw [if_pos spacing, ink_append]
            omega
        · next noSpace =>
            rw [if_neg noSpace, written_cons, Token.written, ink_append, ink_append, ink_append,
              ink_gap]
            dsimp only
            rcases List.suffix_cons_iff.mp isEnd with rfl | isEnd
            · cases isMore : tokensFrom false parts with
              | nil =>
                  rw [isMore] at isPair
                  exact isPair.elim
              | cons second more =>
                  rw [isMore] at isPair
                  obtain ⟨rfl, unspaced, isAsterisk⟩ := isPair
                  obtain ⟨after, rfl, closes⟩ :=
                    exists_comment_between onRest read isMore unspaced isAsterisk
                  refine ⟨[], after, rfl, closes, ?_⟩
                  rw [List.tail_cons]
                  omega
            · obtain ⟨before, after, rfl, closes, short⟩ := ih isEnd
              refine ⟨lexeme ++ before, after, (List.append_assoc _ _ _).symm, closes, ?_⟩
              omega

theorem ink_written_append (front back : List Token) :
    ink (written (front ++ back)) = ink (written front) + ink (written back) := by
  rw [written, List.flatMap_append, ink_append]
  rfl

theorem IsPair.ink_tail_lt (isPair : IsPair pair) :
    ink (written pair.tail) < ink (written pair) := by
  cases pair with
  | nil => exact isPair.elim
  | cons first more =>
      have isSlash : first.text = "/" := by
        cases more with
        | nil => exact isPair.elim
        | cons second more => exact isPair.1
      have hasInk : ink first.text = 1 := by
        rw [isSlash]
        decide
      rw [List.tail_cons, written_cons, ink_append, Token.written, ink_append]
      omega

/-- If the tokens are read back in a text that is collapsed from what they are written as in front
of a comment, there are no slash and asterisk among them. -/
theorem InFront.not_isPair {whole : Text} {first : Bool} (inFront : InFront ts spaced comment)
    (lexed : Lexed text parts) (isTokens : tokensFrom first parts = ts) (isEnd : text <:+ whole)
    (collapsed : collapseBlanks true (written ts ++ (gap spaced ++ comment)) = whole) :
    ∀ pair, pair <:+ ts → ¬IsPair pair := by
  intro pair isPairEnd isPair
  induction size : pair.length using Nat.strong_induction_on generalizing pair with
  | _ size ih =>
  subst size
  obtain ⟨before, after, isText, closes, short⟩ :=
    exists_reopened lexed (isTokens.symm ▸ isPairEnd) isPair
  obtain ⟨front, isWhole⟩ := isEnd
  -- The slash, and the comment behind it, come from what the tokens are written as.
  have read : collapseBlanks true (written ts ++ (gap spaced ++ comment)) =
      (front ++ before ++ [CodePoint.ofChar '/']) ++ CodePoint.ofChar '/' ::
        CodePoint.ofChar '*' :: after := by
    rw [collapsed, ← isWhole, isText]
    simp only [List.append_assoc, List.singleton_append]
  obtain ⟨upToSlash, fromAsterisk, found, isUpTo, isFrom⟩ :=
    exists_of_collapseBlanks (by decide) read
  obtain ⟨left, nothing, rfl, -, isNothing⟩ := exists_of_collapseBlanks (by decide) isUpTo
  obtain ⟨none, behind, rfl, isNone, rfl⟩ :=
    exists_of_collapseBlanks (by decide) (isFrom.trans (List.nil_append _).symm)
  rw [collapseBlanks_eq_nil_iff.mp isNothing, collapseBlanks_eq_nil_iff.mp isNone] at found
  have noBackslash : ∀ point ∈ (left ++ [CodePoint.ofChar '/']).getLast?, point ≠ '\\' := by
    rw [List.getLast?_concat]
    rintro point ⟨⟩
    decide
  obtain ⟨other, isOtherEnd, isOther, sameInk⟩ := inFront.exists_pair found noBackslash
    ((closesComment_collapseBlanks false behind).mp closes)
  by_cases shorter : other.length < pair.length
  · exact ih other.length shorter other isOtherEnd isOther rfl
  · obtain ⟨more, isMore⟩ :=
      List.suffix_of_suffix_length_le isPairEnd isOtherEnd (Nat.le_of_not_lt shorter)
    have tailShorter := isPair.ink_tail_lt
    have onSlash : ¬(CodePoint.ofChar '/').isBlank := by decide
    have onAsterisk : ¬(CodePoint.ofChar '*').isBlank := by decide
    have wholeInk := congrArg ink collapsed
    rw [ink_collapseBlanks, ← isWhole, ink_append (written ts), ink_append front] at wholeInk
    rw [isTokens, ink_cons onSlash, ink_cons onAsterisk, ink_collapseBlanks] at short
    rw [ink_cons onSlash, ink_cons onAsterisk, ink_append, ← isMore, ink_written_append] at sameInk
    omega

end Pairs

section Reading

variable {text rest comment : Text} {ts : List Token} {parts : List Text}
  {spaced gapped afterBlank : Bool}

/-- A comment in a text that is collapsed from what tokens are written as in front of a comment is
that comment, unless there are a slash and an asterisk among the tokens. -/
theorem InFront.eq_comment (inFront : InFront ts spaced comment)
    (noPair : ∀ pair, pair <:+ ts → ¬IsPair pair)
    (ordinary : ∀ token ∈ ts, ∀ point ∈ token.text.head?, ¬point.isBlank)
    (collapsed : gap gapped ++ CodePoint.ofChar '/' :: CodePoint.ofChar '*' :: rest =
      collapseBlanks afterBlank (written ts ++ (gap spaced ++ comment))) :
    ts = [] ∧ CodePoint.ofChar '/' :: CodePoint.ofChar '*' :: rest = comment := by
  have onSlash : ¬(CodePoint.ofChar '/').isBlank := by decide
  cases ts with
  | nil =>
      have isComment := collapseBlanks_of_tidy inFront.tidy false
      obtain ⟨inside, rfl⟩ := exists_opened inFront.opened
      rw [written, List.flatMap_nil, List.nil_append, collapseBlanks_gap onSlash] at collapsed
      rw [collapseBlanks_of_not_blank onSlash] at isComment
      exact ⟨rfl, (gap_cancel onSlash onSlash collapsed).trans isComment⟩
  | cons first more =>
      have isToken := inFront.areTokens first (List.mem_cons_self ..)
      have isOrdinary := ordinary first (List.mem_cons_self ..)
      obtain ⟨point, inside, isText⟩ := List.exists_cons_of_ne_nil isToken.several
      rw [isText] at isToken isOrdinary
      have onPoint : ¬point.isBlank := isOrdinary point rfl
      rw [written_cons, Token.written, isText, List.append_assoc, List.append_assoc,
        List.cons_append, collapseBlanks_gap onPoint] at collapsed
      obtain ⟨rfl, onRest⟩ := List.cons.inj (gap_cancel onSlash onPoint collapsed)
      obtain rfl := isToken.eq_nil_of_slash
      obtain ⟨nothing, after, isRest, isNothing, -⟩ :=
        exists_of_collapseBlanks (by decide) (onRest.symm.trans (List.nil_append _).symm)
      rw [collapseBlanks_eq_nil_iff.mp isNothing] at isRest
      exact absurd (isPair_of_written inFront isText isRest) (noPair _ List.suffix_rfl)

/-- If what tokens are written as in front of a comment is read as the same tokens after its white
space has been collapsed, nothing but white space in front of the comment has been collapsed. -/
theorem InFront.written_of_collapsed (inFront : InFront ts spaced comment)
    (lexed : Lexed text parts) (isTokens : tokensFrom gapped parts = ts)
    (noPair : ∀ pair, pair <:+ ts → ¬IsPair pair)
    (ordinary : ∀ token ∈ ts, ∀ point ∈ token.text.head?, ¬point.isBlank)
    (collapsed : gap gapped ++ text =
      collapseBlanks afterBlank (written ts ++ (gap spaced ++ comment))) :
    ∃ other, gap gapped ++ text = written ts ++ (gap other ++ comment) ∧ ts.IsChain Apart := by
  induction lexed generalizing ts gapped afterBlank with
  | done =>
      obtain ⟨inside, rfl⟩ := exists_opened inFront.opened
      have onSlash : ¬(CodePoint.ofChar '/').isBlank := by decide
      have noInk := congrArg ink collapsed
      rw [ink_collapseBlanks, ink_append, ink_append, ink_append, ink_gap,
        ink_cons onSlash] at noInk
      exact absurd noInk (by simp [ink])
  | @next lexeme rest parts several read onRest ih =>
      have spaces := collapseBlanks_spaces afterBlank (written ts ++ (gap spaced ++ comment))
      have single := collapseBlanks_single afterBlank (written ts ++ (gap spaced ++ comment))
      rw [← collapsed] at spaces single
      rw [tokensFrom] at isTokens
      split at isTokens
      · next opened =>
          obtain ⟨inside, rfl⟩ := exists_opened opened
          obtain ⟨rfl, isComment⟩ := inFront.eq_comment noPair ordinary collapsed
          exact ⟨gapped, congrArg (gap gapped ++ ·) isComment, .nil⟩
      · split at isTokens
        · next spacing =>
            have areBlank : ∀ point ∈ lexeme, CodePoint.isBlank point := fun point mem =>
              isBlank_of_isMarkupBlank (isMarkupBlank_of_isSpacing read spacing point mem)
            obtain ⟨point, more, rfl⟩ := List.exists_cons_of_ne_nil several
            rw [List.forall_mem_cons] at areBlank
            cases gapped with
            | true =>
                have apart := (List.isChain_cons_cons.mp single.1).1
                exact absurd ⟨by decide, areBlank.1⟩ apart
            | false =>
                cases more with
                | cons next more =>
                    have apart := (List.isChain_cons_cons.mp single.1).1
                    exact absurd ⟨areBlank.1, areBlank.2 next (List.mem_cons_self ..)⟩ apart
                | nil =>
                    obtain rfl : point = ' ' := spaces point (List.mem_cons_self ..) areBlank.1
                    exact @ih ts true afterBlank inFront isTokens noPair ordinary collapsed
        · subst isTokens
          rw [written_cons, Token.written, List.append_assoc _ (written _),
            collapseBlanks_append, ← List.append_assoc] at collapsed
          have isFront :
              collapseBlanks afterBlank (gap gapped ++ lexeme) = gap gapped ++ lexeme := by
            rw [← List.append_assoc, List.forall_mem_append] at spaces
            rw [← List.append_assoc] at single
            exact collapseBlanks_eq_self spaces.1 single.1.left_of_append
              fun isAfter point isHead =>
                single.2 isAfter point (List.mem_head?_append_of_mem_head? isHead)
          rw [isFront] at collapsed
          obtain ⟨other, isRest, apart⟩ := @ih _ false _ inFront.tail rfl
            (fun pair isEnd => noPair pair (isEnd.trans (List.suffix_cons _ _)))
            (List.forall_mem_cons.mp ordinary).2 (List.append_cancel_left collapsed)
          rw [gap_false, List.nil_append] at isRest
          refine ⟨other, ?_, List.isChain_cons.mpr ⟨fun second isHead => ?_, apart⟩⟩
          · rw [isRest, written_cons, Token.written]
            simp only [List.append_assoc]
          · obtain ⟨more, isTokens⟩ := List.head?_eq_some_iff.mp isHead
            have begins : second.written <+: rest := by
              rw [isRest, isTokens, written_cons, List.append_assoc]
              exact List.prefix_append _ _
            exact scan_append read (.of_begins begins)

/-- In a collapsed text, no token begins with white space. -/
theorem ordinary_of_collapsed (spaces : ∀ point ∈ text, point.isBlank → point = ' ') :
    ∀ token ∈ tokens text, ∀ point ∈ token.text.head?, ¬point.isBlank := by
  intro token mem point isHead isBlank
  have isLexeme := List.infix_of_mem_flatten (text_mem_lexemes mem)
  rw [(lexed_lexemes text).flatten_eq] at isLexeme
  obtain ⟨rest, isText⟩ := List.head?_eq_some_iff.mp isHead
  have inText : point ∈ token.text := by
    rw [isText]
    exact List.mem_cons_self ..
  have isSpace : point = ' ' := spaces point (isLexeme.mem inText) isBlank
  have noSpace := (isToken_of_mem_tokens text token mem).noSpace
  rw [isText, isSpace] at noSpace
  exact noSpace (by rfl)

/-- The same for the whole text, in front of which no white space is left. -/
theorem InFront.written_of_tokens (inFront : InFront ts spaced comment)
    (collapsed : text = collapseBlanks true (written ts ++ (gap spaced ++ comment)))
    (same : tokens text = ts) :
    ∃ other, text = written ts ++ (gap other ++ comment) ∧ ts.IsChain Apart := by
  have lexed := lexed_lexemes text
  have spaces := collapseBlanks_spaces true (written ts ++ (gap spaced ++ comment))
  have single := collapseBlanks_single true (written ts ++ (gap spaced ++ comment))
  rw [← collapsed] at spaces single
  have ordinary := ordinary_of_collapsed spaces
  rw [same] at ordinary
  obtain ⟨fromTokens, onTokens, isEnd⟩ := lexed.exists_dropWhile isSkipped
  have noPair := inFront.not_isPair onTokens same isEnd collapsed.symm
  have aligned : gap false ++ text = collapseBlanks true (written ts ++ (gap spaced ++ comment)) :=
    collapsed
  rw [tokens] at same
  generalize lexemes text = parts at lexed same
  cases lexed with
  | done => exact inFront.written_of_collapsed .done same noPair ordinary aligned
  | @next lexeme rest parts several read onRest =>
      by_cases opened : isComment lexeme
      · obtain ⟨inside, rfl⟩ := exists_opened opened
        obtain ⟨rfl, isComment⟩ := inFront.eq_comment noPair ordinary aligned
        exact ⟨false, isComment, .nil⟩
      · have noSpace : ¬isSpacing lexeme := by
          intro spacing
          obtain ⟨point, more, rfl⟩ := List.exists_cons_of_ne_nil several
          exact single.2 rfl point rfl (isBlank_of_isMarkupBlank spacing)
        rw [List.dropWhile_cons_of_neg (by simp [isSkipped, opened, noSpace])] at same
        exact inFront.written_of_collapsed (.next several read onRest) same noPair ordinary aligned

end Reading

end ComponentInliner.StyleSheet
