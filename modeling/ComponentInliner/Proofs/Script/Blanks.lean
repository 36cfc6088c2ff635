import ComponentInliner.Script.Token

/-!
# Blanks and comments

What may stand between two tokens: blanks, comments up to the end of a line, comments in brackets,
and those of HTML where they are known. All of it is skipped, whatever comes behind it
(`IsVoid.skipped`).
-/

namespace ComponentInliner.Script

theorem foldl_utf8Size (start : Nat) (characters : List Char) :
    characters.foldl (fun count character => count + character.utf8Size) start =
      start + byteCount characters := by
  induction characters generalizing start with
  | nil => rfl
  | cons first rest ih =>
      have onFirst : byteCount (first :: rest) = 0 + first.utf8Size + byteCount rest := ih _
      rw [List.foldl_cons, ih, onFirst]
      omega

theorem byteCount_append (left right : List Char) :
    byteCount (left ++ right) = byteCount left + byteCount right := by
  rw [byteCount, List.foldl_append, foldl_utf8Size]
  rfl

theorem byteCount_cons (first : Char) (rest : List Char) :
    byteCount (first :: rest) = first.utf8Size + byteCount rest := by
  rw [byteCount, List.foldl_cons, foldl_utf8Size, Nat.zero_add]

/-- The signs that begin a comment of HTML. -/
def OpensMarkup (opening : List Char) : Prop :=
  opening = ['<', '!', '-', '-'] ∨ opening = ['-', '-', '>']

/-- Nothing but blanks and whole comments. -/
inductive IsVoid : List Char → Prop
  | nil : IsVoid []
  | blank {character : Char} {rest : List Char} (isBlank : isTrivia character = true)
      (following : IsVoid rest) : IsVoid (character :: rest)
  | lineComment {body rest : List Char} {ending : Char}
      (within : ∀ character ∈ body, isLineTerminator character = false)
      (ends : isLineTerminator ending = true) (following : IsVoid rest) :
      IsVoid ('/' :: '/' :: (body ++ ending :: rest))
  | markupComment {opening body rest : List Char} {ending : Char} (opens : OpensMarkup opening)
      (within : ∀ character ∈ body, endsMarkupComment character = false)
      (ends : endsMarkupComment ending = true) (following : IsVoid rest) :
      IsVoid (opening ++ (body ++ ending :: rest))
  | blockComment {body rest : List Char} (within : ¬['*', '/'] <:+: body ++ ['*'])
      (following : IsVoid rest) : IsVoid ('/' :: '*' :: (body ++ '*' :: '/' :: rest))

variable {character : Char} {body rest : List Char}

theorem skipTrivia_blank (isBlank : isTrivia character = true) (offset : Nat) (lineBreak : Bool)
    (rest : List Char) : skipTrivia true .between offset lineBreak (character :: rest) =
      skipTrivia true .between (offset + character.utf8Size)
        (lineBreak || isLineTerminator character) rest := by
  have noSlash : isTrivia '/' = false := by decide
  have noAsterisk : isTrivia '*' = false := by decide
  rw [skipTrivia.eq_def]
  split
  case h_1 none => cases none
  case h_5 same =>
    cases same
    exact if_pos isBlank
  all_goals
    next same =>
      cases same
      simp_all

/-- Within a comment to the end of a line, one character is skipped after another. -/
theorem skipTrivia_inLine {mode : TriviaMode} {ends : Char → Bool}
    (isLine : (mode = .lineComment ∧ ends = isLineTerminator) ∨
      (mode = .markupComment ∧ ends = endsMarkupComment))
    (character : Char) (offset : Nat) (lineBreak : Bool) (rest : List Char) :
    skipTrivia true mode offset lineBreak (character :: rest) =
      skipTrivia true (if ends character then .between else mode)
        (offset + character.utf8Size) (lineBreak || isLineTerminator character) rest := by
  have slash : isLineTerminator '/' = false ∧ endsMarkupComment '/' = false ∧ '/'.utf8Size = 1 := by
    decide
  have asterisk : isLineTerminator '*' = false ∧ endsMarkupComment '*' = false ∧
      '*'.utf8Size = 1 := by decide
  rw [skipTrivia.eq_def]
  rcases isLine with ⟨rfl, rfl⟩ | ⟨rfl, rfl⟩
  all_goals
    split
    case h_1 none => cases none
    all_goals
      next same =>
        cases same
        simp [slash, asterisk]

theorem skipTrivia_inBlock (goesOn : ¬['*', '/'] <+: character :: rest) (offset : Nat)
    (lineBreak : Bool) : skipTrivia true .blockComment offset lineBreak (character :: rest) =
      skipTrivia true .blockComment (offset + character.utf8Size)
        (lineBreak || isLineTerminator character) rest := by
  have slash : isLineTerminator '/' = false ∧ '/'.utf8Size = 1 := by decide
  rw [skipTrivia.eq_def]
  split
  case h_1 none => cases none
  case h_4 later same =>
    cases same
    exact absurd ⟨later, rfl⟩ goesOn
  all_goals
    next same =>
      cases same
      simp [slash]

/-- A comment to the end of a line is skipped up to the character that ends it. -/
theorem skipTrivia_line {mode : TriviaMode} {ends : Char → Bool}
    (isLine : (mode = .lineComment ∧ ends = isLineTerminator) ∨
      (mode = .markupComment ∧ ends = endsMarkupComment)) {ending : Char}
    (within : ∀ character ∈ body, ends character = false) (isEnd : ends ending = true)
    (offset : Nat) (lineBreak : Bool) : ∃ broken,
      skipTrivia true mode offset lineBreak (body ++ ending :: rest) =
        skipTrivia true .between (offset + byteCount body + ending.utf8Size) broken rest := by
  induction body generalizing offset lineBreak with
  | nil => exact ⟨_, by rw [List.nil_append, skipTrivia_inLine isLine, if_pos isEnd]; rfl⟩
  | cons character body ih =>
      rw [List.forall_mem_cons] at within
      have goesOn : ¬ends character = true := by simp [within.1]
      rcases ih within.2 (offset + character.utf8Size) (lineBreak || isLineTerminator character)
        with ⟨broken, skipped⟩
      refine ⟨broken, ?_⟩
      rw [List.cons_append, skipTrivia_inLine isLine, if_neg goesOn, skipped, byteCount_cons,
        Nat.add_assoc offset]

theorem skipTrivia_blockComment (within : ¬['*', '/'] <:+: body ++ ['*']) (offset : Nat)
    (lineBreak : Bool) : ∃ broken,
      skipTrivia true .blockComment offset lineBreak (body ++ '*' :: '/' :: rest) =
        skipTrivia true .between (offset + byteCount body + 2) broken rest := by
  induction body generalizing offset lineBreak with
  | nil => exact ⟨lineBreak, rfl⟩
  | cons character body ih =>
      rw [List.cons_append, List.infix_cons_iff, not_or] at within
      have goesOn : ¬['*', '/'] <+: character :: (body ++ '*' :: '/' :: rest) := by
        intro isEnd
        apply within.1
        rw [List.cons_prefix_cons] at isEnd ⊢
        refine ⟨isEnd.1, ?_⟩
        cases body with
        | nil => exact absurd (List.cons_prefix_cons.mp isEnd.2).1 (by decide)
        | cons next body =>
            rw [(List.cons_prefix_cons.mp isEnd.2).1]
            exact List.cons_prefix_cons.mpr ⟨rfl, List.nil_prefix⟩
      rcases ih within.2 (offset + character.utf8Size) (lineBreak || isLineTerminator character)
        with ⟨broken, skipped⟩
      refine ⟨broken, ?_⟩
      rw [List.cons_append, skipTrivia_inBlock goesOn, skipped, byteCount_cons,
        Nat.add_assoc offset]

/-- Blanks and comments are skipped, whatever comes after them. -/
theorem IsVoid.skipped {text : List Char} (isVoid : IsVoid text) (offset : Nat) (lineBreak : Bool)
    (rest : List Char) : ∃ broken, skipTrivia true .between offset lineBreak (text ++ rest) =
      skipTrivia true .between (offset + byteCount text) broken rest := by
  have slash : '/'.utf8Size = 1 := by decide
  have asterisk : '*'.utf8Size = 1 := by decide
  induction isVoid generalizing offset lineBreak with
  | nil => exact ⟨lineBreak, rfl⟩
  | @blank character _ isBlank _ ih =>
      rcases ih (offset + character.utf8Size) (lineBreak || isLineTerminator character) with
        ⟨broken, onRest⟩
      refine ⟨broken, ?_⟩
      rw [List.cons_append, skipTrivia_blank isBlank, onRest, byteCount_cons, Nat.add_assoc]
  | @lineComment body later ending within ends _ ih =>
      rcases @skipTrivia_line body (later ++ rest) _ _ (.inl ⟨rfl, rfl⟩) ending within ends
        (offset + 2) lineBreak with ⟨between, onComment⟩
      rcases ih (offset + 2 + byteCount body + ending.utf8Size) between with ⟨broken, onRest⟩
      refine ⟨broken, ?_⟩
      have opened (input : List Char) :
          skipTrivia true .between offset lineBreak ('/' :: '/' :: input) =
            skipTrivia true .lineComment (offset + 2) lineBreak input := rfl
      have sameEnd : offset + 2 + byteCount body + ending.utf8Size + byteCount later =
          offset + byteCount ('/' :: '/' :: (body ++ ending :: later)) := by
        simp only [byteCount_cons, byteCount_append, slash]
        omega
      rw [List.cons_append, List.cons_append, List.append_assoc, List.cons_append, opened,
        onComment, onRest, sameEnd]
  | @markupComment opening body later ending opens within ends _ ih =>
      have opened (input : List Char) : ∃ begun,
          skipTrivia true .between offset lineBreak (opening ++ input) =
            skipTrivia true .markupComment (offset + byteCount opening) begun input := by
        rcases opens with rfl | rfl
        · exact ⟨_, rfl⟩
        · exact ⟨_, rfl⟩
      rcases opened (body ++ ending :: (later ++ rest)) with ⟨begun, onOpening⟩
      rcases @skipTrivia_line body (later ++ rest) _ _ (.inr ⟨rfl, rfl⟩) ending within ends
        (offset + byteCount opening) begun with ⟨between, onComment⟩
      rcases ih (offset + byteCount opening + byteCount body + ending.utf8Size) between with
        ⟨broken, onRest⟩
      refine ⟨broken, ?_⟩
      have sameEnd : offset + byteCount opening + byteCount body + ending.utf8Size +
          byteCount later = offset + byteCount (opening ++ (body ++ ending :: later)) := by
        simp only [byteCount_cons, byteCount_append]
        omega
      rw [List.append_assoc, List.append_assoc, List.cons_append, onOpening, onComment, onRest,
        sameEnd]
  | @blockComment body later within _ ih =>
      rcases @skipTrivia_blockComment body (later ++ rest) within (offset + 2) lineBreak with
        ⟨between, onComment⟩
      rcases ih (offset + 2 + byteCount body + 2) between with ⟨broken, onRest⟩
      refine ⟨broken, ?_⟩
      have opened (input : List Char) :
          skipTrivia true .between offset lineBreak ('/' :: '*' :: input) =
            skipTrivia true .blockComment (offset + 2) lineBreak input := rfl
      have sameEnd : offset + 2 + byteCount body + 2 + byteCount later =
          offset + byteCount ('/' :: '*' :: (body ++ '*' :: '/' :: later)) := by
        simp only [byteCount_cons, byteCount_append, slash, asterisk]
        omega
      rw [List.cons_append, List.cons_append, List.append_assoc, List.cons_append, List.cons_append,
        opened, onComment, onRest, sameEnd]

end ComponentInliner.Script
