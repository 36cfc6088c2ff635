import ComponentInliner.Proofs.StyleSheet.Reader
import Mathlib.Data.List.Chain

/-!
# Tokens read back

Tokens written one after the other are read back if each is apart from the next: where it ends, the
next one does not carry it on. Looking at the next one is enough, since what stands behind that one
makes no difference to the reader (`resembles_written`). Conversely, tokens that make up all of a
text are apart from each other (`written_of_full`).
-/

namespace ComponentInliner.StyleSheet

/-- A token is read the same in front of another one as on its own. -/
def Apart (first second : Token) : Prop :=
  scan .start (first.text ++ second.written) = first.text

instance (first second : Token) : Decidable (Apart first second) :=
  inferInstanceAs (Decidable (_ = _))

/-- A text is a lexeme that is no white space. -/
structure IsPiece (text : Text) : Prop where
  several : text ≠ []
  noSpace : ¬isSpacing text
  read : ∃ rest, scan .start (text ++ rest) = text

/-- A text is what some token is written as. -/
structure IsToken (text : Text) : Prop extends IsPiece text where
  noComment : ¬isComment text

section Writing

variable {first second : Token} {more : List Token} {text rest : Text} {parts : List Text}
  {spaced : Bool}

theorem isToken_of_mem (lexed : Lexed text parts) :
    ∀ token ∈ tokensFrom spaced parts, IsToken token.text := by
  induction lexed generalizing spaced with
  | done => exact nofun
  | next several read onRest ih =>
      rw [tokensFrom]
      split
      · exact ih
      · next noComment =>
        split
        · exact ih
        · next noSpace =>
            exact List.forall_mem_cons.mpr ⟨⟨⟨several, noSpace, _, read⟩, noComment⟩, ih⟩

/-- Behind a point or a plus sign on its own, no token begins with a digit. -/
theorem not_startsDigit_written {point : CodePoint} (isMark : point = '.' ∨ point = '+')
    (isText : first.text = [point]) (apart : (first :: more).IsChain Apart)
    (arePieces : ∀ piece ∈ more, IsPiece piece.text) : ¬startsDigit (written more) := by
  intro digit
  cases more with
  | nil => cases digit
  | cons second more =>
      rw [List.forall_mem_cons] at arePieces
      obtain ⟨read, -⟩ := List.isChain_cons_cons.mp apart
      have several : second.written ≠ [] := by simp [Token.written, arePieces.1.several]
      obtain ⟨next, rest, isSecond⟩ := List.exists_cons_of_ne_nil several
      rw [Apart, isText, isSecond] at read
      rw [written_cons, isSecond] at digit
      have noDigit : ¬startsDigit (next :: rest) := not_startsDigit_of_scan read isMark
      exact noDigit digit

/-- Behind a token, another one looks the same with more tokens behind it. -/
theorem resembles_written (several : second.text ≠ []) (apart : (second :: more).IsChain Apart)
    (arePieces : ∀ piece ∈ more, IsPiece piece.text) :
    Resembles (second.written ++ written more) second.written := by
  cases isSpaced : second.spaced with
  | true =>
      refine .inr ⟨CodePoint.ofChar ' ', second.text ++ written more, second.text, ?_, ?_, ?_⟩
      · simp [Token.written, isSpaced]
      · simp [Token.written, isSpaced]
      · exact fun isMark => absurd isMark (by decide)
  | false =>
      obtain ⟨point, rest, isText⟩ := List.exists_cons_of_ne_nil several
      refine .inr ⟨point, rest ++ written more, rest, ?_, ?_, fun isMark digit => ?_⟩
      · simp [Token.written, isSpaced, isText]
      · simp [Token.written, isSpaced, isText]
      · cases rest with
        | cons first rest => exact digit
        | nil => exact absurd digit (not_startsDigit_written isMark isText apart arePieces)

theorem scan_written (isPiece : IsPiece first.text) (apart : (first :: more).IsChain Apart)
    (arePieces : ∀ piece ∈ more, IsPiece piece.text) :
    scan .start (first.text ++ written more) = first.text := by
  cases more with
  | nil =>
      obtain ⟨rest, read⟩ := isPiece.read
      exact scan_append read (.inl rfl)
  | cons second more =>
      rw [List.forall_mem_cons] at arePieces
      rw [List.isChain_cons_cons] at apart
      rw [written_cons]
      exact scan_append apart.1 (resembles_written arePieces.1.several apart.2 arePieces.2)

/-- If tokens are apart from each other, reading them back gives them again. -/
theorem lexemes_written (isPiece : IsPiece first.text) (apart : (first :: more).IsChain Apart)
    (arePieces : ∀ piece ∈ more, IsPiece piece.text) :
    lexemes (written (first :: more)) =
      (if first.spaced then [gap true] else []) ++ first.text :: lexemes (written more) := by
  have onText : lexemes (first.text ++ written more) = first.text :: lexemes (written more) :=
    lexemes_append isPiece.several (scan_written isPiece apart arePieces)
  rw [written_cons, Token.written, List.append_assoc]
  cases first.spaced with
  | false => exact onText
  | true =>
      have oneSpace : scan .start (gap true ++ (first.text ++ written more)) = gap true := by
        obtain ⟨point, rest, isText⟩ := List.exists_cons_of_ne_nil isPiece.several
        have noSpace : ¬Html.isMarkupBlank point := by
          have := isPiece.noSpace
          rwa [isText] at this
        have nothing : scan .space (first.text ++ written more) = [] := by
          rw [scan_space, isText]
          exact List.takeWhile_cons_of_neg noSpace
        exact scan_cons_eq_cons.mpr ⟨.space, rfl, nothing⟩
      exact (lexemes_append (List.cons_ne_nil _ _) oneSpace).trans (congrArg _ onText)

theorem tokensFrom_lexemes_written {tokens silent : List Token}
    (apart : (tokens ++ silent).IsChain Apart) (areTokens : ∀ token ∈ tokens, IsToken token.text)
    (arePieces : ∀ piece ∈ silent, IsPiece piece.text) :
    tokensFrom false (lexemes (written (tokens ++ silent))) =
      tokens ++ tokensFrom false (lexemes (written silent)) := by
  induction tokens with
  | nil => rfl
  | cons first more ih =>
      rw [List.forall_mem_cons] at areTokens
      obtain ⟨isToken, areTokens⟩ := areTokens
      have areMore : ∀ piece ∈ more ++ silent, IsPiece piece.text :=
        List.forall_mem_append.mpr ⟨fun token mem => (areTokens token mem).toIsPiece, arePieces⟩
      have read (spaced : Bool) :
          tokensFrom spaced (first.text :: lexemes (written (more ++ silent))) =
            ⟨spaced, first.text⟩ :: more ++ tokensFrom false (lexemes (written silent)) := by
        rw [tokensFrom, if_neg isToken.noComment, if_neg isToken.noSpace, ih apart.tail areTokens]
        rfl
      rw [List.cons_append] at apart ⊢
      rw [lexemes_written isToken.toIsPiece apart areMore]
      obtain ⟨spaced, text⟩ := first
      cases spaced with
      | false => exact read false
      | true => exact read true

theorem length_written_le (lexed : Lexed text parts) (spaced : Bool) :
    (written (tokensFrom spaced parts)).length ≤ spaced.toNat + text.length := by
  induction lexed generalizing spaced with
  | done => exact Nat.zero_le _
  | @next lexeme rest parts several read onRest ih =>
      have positive := List.length_pos_iff.mpr several
      rw [tokensFrom, List.length_append]
      split
      · have := ih spaced
        omega
      · split
        · have := ih true
          simp only [Bool.toNat_true] at this
          omega
        · have := ih false
          simp only [written_cons, Token.written, List.length_append, length_gap,
            Bool.toNat_false] at this ⊢
          omega

theorem Lexed.exists_dropWhile (lexed : Lexed text parts) (drop : Text → Bool) :
    ∃ rest, Lexed rest (parts.dropWhile drop) ∧ rest <:+ text := by
  induction lexed with
  | done => exact ⟨[], .done, List.suffix_rfl⟩
  | @next lexeme rest parts several read onRest ih =>
      cases dropped : drop lexeme with
      | true =>
          obtain ⟨left, lexed, isEnd⟩ := ih
          rw [List.dropWhile_cons_of_pos dropped]
          exact ⟨left, lexed, isEnd.trans (List.suffix_append _ _)⟩
      | false =>
          rw [List.dropWhile_cons_of_neg (by simp [dropped])]
          exact ⟨_, .next several read onRest, List.suffix_rfl⟩

/-- If tokens are as long as the text that they are read from, they are what it is written as, and
apart from each other. -/
theorem written_of_full (lexed : Lexed text parts) (spaced : Bool)
    (spaces : ∀ point ∈ text, Html.isMarkupBlank point → point = ' ')
    (full : spaced.toNat + text.length ≤ (written (tokensFrom spaced parts)).length) :
    written (tokensFrom spaced parts) = gap spaced ++ text ∧
      (tokensFrom spaced parts).IsChain Apart := by
  induction lexed generalizing spaced with
  | done =>
      cases spaced with
      | false => exact ⟨rfl, .nil⟩
      | true => exact absurd full (by decide)
  | @next lexeme rest parts several read onRest ih =>
      have positive := List.length_pos_iff.mpr several
      rw [List.forall_mem_append] at spaces
      rw [List.length_append] at full
      rw [tokensFrom] at full ⊢
      split at full
      · have := length_written_le onRest spaced
        omega
      · next noComment =>
        rw [if_neg noComment]
        split at full
        · next spacing =>
          rw [if_pos spacing]
          have short := length_written_le onRest true
          simp only [Bool.toNat_true] at short
          have unspaced : spaced = false := Bool.toNat_eq_zero.mp (by omega)
          obtain ⟨point, rfl⟩ := List.length_eq_one_iff.mp (show lexeme.length = 1 by omega)
          have isSpace : point = ' ' := spaces.1 point (List.mem_singleton_self _) spacing
          obtain ⟨isWritten, apart⟩ := ih true spaces.2 (by simpa using by omega)
          exact ⟨by simp [isWritten, unspaced, isSpace], apart⟩
        · next noSpace =>
          rw [if_neg noSpace]
          simp only [written_cons, Token.written, List.length_append, length_gap] at full
          obtain ⟨isWritten, apart⟩ := ih false spaces.2 (by simpa using by omega)
          rw [gap_false, List.nil_append] at isWritten
          refine ⟨by simp [written_cons, Token.written, isWritten], ?_⟩
          refine List.isChain_cons.mpr ⟨fun second isHead => ?_, apart⟩
          obtain ⟨more, isTokens⟩ := List.head?_eq_some_iff.mp isHead
          have begins : second.written <+: rest := by
            rw [← isWritten, isTokens, written_cons]
            exact List.prefix_append _ _
          exact scan_append read (.of_begins begins)

theorem tokens_head? (text : Text) : ∀ token ∈ (tokens text).head?, token.spaced = false := by
  intro token isHead
  rw [tokens] at isHead
  cases isMeant : (lexemes text).dropWhile isSkipped with
  | nil =>
      rw [isMeant] at isHead
      cases isHead
  | cons lexeme rest =>
      have stays := List.head?_dropWhile_not isSkipped (lexemes text)
      simp only [isMeant, List.head?_cons, isSkipped, Bool.or_eq_false_iff] at stays
      rw [isMeant, tokensFrom, if_neg (by simp [stays.1]), if_neg (by simp [stays.2])] at isHead
      cases isHead
      rfl

theorem isToken_of_mem_tokens (text : Text) : ∀ token ∈ tokens text, IsToken token.text := by
  obtain ⟨rest, lexed, -⟩ := (lexed_lexemes text).exists_dropWhile isSkipped
  exact isToken_of_mem lexed

theorem tokensFrom_of_skipped (areSkipped : ∀ part ∈ parts, isSkipped part) (spaced : Bool) :
    tokensFrom spaced parts = [] := by
  induction parts generalizing spaced with
  | nil => rfl
  | cons part parts ih =>
      rw [List.forall_mem_cons, isSkipped, Bool.or_eq_true] at areSkipped
      rw [tokensFrom]
      split
      · exact ih areSkipped.2 _
      · next noComment =>
          rw [if_pos (areSkipped.1.resolve_left noComment)]
          exact ih areSkipped.2 _

/-- Tokens that are apart from each other and from what follows are read back in front of it, if it
holds no other tokens. -/
theorem tokens_written {text : Text} {silent : List Token}
    (apart : (tokens text ++ silent).IsChain Apart)
    (arePieces : ∀ piece ∈ silent, IsPiece piece.text)
    (areSkipped : ∀ lexeme ∈ lexemes (written silent), isSkipped lexeme) :
    tokens (written (tokens text ++ silent)) = tokens text := by
  have areTokens := isToken_of_mem_tokens text
  have unspaced := tokens_head? text
  generalize tokens text = ts at apart areTokens unspaced ⊢
  have read := tokensFrom_lexemes_written apart areTokens arePieces
  rw [tokensFrom_of_skipped areSkipped, List.append_nil] at read
  cases ts with
  | nil => rw [List.nil_append, tokens, List.dropWhile_eq_nil_iff.mpr areSkipped, tokensFrom]
  | cons first more =>
      rw [List.forall_mem_cons] at areTokens
      have areMore : ∀ piece ∈ more ++ silent, IsPiece piece.text :=
        List.forall_mem_append.mpr ⟨fun token mem => (areTokens.2 token mem).toIsPiece, arePieces⟩
      rw [List.cons_append] at apart read ⊢
      have isFirst := lexemes_written areTokens.1.toIsPiece apart areMore
      rw [if_neg (by simp [unspaced first rfl]), List.nil_append] at isFirst
      have meant : isSkipped first.text = false := by
        simp [isSkipped, areTokens.1.noComment, areTokens.1.noSpace]
      rw [tokens, isFirst, List.dropWhile_cons_of_neg (by simp [meant]), ← isFirst, read]

end Writing

end ComponentInliner.StyleSheet
