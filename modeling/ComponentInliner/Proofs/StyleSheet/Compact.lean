import ComponentInliner.Proofs.StyleSheet.Pairs

/-!
# Tokens of compact style sheets

Writing a style sheet compactly takes no notice of where strings begin and end. As long as comments
only stand between tokens, what is left are the tokens, the white space between them and a comment
at the end that is not closed (`compact_eq_written`). So there are two ways in which tokens get
lost: white space within a token is tidied like any other, and where a comment kept two tokens
apart, the first one may run into the second. Tokens that neither happens to are read back, and no
others: without a comment at the end, tokens that are read back are as long as the whole text
(`written_tokens_of_full`); with one, see `InFront.written_of_tokens`.
-/

namespace ComponentInliner.StyleSheet

/-- Tokens that are as long as a tidy text are what it is written as, and apart from each other. -/
theorem written_tokens_of_full {text : Text} (tidy : IsTidy text)
    (full : text.length ≤ (written (tokens text)).length) :
    written (tokens text) = text ∧ (tokens text).IsChain Apart := by
  obtain ⟨rest, lexed, isEnd⟩ := (lexed_lexemes text).exists_dropWhile isSkipped
  have short : (written (tokens text)).length ≤ false.toNat + rest.length :=
    length_written_le lexed false
  rw [Bool.toNat_false, Nat.zero_add] at short
  have isAll : rest = text := isEnd.eq_of_length_le (by omega)
  rw [isAll] at lexed
  exact written_of_full lexed false
    (fun point mem isSpace => tidy.spaces point mem (isBlank_of_isMarkupBlank isSpace))
    (by rw [Bool.toNat_false, Nat.zero_add]; exact full)

/-- If the comments of a style sheet are closed, its tokens are read back exactly if there is
nothing to tidy in them and each is apart from the next. -/
theorem tokens_tidied_iff {style : Text} :
    tokens (tidied (written (tokens style))) = tokens style ↔
      IsTidy (written (tokens style)) ∧ (tokens style).IsChain Apart := by
  constructor
  · intro same
    have tidy : IsTidy (tidied (written (tokens style))) := isTidy_tidied _
    have full : (tidied (written (tokens style))).length ≤
        (written (tokens (tidied (written (tokens style))))).length := by
      rw [same]
      exact length_tidied_le _
    obtain ⟨isWritten, separate⟩ := written_tokens_of_full tidy full
    rw [same] at isWritten separate
    exact ⟨isWritten ▸ tidy, separate⟩
  · rintro ⟨tidy, separate⟩
    have read := @tokens_written style [] (by rwa [List.append_nil]) nofun nofun
    rwa [List.append_nil, ← tidied_eq_self_iff.mpr tidy] at read

/-- The same in front of a comment that is not closed. White space in front of that comment may be
left out, since it stands between no two tokens. -/
theorem InFront.tokens_tidied_iff {style comment : Text} {spaced : Bool}
    (inFront : InFront (tokens style) spaced comment) :
    tokens (tidied (written (tokens style) ++ (gap spaced ++ comment))) = tokens style ↔
      IsTidy (written (tokens style) ++ comment) ∧ (tokens style).IsChain Apart := by
  constructor
  · intro same
    have tidy : IsTidy (tidied (written (tokens style) ++ (gap spaced ++ comment))) :=
      isTidy_tidied _
    have collapsed : tidied (written (tokens style) ++ (gap spaced ++ comment)) =
        collapseBlanks true (written (tokens style) ++ (gap spaced ++ comment)) := by
      rw [← List.append_assoc, inFront.tidied_append,
        collapseBlanks_append true (written (tokens style) ++ gap spaced),
        collapseBlanks_of_tidy inFront.tidy]
    obtain ⟨other, isWritten, separate⟩ := inFront.written_of_tokens collapsed same
    rw [isWritten] at tidy
    exact ⟨inFront.isTidy_written tidy, separate⟩
  · rintro ⟨tidy, separate⟩
    obtain ⟨other, isWritten⟩ := inFront.tidied_written tidy
    rw [isWritten]
    exact tokens_written_comment inFront separate other

/-- If no comment begins within a token, a style sheet is compactly written as its tokens and, if
its last comment is not closed, that comment. White space in tokens is tidied no less than between
them. The same tokens are read back exactly if there is nothing to tidy in them and each is apart
from the next. -/
theorem tokens_compact_iff {style : Text} (apart : CommentsApart (lexemes style)) :
    compact style = tidied (written (tokens style) ++ ending style) ∧
      (tokens (compact style) = tokens style ↔
        IsTidy (written (tokens style) ++ tidied (ending style)) ∧
          (tokens style).IsChain Apart) := by
  have isCompact := compact_eq_written apart
  refine ⟨isCompact, ?_⟩
  rw [isCompact]
  rcases ending_cases apart with nothing | ⟨spaced, comment, isEnding, inFront⟩
  · have isNothing : tidied ([] : Text) = [] := rfl
    rw [nothing, isNothing, List.append_nil]
    exact tokens_tidied_iff
  · have isComment : tidied (gap spaced ++ comment) = comment := by
      rw [tidied_append (gap_blank spaced), tidied_eq_self_iff.mpr inFront.tidy]
    rw [isEnding, isComment]
    exact inFront.tokens_tidied_iff

/-- A string, in which there is nothing to tidy, is kept as it is written, also in front of a
comment that is not closed. -/
theorem tokens_compact_content :
    let style : Text := "a::after /* x */ \x7b content:  \"a 'b\\\"\"; margin: -.5em \x7d /*  y"
    CommentsApart (lexemes style) ∧
      Text.ofString "\"a 'b\\\"\"" ∈ (tokens style).map Token.text ∧
      tokens (compact style) = tokens style := by
  intro style
  have apart : CommentsApart (lexemes style) := by decide
  exact ⟨apart, by decide, (tokens_compact_iff apart).2.mpr (by decide)⟩

/-- White space in a string, a comment in a string, and a comment that keeps two tokens apart. -/
theorem tokens_compact_ne :
    tokens (compact "a::after \x7b content: \"a  b\" \x7d") ≠
        tokens "a::after \x7b content: \"a  b\" \x7d" ∧
      tokens (compact "a::after \x7b content: \"/* x */\" \x7d") ≠
        tokens "a::after \x7b content: \"/* x */\" \x7d" ∧
      tokens (compact "a/**/b \x7b\x7d") ≠ tokens "a/**/b \x7b\x7d" := by
  decide

end ComponentInliner.StyleSheet
