import ComponentInliner.Proofs.Script.Escapes
import ComponentInliner.Proofs.Text.Scalars
import ComponentInliner.Script.Production

/-!
# Bodies of literals

How the characters between the marks of a literal divide into pieces, said without the scanner:
`IsBody` reads characters that stand for themselves and escape sequences one after the other. The
scanner finds exactly these pieces, whatever follows the closing mark (`Closing.scanBody_iff`,
`scanString_of_isBody`, `scanTemplate_iff`).

The text of a body is put together character by character: `pieceTexts_consRaw` is the step for a
character that stands for itself.
-/

namespace ComponentInliner.Script

/--
The characters of a body with its pieces. `ordinary` tells which characters stand for themselves,
in view of those that follow in the body.
-/
inductive IsBody (ordinary : Char → List Char → Prop) : List Char → List LiteralPiece → Prop
  | nil : IsBody ordinary [] []
  | raw {character : Char} {characters : List Char} {pieces : List LiteralPiece}
      (isOrdinary : ordinary character characters) (isBody : IsBody ordinary characters pieces) :
      IsBody ordinary (character :: characters) (consRaw character pieces)
  | escape {body characters : List Char} {pieces : List LiteralPiece}
      (isEscape : IsEscape body characters) (isBody : IsBody ordinary characters pieces) :
      IsBody ordinary ('\\' :: (body ++ characters))
        (.escape (body.map CodePoint.ofChar) :: pieces)

theorem IsBody.of_raw {ordinary : Char → List Char → Prop} {character : Char}
    {characters : List Char} {pieces : List LiteralPiece}
    (isBody : IsBody ordinary (character :: characters) pieces) (notEscape : character ≠ '\\') :
    ∃ rest, pieces = consRaw character rest ∧ IsBody ordinary characters rest := by
  cases isBody with
  | raw _ isRest => exact ⟨_, rfl, isRest⟩
  | escape => exact absurd rfl notEscape

theorem IsBody.of_escape {ordinary : Char → List Char → Prop} {body following : List Char}
    {pieces : List LiteralPiece} (isBody : IsBody ordinary ('\\' :: (body ++ following)) pieces)
    (isEscape : IsEscape body following) (never : ∀ characters, ¬ordinary '\\' characters) :
    ∃ rest, pieces = .escape (body.map CodePoint.ofChar) :: rest ∧
      IsBody ordinary following rest := by
  generalize whole : '\\' :: (body ++ following) = source at isBody
  cases isBody with
  | nil => cases whole
  | raw isOrdinary =>
      obtain ⟨rfl, rfl⟩ := List.cons.inj whole
      exact absurd isOrdinary (never _)
  | escape isOther isRest =>
      obtain ⟨rfl, rfl⟩ := isEscape.unique isOther (List.cons.inj whole).2
      exact ⟨_, rfl, isRest⟩

/-- A closing of a body: it ends the body, nothing of it is drawn in by an escape sequence before
it, and the characters that the scanner lets stand for themselves before it are ordinary. -/
structure Closing (atEnd : List Char → Bool) (allowed : Char → Bool)
    (ordinary : Char → List Char → Prop) (closing : List Char) : Prop where
  nonempty : closing ≠ []
  ends : atEnd closing = true
  notDrawnIn : ∀ next ∈ closing.head?, ¬isDrawnIn next = true
  noneEndsInside : ∀ characters, ¬atEnd ('\\' :: characters) = true
  ordinary_iff : ∀ character characters, ordinary character characters ↔
    character ≠ '\\' ∧ ¬atEnd (character :: (characters ++ closing)) = true ∧
      allowed character = true

section Scanning

variable {atEnd : List Char → Bool} {allowed : Char → Bool} {ordinary : Char → List Char → Prop}
  {characters closing : List Char} {pieces : List LiteralPiece}

/-- The scanner takes an escape sequence of known length as it stands. -/
theorem scanBody_escape {body : List Char} (nonempty : body ≠ []) (before rest : List Char) :
    scanBody atEnd allowed body.length before (body ++ rest) =
      (scanBody atEnd allowed 0 [] rest).map
        (LiteralBody.consEscape (before.reverse ++ body)) := by
  induction body generalizing before with
  | nil => exact absurd rfl nonempty
  | cons first more ih =>
      cases more with
      | nil => simp [scanBody]
      | cons second later =>
          have onMore := ih (List.cons_ne_nil _ _) (first :: before)
          rw [List.reverse_cons, List.append_assoc, List.singleton_append] at onMore
          rw [← onMore]
          rfl

theorem scanBody_end (closes : atEnd closing = true) (nonempty : closing ≠ []) :
    scanBody atEnd allowed 0 [] closing = some ⟨[], [], closing⟩ := by
  obtain ⟨first, rest, rfl⟩ := List.exists_cons_of_ne_nil nonempty
  rw [scanBody, if_pos closes]

theorem scanBody_raw {character : Char} {rest : List Char}
    (notEnd : ¬atEnd (character :: rest) = true) (notEscape : character ≠ '\\')
    (isAllowed : allowed character = true) :
    scanBody atEnd allowed 0 [] (character :: rest) =
      (scanBody atEnd allowed 0 [] rest).map (LiteralBody.consRaw character) := by
  rw [scanBody, if_neg notEnd, if_neg notEscape, if_pos isAllowed]

theorem scanBody_backslash {body following : List Char}
    (notEnd : ¬atEnd ('\\' :: (body ++ following)) = true) (isEscape : IsEscape body following) :
    scanBody atEnd allowed 0 [] ('\\' :: (body ++ following)) =
      (scanBody atEnd allowed 0 [] following).map (LiteralBody.consEscape body) := by
  rw [scanBody, if_neg notEnd, if_pos rfl, isEscape.escapeLength]
  exact scanBody_escape isEscape.ne_nil [] following

namespace Closing

variable (close : Closing atEnd allowed ordinary closing)

include close

/-- What follows an escape sequence in a body may also be followed by the closing. -/
theorem isEscape_append {body : List Char} :
    IsEscape body (characters ++ closing) ↔ IsEscape body characters :=
  ⟨fun isEscape => isEscape.of_append, fun isEscape => isEscape.append close.notDrawnIn⟩

theorem scanBody_of_isBody (isBody : IsBody ordinary characters pieces) :
    scanBody atEnd allowed 0 [] (characters ++ closing) =
      some ⟨pieces, characters, closing⟩ := by
  induction isBody with
  | nil => exact scanBody_end close.ends close.nonempty
  | @raw character characters pieces isOrdinary _ ih =>
      obtain ⟨notEscape, notEnd, isAllowed⟩ := (close.ordinary_iff _ _).mp isOrdinary
      rw [List.cons_append, scanBody_raw notEnd notEscape isAllowed, ih]
      rfl
  | @escape body characters pieces isEscape _ ih =>
      rw [List.cons_append, List.append_assoc,
        scanBody_backslash (close.noneEndsInside _) (close.isEscape_append.mpr isEscape), ih]
      rfl

theorem isBody_of_scanBody
    (scanned : scanBody atEnd allowed 0 [] (characters ++ closing) =
      some ⟨pieces, characters, closing⟩) : IsBody ordinary characters pieces := by
  induction size : characters.length using Nat.strong_induction_on
    generalizing characters pieces with
  | h length ih =>
    subst size
    cases characters with
    | nil =>
        have ended : scanBody atEnd allowed 0 [] closing = some ⟨[], [], closing⟩ :=
          scanBody_end close.ends close.nonempty
        cases ended.symm.trans scanned
        exact .nil
    | cons character rest =>
        rw [List.cons_append, scanBody] at scanned
        split at scanned
        case isTrue => cases scanned
        case isFalse notEnd =>
        split at scanned
        case isTrue isBackslash =>
          subst isBackslash
          split at scanned
          case h_2 => cases scanned
          case h_1 length found =>
            obtain ⟨body, following, split, rfl, isEscape⟩ := exists_isEscape found
            rw [split, scanBody_escape isEscape.ne_nil] at scanned
            obtain ⟨⟨laterPieces, later, after⟩, onLater, whole⟩ :=
              Option.map_eq_some_iff.mp scanned
            cases whole
            obtain rfl : later ++ after = following := by simpa using split
            have isShorter : later.length < ('\\' :: (body ++ later)).length := by
              simp only [List.length_cons, List.length_append]
              omega
            exact .escape (close.isEscape_append.mp isEscape) (ih _ isShorter onLater rfl)
        case isFalse notEscape =>
          split at scanned
          case isFalse => cases scanned
          case isTrue isAllowed =>
            obtain ⟨⟨laterPieces, later, after⟩, onLater, whole⟩ :=
              Option.map_eq_some_iff.mp scanned
            cases whole
            exact .raw ((close.ordinary_iff _ _).mpr ⟨notEscape, notEnd, isAllowed⟩)
              (ih _ (Nat.lt_succ_self _) onLater rfl)

/-- The scanner finds the pieces of a body, and finds no other bodies. -/
theorem scanBody_iff : scanBody atEnd allowed 0 [] (characters ++ closing) =
    some ⟨pieces, characters, closing⟩ ↔ IsBody ordinary characters pieces :=
  ⟨close.isBody_of_scanBody, close.scanBody_of_isBody⟩

end Closing

end Scanning

section Marks

variable {characters closing rest : List Char} {pieces : List LiteralPiece}

/-- The marks of strings. -/
def IsQuote (mark : Char) : Prop :=
  mark = '"' ∨ mark = '\''

/-- A character stands for itself in a string. -/
def StandsInString (mark character : Char) (_following : List Char) : Prop :=
  character ≠ '\\' ∧ character ≠ mark ∧ character ≠ '\n' ∧ character ≠ '\r'

/-- A character stands for itself in a template. -/
def StandsInTemplate (character : Char) (following : List Char) : Prop :=
  character ≠ '\\' ∧ character ≠ '\x60' ∧ (character = '$' → following.head? ≠ some '{')

/-- The closing of a stretch of a template. -/
inductive EndsStretch : List Char → Prop
  | backtick (rest : List Char) : EndsStretch ('\x60' :: rest)
  | substitution (rest : List Char) : EndsStretch ('$' :: '{' :: rest)

theorem scanString_iff {mark : Char} (isQuote : IsQuote mark) :
    scanString mark (characters ++ mark :: rest) = some ⟨pieces, characters, mark :: rest⟩ ↔
      IsBody (StandsInString mark) characters pieces := by
  have plain : ¬isDrawnIn mark = true ∧ mark ≠ '\\' := by
    rcases isQuote with rfl | rfl <;> decide
  apply Closing.scanBody_iff
  refine ⟨List.cons_ne_nil _ _, by simp, ?_, ?_, ?_⟩
  · intro next isNext
    cases isNext
    exact plain.1
  · intro characters
    simpa using plain.2.symm
  · intro character characters
    simp [StandsInString]

theorem scanTemplate_iff (closes : EndsStretch closing) :
    scanTemplate (characters ++ closing) = some ⟨pieces, characters, closing⟩ ↔
      IsBody StandsInTemplate characters pieces := by
  apply Closing.scanBody_iff
  refine ⟨?_, ?_, ?_, ?_, ?_⟩
  · cases closes <;> exact List.cons_ne_nil _ _
  · cases closes <;> rfl
  · intro next isNext
    cases closes <;> cases isNext <;> decide
  · intro characters
    exact Bool.false_ne_true
  · intro character characters
    have onHead : (characters ++ closing).head? = some '{' ↔ characters.head? = some '{' := by
      cases characters with
      | nil => cases closes <;> simp
      | cons first rest => rfl
    rw [StandsInTemplate, ne_eq (characters.head?), ← onHead]
    split
    case h_1 isBacktick => simp [(List.cons.inj isBacktick).1]
    case h_2 isSubstitution =>
      obtain ⟨rfl, isBrace⟩ := List.cons.inj isSubstitution
      simp [isBrace]
    case h_3 noBacktick noSubstitution =>
      have notBacktick : character ≠ '\x60' := by
        rintro rfl
        exact noBacktick _ rfl
      have notOpening : character = '$' → ¬(characters ++ closing).head? = some '{' := by
        rintro rfl isBrace
        obtain ⟨rest, isRest⟩ := List.head?_eq_some_iff.mp isBrace
        exact noSubstitution rest (by rw [isRest])
      exact ⟨fun stands => ⟨stands.1, Bool.false_ne_true, rfl⟩,
        fun stands => ⟨stands.1, notBacktick, notOpening⟩⟩

/-- The pieces of a stretch of a template are determined by it. -/
theorem IsBody.eq_of_template {other : List LiteralPiece}
    (isBody : IsBody StandsInTemplate characters pieces)
    (isOther : IsBody StandsInTemplate characters other) : pieces = other := by
  have closes : EndsStretch ['\x60'] := .backtick []
  have scanned := (scanTemplate_iff closes).mpr isBody
  cases scanned.symm.trans ((scanTemplate_iff closes).mpr isOther)
  rfl

/-- What holds of the pieces of a stretch holds of all there could be. -/
theorem IsBody.forall_iff {property : List LiteralPiece → Prop}
    (isBody : IsBody StandsInTemplate characters pieces) :
    (∀ other, IsBody StandsInTemplate characters other → property other) ↔ property pieces := by
  constructor
  · exact fun all => all pieces isBody
  · intro holds other isOther
    rwa [← isBody.eq_of_template isOther]

end Marks

section Texts

variable {readRaw : Text → Text} {pieces : List LiteralPiece} {character : Char}

theorem map_append_append (outcome : Except LiteralFault Text) (first second : Text) :
    (outcome.map (second ++ ·)).map (first ++ ·) = outcome.map (first ++ second ++ ·) := by
  cases outcome with
  | error fault => rfl
  | ok text => exact congrArg Except.ok (List.append_assoc _ _ _).symm

/-- The raw text that pieces begin with. -/
def leadingText : List LiteralPiece → Text
  | .raw text :: _ => text
  | _ => []

/-- The pieces behind the raw text that pieces begin with. -/
def piecesBehind : List LiteralPiece → List LiteralPiece
  | .raw _ :: rest => rest
  | pieces => pieces

theorem consRaw_eq (character : Char) (pieces : List LiteralPiece) :
    consRaw character pieces =
      .raw (CodePoint.ofChar character :: leadingText pieces) :: piecesBehind pieces := by
  rcases pieces with _ | ⟨text | body, rest⟩ <;> rfl

theorem pieceTexts_leading (nothing : readRaw [] = []) (pieces : List LiteralPiece) :
    pieceTexts readRaw pieces =
      (pieceTexts readRaw (piecesBehind pieces)).map (readRaw (leadingText pieces) ++ ·) := by
  have unchanged (outcome : Except LiteralFault Text) :
      outcome.map (readRaw [] ++ ·) = outcome := by
    rw [nothing]
    cases outcome <;> rfl
  rcases pieces with _ | ⟨text | body, rest⟩
  · exact (unchanged _).symm
  · rfl
  · exact (unchanged _).symm

/-- What a character that stands for itself adds to the text of the pieces behind it. -/
theorem pieceTexts_consRaw (nothing : readRaw [] = []) {added : Text}
    (adds : readRaw (CodePoint.ofChar character :: leadingText pieces) =
      added ++ readRaw (leadingText pieces)) :
    pieceTexts readRaw (consRaw character pieces) =
      (pieceTexts readRaw pieces).map (added ++ ·) := by
  rw [pieceTexts_leading nothing pieces, map_append_append, consRaw_eq, pieceTexts, adds]
  rfl

theorem pieceTexts_escape {body decoded : Text} (decodes : decodeEscape body = .ok decoded) :
    pieceTexts readRaw (.escape body :: pieces) =
      (pieceTexts readRaw pieces).map (decoded ++ ·) := by
  rw [pieceTexts, decodes]
  rfl

theorem pieceTexts_continuation {body : Text} (mem : body ∈ lineContinuations) :
    pieceTexts readRaw (.escape body :: pieces) = pieceTexts readRaw pieces := by
  rw [pieceTexts_escape (decodeEscape_continuation mem)]
  cases pieceTexts readRaw pieces <;> rfl

theorem unifyLineEndings_cons {point : CodePoint} (notReturn : point ≠ CodePoint.ofChar '\r')
    (text : Text) : Text.unifyLineEndings (point :: text) = point :: text.unifyLineEndings := by
  cases text with
  | nil => exact if_neg notReturn
  | cons next rest => exact if_neg notReturn

/-- A carriage return before a line feed is left out, and any other one becomes a line feed. -/
theorem unifyLineEndings_return (text : Text) :
    Text.unifyLineEndings (CodePoint.ofChar '\r' :: text) =
      if text.head? = some (CodePoint.ofChar '\n') then text.unifyLineEndings
      else CodePoint.ofChar '\n' :: text.unifyLineEndings := by
  cases text with
  | nil => rfl
  | cons next rest =>
      by_cases isLineFeed : next = CodePoint.ofChar '\n'
      · subst isLineFeed
        exact (unifyLineEndings_cons (by decide) rest).symm
      · have notHead : ¬(next :: rest).head? = some (CodePoint.ofChar '\n') :=
          fun same => isLineFeed (Option.some_inj.mp same)
        rw [if_neg notHead]
        exact if_neg isLineFeed

theorem pieceTexts_unify (notReturn : character ≠ '\r') (pieces : List LiteralPiece) :
    pieceTexts Text.unifyLineEndings (consRaw character pieces) =
      (pieceTexts Text.unifyLineEndings pieces).map ([CodePoint.ofChar character] ++ ·) :=
  pieceTexts_consRaw rfl (unifyLineEndings_cons (CodePoint.ofChar_injective.ne notReturn) _)

theorem pieceTexts_return (noFeed : (leadingText pieces).head? ≠ some (CodePoint.ofChar '\n')) :
    pieceTexts Text.unifyLineEndings (consRaw '\r' pieces) =
      (pieceTexts Text.unifyLineEndings pieces).map ([CodePoint.ofChar '\n'] ++ ·) := by
  refine pieceTexts_consRaw rfl ?_
  rw [unifyLineEndings_return, if_neg noFeed]
  rfl

theorem pieceTexts_returnAndFeed (pieces : List LiteralPiece) :
    pieceTexts Text.unifyLineEndings (consRaw '\r' (consRaw '\n' pieces)) =
      (pieceTexts Text.unifyLineEndings pieces).map ([CodePoint.ofChar '\n'] ++ ·) := by
  have isFeed : (leadingText (consRaw '\n' pieces)).head? = some (CodePoint.ofChar '\n') := by
    rw [consRaw_eq]
    rfl
  have adds : Text.unifyLineEndings
      (CodePoint.ofChar '\r' :: leadingText (consRaw '\n' pieces)) =
        [] ++ (leadingText (consRaw '\n' pieces)).unifyLineEndings := by
    rw [unifyLineEndings_return, if_pos isFeed]
    rfl
  rw [pieceTexts_consRaw rfl adds, pieceTexts_unify (by decide), map_append_append]
  rfl

/-- Pieces begin with the character that their body begins with, if it is no backslash. -/
theorem IsBody.head?_leadingText {ordinary : Char → List Char → Prop} {characters : List Char}
    (isBody : IsBody ordinary characters pieces) (notEscape : character ≠ '\\') :
    (leadingText pieces).head? = some (CodePoint.ofChar character) ↔
      characters.head? = some character := by
  cases isBody with
  | nil => exact ⟨nofun, nofun⟩
  | raw =>
      rw [consRaw_eq, leadingText, List.head?_cons, List.head?_cons, Option.some_inj,
        Option.some_inj, CodePoint.ofChar_injective.eq_iff]
  | escape =>
      rw [List.head?_cons, Option.some_inj]
      exact ⟨nofun, fun same => absurd same.symm notEscape⟩

end Texts

section Productions

variable {source : List Char} {pieces : List LiteralPiece}

theorem stringLiteral_run {mark : Char} (isQuote : IsQuote mark)
    (isBody : IsBody (StandsInString mark) source pieces) (offset : Nat) (rest : List Char) :
    stringLiteral.run (Cursor.after (mark :: (source ++ mark :: rest)) offset) =
      some ((⟨offset, offset + 2 + byteCount source⟩,
        (mark :: (source ++ [mark])).map CodePoint.ofChar, pieces),
        Cursor.after rest (offset + 2 + byteCount source)) := by
  have scanned : scanString mark (source ++ mark :: rest) = some ⟨pieces, source, mark :: rest⟩ :=
    (scanString_iff isQuote).mpr isBody
  have started : Cursor.after (mark :: (source ++ mark :: rest)) offset =
      ⟨mark :: (source ++ mark :: rest), offset, offset, false, .quote mark,
        .inr (by rcases isQuote with rfl | rfl <;> rfl)⟩ := by
    rcases isQuote with rfl | rfl <;> rfl
  rw [started]
  simp [stringLiteral, Parser.token, scanned]

theorem templateStretch_last (isBody : IsBody StandsInTemplate source pieces) (offset : Nat)
    (rest : List Char) (cursor : Cursor) :
    (templateStretch (source ++ '\x60' :: rest) offset).run cursor =
      some ((pieces, true), Cursor.after rest (offset + byteCount source + 1)) := by
  have scanned := (scanTemplate_iff (.backtick rest)).mpr isBody
  unfold templateStretch
  rw [scanned]
  rfl

theorem templateStretch_between (isBody : IsBody StandsInTemplate source pieces) (offset : Nat)
    (rest : List Char) (cursor : Cursor) :
    (templateStretch (source ++ '$' :: '{' :: rest) offset).run cursor =
      some ((pieces, false), Cursor.opened rest (offset + byteCount source + 2)) := by
  have scanned := (scanTemplate_iff (.substitution rest)).mpr isBody
  unfold templateStretch
  rw [scanned]
  rfl

end Productions

end ComponentInliner.Script
