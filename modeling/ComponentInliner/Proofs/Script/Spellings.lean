import ComponentInliner.Module.Fold
import ComponentInliner.Module.Parse
import ComponentInliner.Proofs.Script.Bodies
import ComponentInliner.Proofs.Script.CodeUnits
import ComponentInliner.Proofs.Script.Templates
import ComponentInliner.Script.Parse

/-!
# Spellings

The ways to write a text as a string, or as a template without substitutions: `Spells` writes it
character by character, each as it is or by an escape sequence of any form, with line
continuations wherever the writer likes. All of them are read back as the same text
(`primary_spells`).

What is read back is first compared by code units (`Quotation.Cooks`), because a character outside
the basic plane may be written by halves; that makes no difference to the text itself, which is
canonical.
-/

namespace ComponentInliner.Script

/-- The marks between which a text is written. -/
inductive Quotation where
  | single
  | double
  | backtick
  deriving DecidableEq

namespace Quotation

def mark : Quotation → Char
  | single => '\''
  | double => '"'
  | backtick => '\x60'

/-- The characters that stand for themselves between the marks. -/
def Stands : Quotation → Char → List Char → Prop
  | backtick => StandsInTemplate
  | quotation => StandsInString quotation.mark

/-- What becomes of raw text between the marks. -/
def readRaw : Quotation → Text → Text
  | backtick => Text.unifyLineEndings
  | _ => id

/-- The text that the pieces between the marks stand for. -/
def cook : Quotation → List LiteralPiece → Except LiteralFault Text
  | backtick => cookTemplate
  | _ => cookString

/-- The literal with given pieces between the marks. -/
def expression (quotation : Quotation) (span : Span) (literal : Text)
    (pieces : List LiteralPiece) : Expression :=
  match quotation with
  | backtick => .template span pieces []
  | _ => .string span literal pieces

/-- The literal with a given text. -/
def node (quotation : Quotation) (span : Span) (literal text : Text) : Node :=
  match quotation with
  | backtick => .template span text []
  | _ => .literal span (.string text) literal

end Quotation

/-! ## Writing -/

/-- The letters that stand for a control character behind a backslash. -/
def controlLetters : List (Char × Char) :=
  [('b', '\x08'), ('f', '\x0c'), ('n', '\n'), ('r', '\r'), ('t', '\t'), ('v', '\x0b')]

/-- The line endings that may stand behind a backslash. -/
def lineEndings : List (List Char) :=
  [['\r', '\n'], ['\n'], ['\r'], ['\u2028'], ['\u2029']]

/-- A character stands for itself behind a backslash. -/
def IsPlain (character : Char) : Prop :=
  character ≠ 'x' ∧ character ≠ 'u' ∧ ¬character.isDigit = true ∧
    character ∉ controlLetters.map Prod.fst ∧ [character] ∉ lineEndings

/-- The ways to write a character by escape sequences, whatever follows. -/
inductive Escapes (character : Char) : List Char → Prop
  | control {letter : Char} (mem : (letter, character) ∈ controlLetters) :
      Escapes character ['\\', letter]
  | plain (isPlain : IsPlain character) : Escapes character ['\\', character]
  | byte {digits : List Char} (two : digits.length = 2)
      (spells : SpellsHexadecimal (digits.map CodePoint.ofChar) character.toNat) :
      Escapes character ('\\' :: 'x' :: digits)
  /-- One escape sequence for each code unit. -/
  | units {bodies : List (List Char)}
      (spell : List.Forall₂ SpellsUnit (bodies.map (List.map CodePoint.ofChar))
        (CodePoint.ofChar character).units) :
      Escapes character (bodies.flatMap ('\\' :: ·))
  | braces {digits : List Char} (several : digits ≠ [])
      (spells : SpellsHexadecimal (digits.map CodePoint.ofChar) character.toNat) :
      Escapes character ('\\' :: 'u' :: '{' :: (digits ++ ['}']))

/-- A character may be written as it is: it is no backslash, mark or control character, and in a
template no dollar sign. -/
def Quotation.Admits (quotation : Quotation) (character : Char) : Prop :=
  character ≠ '\\' ∧ character ≠ quotation.mark ∧ 0x20 ≤ character.toNat ∧
    (quotation = .backtick → character ≠ '$')

/-- The ways to write a text between marks. -/
inductive Spells (quotation : Quotation) : List Char → List Char → Prop
  | nil : Spells quotation [] []
  | raw {character : Char} {text source : List Char} (admits : quotation.Admits character)
      (spells : Spells quotation text source) :
      Spells quotation (character :: text) (character :: source)
  | escaped {character : Char} {characters text source : List Char}
      (escapes : Escapes character characters) (spells : Spells quotation text source) :
      Spells quotation (character :: text) (characters ++ source)
  /-- The null character may be written by a zero that no digit follows. -/
  | null {text source : List Char} (noDigit : ∀ next ∈ source.head?, ¬next.isDigit = true)
      (spells : Spells quotation text source) :
      Spells quotation ('\x00' :: text) ('\\' :: '0' :: source)
  | continued {ending text source : List Char} (isEnding : ending ∈ lineEndings)
      (spells : Spells quotation text source) :
      Spells quotation text ('\\' :: (ending ++ source))

/--
No carriage return stands directly before a line or paragraph separator. The scanner takes the
two behind a backslash for one escape sequence.
-/
def KeepsSeparators (source : List Char) : Prop :=
  ∀ separator, IsSeparator separator → ¬['\r', separator] <:+: source

/-! ## Reading -/

section Reading

variable {quotation : Quotation} {character : Char} {source : List Char}
  {units : List CodeUnit}

/-- The code units that a body is read back as. -/
def Quotation.Cooks (quotation : Quotation) (source : List Char) (units : List CodeUnit) : Prop :=
  ∃ pieces text, IsBody quotation.Stands source pieces ∧
    pieceTexts quotation.readRaw pieces = .ok text ∧ text.units = units

theorem Quotation.pieceTexts_consRaw (quotation : Quotation) (notReturn : character ≠ '\r')
    (pieces : List LiteralPiece) : pieceTexts quotation.readRaw (consRaw character pieces) =
      (pieceTexts quotation.readRaw pieces).map ([CodePoint.ofChar character] ++ ·) := by
  cases quotation with
  | backtick => exact pieceTexts_unify notReturn pieces
  | single | double => exact Script.pieceTexts_consRaw rfl rfl

namespace Quotation.Cooks

theorem nil : quotation.Cooks [] [] :=
  ⟨[], [], .nil, rfl, rfl⟩

theorem raw (stands : quotation.Stands character source) (notReturn : character ≠ '\r')
    (cooks : quotation.Cooks source units) :
    quotation.Cooks (character :: source) ((CodePoint.ofChar character).units ++ units) := by
  obtain ⟨pieces, text, isBody, isText, rfl⟩ := cooks
  refine ⟨consRaw character pieces, CodePoint.ofChar character :: text, .raw stands isBody, ?_,
    Text.units_cons _⟩
  rw [quotation.pieceTexts_consRaw notReturn, isText]
  rfl

theorem escape {body : List Char} {decoded : Text} (isEscape : IsEscape body source)
    (decodes : decodeEscape (body.map CodePoint.ofChar) = .ok decoded)
    (cooks : quotation.Cooks source units) :
    quotation.Cooks ('\\' :: (body ++ source)) (decoded.units ++ units) := by
  obtain ⟨pieces, text, isBody, isText, rfl⟩ := cooks
  refine ⟨_, decoded ++ text, .escape isEscape isBody, ?_, Text.units_append _ _⟩
  rw [pieceTexts_escape decodes, isText]
  rfl

/-- What is read back of a character that stands for itself is the character. -/
theorem of_raw (notEscape : character ≠ '\\') (notReturn : character ≠ '\r')
    (cooks : quotation.Cooks (character :: source) units) :
    ∃ later, units = (CodePoint.ofChar character).units ++ later ∧
      quotation.Cooks source later := by
  obtain ⟨pieces, text, isBody, isText, rfl⟩ := cooks
  obtain ⟨rest, rfl, isRest⟩ := isBody.of_raw notEscape
  rw [quotation.pieceTexts_consRaw notReturn] at isText
  cases onRest : pieceTexts quotation.readRaw rest with
  | error fault =>
      rw [onRest] at isText
      cases isText
  | ok restText =>
      rw [onRest] at isText
      cases isText
      exact ⟨restText.units, Text.units_cons _, rest, restText, isRest, onRest, rfl⟩

/-- A code unit that is spelled with four digits is read back. -/
theorem unit {body : List Char} {unit : CodeUnit}
    (spells : SpellsUnit (body.map CodePoint.ofChar) unit) (cooks : quotation.Cooks source units) :
    quotation.Cooks ('\\' :: (body ++ source)) (unit :: units) := by
  have isEscape : IsEscape body source := by
    obtain ⟨digits, isBody, four, areDigits⟩ := spells
    obtain ⟨letter, characters, rfl, isLetter, rfl⟩ := List.map_eq_cons_iff.mp isBody
    obtain rfl := CodePoint.ofChar_injective isLetter
    have areHexadecimal := areDigits.isHexDigit
    rw [List.length_map] at four
    match characters, four with
    | [first, second, third, fourth], _ =>
        exact .unit (areHexadecimal first (by simp)) (areHexadecimal second (by simp))
          (areHexadecimal third (by simp)) (areHexadecimal fourth (by simp))
  have read := escape isEscape spells.decodes cooks
  rwa [Text.units_singleton, units_ofUnit] at read

theorem several {bodies : List (List Char)} {spelled : List CodeUnit}
    (spell : List.Forall₂ SpellsUnit (bodies.map (List.map CodePoint.ofChar)) spelled)
    (cooks : quotation.Cooks source units) :
    quotation.Cooks (bodies.flatMap ('\\' :: ·) ++ source) (spelled ++ units) := by
  rw [List.forall₂_map_left_iff] at spell
  induction spell with
  | nil => exact cooks
  | cons spells _ ih =>
      rw [List.flatMap_cons, List.append_assoc]
      exact unit spells ih

end Quotation.Cooks

/-- A character with no part in a longer escape sequence is one by itself. -/
theorem IsEscape.lone (alone : character ≠ 'x' ∧ character ≠ 'u' ∧
      ¬isOctalDigit character = true ∧ character ≠ '\r' ∧ character ≠ '?') :
    IsEscape [character] source :=
  .single alone.1 alone.2.1 alone.2.2.1 fun _ _ isPair =>
    (isEscapedPair_iff.mp isPair).1.elim alone.2.2.2.1 alone.2.2.2.2

theorem isDigit_of_isOctalDigit (isOctal : isOctalDigit character = true) :
    character.isDigit = true := by
  simp only [isOctalDigit, Bool.and_eq_true, decide_eq_true_eq] at isOctal
  simp only [Char.isDigit, Bool.and_eq_true, decide_eq_true_eq]
  exact ⟨isOctal.1, isOctal.2.trans (by decide)⟩

theorem isBetween_octal :
    (CodePoint.ofChar character).isBetween '0' '7' = isOctalDigit character :=
  rfl

theorem controlEscapes_eq :
    controlEscapes = controlLetters.map fun entry => (entry.1, CodePoint.ofChar entry.2) :=
  rfl

theorem lineContinuations_eq : lineContinuations = lineEndings.map (List.map CodePoint.ofChar) :=
  rfl

namespace IsPlain

variable (isPlain : IsPlain character)

include isPlain

theorem not_isOctalDigit : ¬isOctalDigit character = true :=
  fun isOctal => isPlain.2.2.1 (isDigit_of_isOctalDigit isOctal)

theorem decodes : decodeEscape [CodePoint.ofChar character] = .ok [CodePoint.ofChar character] := by
  have notOctal := isPlain.not_isOctalDigit
  obtain ⟨notX, notU, -, notLetter, notEnding⟩ := isPlain
  refine decodeEscape_verbatim ?_ (CodePoint.ofChar_injective.ne notX)
    (CodePoint.ofChar_injective.ne notU) ?_ ?_
  · rw [lineContinuations_eq]
    intro mem
    obtain ⟨ending, isEnding, same⟩ := List.mem_map.mp mem
    obtain rfl : ending = [character] := CodePoint.ofChar_injective.list_map same
    exact notEnding isEnding
  · rwa [isBetween_octal]
  · intro entry mem same
    obtain rfl : character = entry.1 := CodePoint.ofChar_injective (List.cons.inj same).1
    rw [controlEscapes_eq] at mem
    obtain ⟨written, isWritten, rfl⟩ := List.mem_map.mp mem
    exact notLetter (List.mem_map_of_mem isWritten)

/-- A plain character behind a backslash is read back, also where the scanner takes what follows
along. -/
theorem cooks (cooks : quotation.Cooks source units) :
    quotation.Cooks ('\\' :: character :: source)
      ((CodePoint.ofChar character).units ++ units) := by
  by_cases alone : ∀ next ∈ source.head?, ¬isEscapedPair character next = true
  · have isEscape : IsEscape [character] source :=
      .single isPlain.1 isPlain.2.1 isPlain.not_isOctalDigit alone
    have read := cooks.escape isEscape isPlain.decodes
    rwa [Text.units_singleton] at read
  · push Not at alone
    obtain ⟨next, isNext, isPair⟩ := alone
    obtain ⟨later, rfl⟩ := List.head?_eq_some_iff.mp isNext
    have notReturn : character ≠ '\r' := by
      rintro rfl
      exact isPlain.2.2.2.2 (by decide)
    obtain ⟨isFirst, isBreak⟩ := isEscapedPair_iff.mp isPair
    obtain rfl : character = '?' := isFirst.resolve_left notReturn
    have notEscape : next ≠ '\\' ∧ next ≠ '\r' := by
      rcases isBreak with rfl | rfl | rfl <;> decide
    have decodes : decodeEscape (['?', next].map CodePoint.ofChar) =
        .ok (['?', next].map CodePoint.ofChar) := by
      rcases isBreak with rfl | rfl | rfl <;> rfl
    obtain ⟨unitsLater, rfl, onLater⟩ := cooks.of_raw notEscape.1 notEscape.2
    have read := onLater.escape (.pair isPair) decodes
    rw [List.map_cons, Text.units_cons, List.map_singleton, Text.units_cons, List.append_assoc,
      List.append_assoc] at read
    exact read

end IsPlain

/-- A line continuation is left out. -/
theorem Quotation.Cooks.continued {ending : List Char} (isEnding : ending ∈ lineEndings)
    (apart : ending = ['\r'] → ∀ next ∈ source.head?, ¬isEscapedPair '\r' next = true)
    (cooks : quotation.Cooks source units) :
    quotation.Cooks ('\\' :: (ending ++ source)) units := by
  have isContinuation : ending.map CodePoint.ofChar ∈ lineContinuations := by
    rw [lineContinuations_eq]
    exact List.mem_map_of_mem isEnding
  have isEscape : IsEscape ending source := by
    fin_cases isEnding
    · exact .pair (by decide)
    · exact .lone (by decide)
    · exact .single (by decide) (by decide) (by decide) (apart rfl)
    · exact .lone (by decide)
    · exact .lone (by decide)
  exact cooks.escape isEscape (decodeEscape_continuation isContinuation)

/-- A zero that no digit follows stands for the null character. -/
theorem Quotation.Cooks.null (noDigit : ∀ next ∈ source.head?, ¬next.isDigit = true)
    (cooks : quotation.Cooks source units) :
    quotation.Cooks ('\\' :: '0' :: source) ((CodePoint.ofChar '\x00').units ++ units) := by
  have isEscape : IsEscape ['0'] source := by
    refine .octal (by decide) nofun (Nat.zero_le _) fun _ next isNext isOctal => ?_
    exact noDigit next isNext (isDigit_of_isOctalDigit isOctal)
  have decodes : decodeEscape (['0'].map CodePoint.ofChar) = .ok [CodePoint.ofChar '\x00'] := rfl
  exact cooks.escape isEscape decodes

theorem codePointText_character (character : Char) :
    codePointText character.toNat = .ok [CodePoint.ofChar character] :=
  codePointText_of_lt (CodePoint.ofChar character).isLt

/-- A character that is written by escape sequences is read back. -/
theorem Escapes.cooks {characters : List Char} (escapes : Escapes character characters)
    (cooks : quotation.Cooks source units) :
    quotation.Cooks (characters ++ source) ((CodePoint.ofChar character).units ++ units) := by
  have single {body : List Char} (isEscape : IsEscape body source)
      (decodes : decodeEscape (body.map CodePoint.ofChar) = .ok [CodePoint.ofChar character]) :
      quotation.Cooks ('\\' :: (body ++ source)) ((CodePoint.ofChar character).units ++ units) := by
    have read := cooks.escape isEscape decodes
    rwa [Text.units_singleton] at read
  cases escapes with
  | @control letter mem =>
      have onTable : ∀ entry ∈ controlLetters, entry.1 ≠ 'x' ∧ entry.1 ≠ 'u' ∧
          ¬isOctalDigit entry.1 = true ∧ entry.1 ≠ '\r' ∧ entry.1 ≠ '?' := by decide
      have isListed : (letter, CodePoint.ofChar character) ∈ controlEscapes := by
        rw [controlEscapes_eq]
        exact List.mem_map.mpr ⟨_, mem, rfl⟩
      exact single (.lone (onTable _ mem)) (decodeEscape_control isListed)
  | plain isPlain => exact isPlain.cooks cooks
  | @byte digits two spells =>
      have isEscape : IsEscape ('x' :: digits) source := by
        have areHexadecimal := spells.isHexDigit
        match digits, two with
        | [first, second], _ =>
            exact .byte (areHexadecimal first (by simp)) (areHexadecimal second (by simp))
      refine single isEscape ?_
      rw [List.map_cons, decodeEscape_byte spells (by rw [List.length_map, two]),
        codePointText_character]
  | units spell => exact cooks.several spell
  | @braces digits several spells =>
      refine single (.braces spells.isHexDigit several) ?_
      rw [List.map_cons, List.map_cons, List.map_append, List.map_singleton, decodeEscape_braces,
        numeralText_of_spells spells (by simpa using several), codePointText_character]

section Texts

variable {text : List Char}

theorem Escapes.head? {characters : List Char} (escapes : Escapes character characters) :
    ∀ next ∈ characters.head?, next = '\\' := by
  intro next isNext
  cases escapes with
  | @units bodies spell =>
      cases bodies with
      | nil => cases isNext
      | cons body rest => exact (Option.some_inj.mp isNext).symm
  | _ => exact (Option.some_inj.mp isNext).symm

/-- What is written does not begin with a control character. -/
theorem Spells.notControl (spells : Spells quotation text source) :
    ∀ next ∈ source.head?, 0x20 ≤ next.toNat := by
  intro next isNext
  have onBackslash : 0x20 ≤ '\\'.toNat := by decide
  induction spells with
  | nil => cases isNext
  | raw admits =>
      cases isNext
      exact admits.2.2.1
  | @escaped character characters text source escapes _ ih =>
      cases characters with
      | nil => exact ih isNext
      | cons first rest =>
          cases isNext
          obtain rfl := escapes.head? next rfl
          exact onBackslash
  | null | continued =>
      cases isNext
      exact onBackslash

theorem Quotation.Admits.stands (admits : quotation.Admits character) :
    quotation.Stands character source := by
  obtain ⟨notEscape, notMark, notControl, notDollar⟩ := admits
  have notBreak : character ≠ '\n' ∧ character ≠ '\r' := by
    constructor <;>
    · rintro rfl
      exact absurd notControl (by decide)
  cases quotation with
  | single | double => exact ⟨notEscape, notMark, notBreak⟩
  | backtick => exact ⟨notEscape, notMark, fun isDollar => absurd isDollar (notDollar rfl)⟩

theorem Quotation.Admits.ne_return (admits : quotation.Admits character) : character ≠ '\r' := by
  rintro rfl
  exact absurd admits.2.2.1 (by decide)

theorem KeepsSeparators.of_suffix {whole : List Char} (keeps : KeepsSeparators whole)
    (isSuffix : source <:+ whole) : KeepsSeparators source :=
  fun separator isSeparator inside =>
    keeps separator isSeparator (inside.trans isSuffix.isInfix)

/-- A carriage return behind a backslash draws nothing in. -/
theorem Spells.alone (spells : Spells quotation text source)
    (keeps : KeepsSeparators ('\\' :: '\r' :: source)) :
    ∀ next ∈ source.head?, ¬isEscapedPair '\r' next = true := by
  intro next isNext isPair
  rcases (isEscapedPair_iff.mp isPair).2 with rfl | isSeparator
  · exact absurd (spells.notControl _ isNext) (by decide)
  · obtain ⟨later, rfl⟩ := List.head?_eq_some_iff.mp isNext
    exact keeps next isSeparator ⟨['\\'], later, rfl⟩

/-- What is written is read back with its code units. -/
theorem Spells.cooks (spells : Spells quotation text source) (keeps : KeepsSeparators source) :
    quotation.Cooks source (Text.units (text.map CodePoint.ofChar)) := by
  induction spells with
  | nil => exact .nil
  | raw admits _ ih =>
      rw [List.map_cons, Text.units_cons]
      exact (ih (keeps.of_suffix (List.suffix_cons _ _))).raw admits.stands admits.ne_return
  | escaped escapes _ ih =>
      rw [List.map_cons, Text.units_cons]
      exact escapes.cooks (ih (keeps.of_suffix (List.suffix_append _ _)))
  | @null text source noDigit _ ih =>
      have isSuffix : source <:+ '\\' :: '0' :: source := List.suffix_append ['\\', '0'] source
      rw [List.map_cons, Text.units_cons]
      exact (ih (keeps.of_suffix isSuffix)).null noDigit
  | @continued ending text source isEnding spells ih =>
      have isSuffix : source <:+ '\\' :: (ending ++ source) :=
        List.suffix_append ('\\' :: ending) source
      refine (ih (keeps.of_suffix isSuffix)).continued isEnding ?_
      rintro rfl
      exact spells.alone keeps

/-- Pieces with the code units of a text stand for the text. -/
theorem Quotation.Cooks.exists_pieces
    (cooks : quotation.Cooks source (Text.units (text.map CodePoint.ofChar))) :
    ∃ pieces, IsBody quotation.Stands source pieces ∧
      quotation.cook pieces = .ok (text.map CodePoint.ofChar) := by
  obtain ⟨pieces, read, isBody, isRead, sameUnits⟩ := cooks
  have isScalar : Text.IsScalar (text.map CodePoint.ofChar) := by
    intro point mem
    obtain ⟨character, -, rfl⟩ := List.mem_map.mp mem
    exact CodePoint.isSurrogate_ofChar character
  have joined : text.map CodePoint.ofChar = read.joinSurrogates :=
    Text.eq_joinSurrogates_iff.mpr ⟨sameUnits.symm, isScalar.isCanonical⟩
  refine ⟨pieces, isBody, ?_⟩
  rw [joined]
  cases quotation with
  | backtick =>
      rw [cook, cookTemplate, show pieceTexts Text.unifyLineEndings pieces = .ok read from isRead]
      rfl
  | single | double =>
      rw [cook, cookString, show pieceTexts id pieces = .ok read from isRead]
      · rfl
      · nofun

end Texts

section Literals

variable {text : List Char} {pieces : List LiteralPiece} (grammar : Grammar)

theorem primary_string {cursor after : Cursor} {mark : Char} {span : Span} {literal : Text}
    (isMark : cursor.token = .quote mark)
    (read : stringLiteral.run cursor = some ((span, literal, pieces), after)) :
    (primary grammar).run cursor =
      some (valueOperand cursor.offset (.string span literal pieces), after) := by
  have isString : (primary grammar).run cursor = ((fun string : Span × Text × List LiteralPiece =>
      valueOperand cursor.offset (.string string.1 string.2.1 string.2.2)) <$>
        stringLiteral).run cursor := by
    obtain ⟨rest, offset, previousEnd, lineBreak, token⟩ := cursor
    subst isMark
    rfl
  rw [isString, StateT.run_map, read]
  rfl

/-- The literal between two marks, with its pieces, and what follows it. -/
theorem Quotation.primary_run (isBody : IsBody quotation.Stands source pieces) (offset : Nat)
    (rest : List Char) :
    ∃ span literal, (primary grammar).run
        (Cursor.after (quotation.mark :: (source ++ quotation.mark :: rest)) offset) =
      some (valueOperand offset (quotation.expression span literal pieces),
        Cursor.after rest (offset + 2 + byteCount source)) := by
  cases quotation with
  | backtick =>
      have isReadable : (WrittenTemplate.mk source []).IsReadable grammar 0 :=
        ⟨List.forall_mem_singleton.mpr (isStretch_iff.mpr ⟨pieces, isBody⟩), nofun, Nat.zero_le _⟩
      obtain ⟨head, reads, onTemplate, isHead, areReads⟩ :=
        templateLiteral_run isReadable offset rest
      cases areReads
      obtain rfl := isHead.eq_of_template isBody
      have sameEnd : offset + byteCount (WrittenTemplate.mk source []).characters =
          offset + 2 + byteCount source := by
        rw [WrittenTemplate.byteCount_characters, List.flatMap_nil, show byteCount [] = 0 from rfl]
        dsimp only
        omega
      rw [WrittenTemplate.characters_append, sameEnd] at onTemplate
      exact ⟨_, [], primary_template rfl onTemplate⟩
  | single =>
      exact ⟨_, _, primary_string grammar rfl (stringLiteral_run (.inr rfl) isBody offset rest)⟩
  | double =>
      exact ⟨_, _, primary_string grammar rfl (stringLiteral_run (.inl rfl) isBody offset rest)⟩

theorem Quotation.ofExpression (cooked : quotation.cook pieces = .ok (text.map CodePoint.ofChar))
    (span : Span) (literal : Text) (limit : Nat) :
    Node.ofExpression (limit + 1) (quotation.expression span literal pieces) =
      .ok (quotation.node span literal (text.map CodePoint.ofChar)) := by
  cases quotation with
  | backtick =>
      have onPieces : cookTemplate pieces = .ok (text.map CodePoint.ofChar) := cooked
      rw [expression, Node.ofExpression, Node.ofExpressionWith, onPieces]
      rfl
  | single | double =>
      have onPieces : cookString pieces = .ok (text.map CodePoint.ofChar) := cooked
      change Node.ofString span literal pieces = _
      rw [Node.ofString, onPieces]
      rfl

theorem Quotation.evaluateStatic_node (quotation : Quotation) (span : Span) (literal text : Text)
    (bindings : BindingTable) :
    evaluateStatic (quotation.node span literal text) bindings = .ok (some (.string text)) := by
  cases quotation <;> rfl

/--
However a text is written between marks, a literal is read there up to the closing mark, and its
value is the text: this is what the literal folds to.
-/
theorem primary_spells {text : String} (spells : Spells quotation text.toList source)
    (keeps : KeepsSeparators source) (limit offset : Nat) (rest : List Char)
    (bindings : BindingTable) :
    ∃ operand span literal, (primary grammar).run
          (Cursor.after (quotation.mark :: (source ++ quotation.mark :: rest)) offset) =
        some (operand, Cursor.after rest (offset + 2 + byteCount source)) ∧
      Node.ofExpression (limit + 1) operand.expression = .ok (quotation.node span literal text) ∧
      evaluateStatic (quotation.node span literal text) bindings =
        .ok (some (.string text)) := by
  obtain ⟨pieces, isBody, cooked⟩ := (spells.cooks keeps).exists_pieces
  obtain ⟨span, literal, read⟩ := quotation.primary_run grammar isBody offset rest
  exact ⟨_, span, literal, read, quotation.ofExpression cooked span literal limit,
    quotation.evaluateStatic_node span literal text bindings⟩

/-- A pair written by halves, a dollar sign behind a backslash, a line continuation, a question mark
that draws a separator in, a letter by its number, and the null character. -/
def mixedSpelling : List Char :=
  "\\uD83D\\uDE00\\$\\\r\n\\?\u2028\\u\x7b041\x7d\\0".toList

theorem primary_spells_mixed :
    Spells .double "😀$?\u2028A\x00".toList mixedSpelling ∧ KeepsSeparators mixedSpelling ∧
      ∃ operand span literal,
        (primary (Script.grammar 1)).run
            (Cursor.after ('"' :: (mixedSpelling ++ ['"', ';'])) 0) =
          some (operand, Cursor.after [';'] (2 + byteCount mixedSpelling)) ∧
        Node.ofExpression 1 operand.expression =
          .ok (.literal span (.string "😀$?\u2028A\x00") literal) ∧
        evaluateStatic (.literal span (.string "😀$?\u2028A\x00") literal) .empty =
          .ok (some (.string "😀$?\u2028A\x00")) := by
  have high : SpellsUnit ("uD83D".toList.map CodePoint.ofChar) 0xD83D :=
    ⟨"D83D", rfl, rfl, [13, 8, 3, 13], .cons rfl (.cons rfl (.cons rfl (.cons rfl .nil))), rfl⟩
  have low : SpellsUnit ("uDE00".toList.map CodePoint.ofChar) 0xDE00 :=
    ⟨"DE00", rfl, rfl, [13, 14, 0, 0], .cons rfl (.cons rfl (.cons rfl (.cons rfl .nil))), rfl⟩
  have byHalves : Escapes '😀' "\\uD83D\\uDE00".toList :=
    @Escapes.units '😀' ["uD83D".toList, "uDE00".toList] (.cons high (.cons low .nil))
  have byNumber : Escapes 'A' "\\u\x7b041\x7d".toList :=
    @Escapes.braces 'A' ['0', '4', '1'] (by decide)
      ⟨[0, 4, 1], .cons rfl (.cons rfl (.cons rfl .nil)), rfl⟩
  have arePlain : IsPlain '?' ∧ IsPlain '$' ∧ Quotation.double.Admits '\u2028' := by
    unfold IsPlain Quotation.Admits
    decide
  have onLetter : Spells .double ['A', '\x00'] "\\u\x7b041\x7d\\0".toList :=
    .escaped byNumber (.null nofun .nil)
  have onQuestion : Spells .double ['?', '\u2028', 'A', '\x00']
      ('\\' :: '?' :: '\u2028' :: "\\u\x7b041\x7d\\0".toList) :=
    .escaped (.plain arePlain.1) (.raw arePlain.2.2 onLetter)
  have onDollar : Spells .double ['$', '?', '\u2028', 'A', '\x00']
      ('\\' :: '$' :: '\\' :: '\r' :: '\n' :: '\\' :: '?' :: '\u2028' ::
        "\\u\x7b041\x7d\\0".toList) :=
    .escaped (.plain arePlain.2.1)
      (@Spells.continued .double ['\r', '\n'] _ _ (by decide) onQuestion)
  have spells : Spells .double "😀$?\u2028A\x00".toList mixedSpelling := .escaped byHalves onDollar
  have keeps : KeepsSeparators mixedSpelling := by
    rintro separator (rfl | rfl) <;> decide
  exact ⟨spells, keeps, primary_spells (Script.grammar 1) spells keeps 0 0 [';'] .empty⟩

end Literals

end Reading

end ComponentInliner.Script
