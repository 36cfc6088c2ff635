import ComponentInliner.Proofs.Script.Templates
import ComponentInliner.Proofs.Text.Utf16
import ComponentInliner.Script.Parse

/-!
# Line endings in templates

What becomes of a template when each line feed in its text is replaced by another line ending. With
a carriage return and a line feed nothing changes. A carriage return alone changes nothing either,
but for one case: behind a backslash the scanner takes it and a line or paragraph separator for one
escape sequence, which is not left out. So the texts stay the same exactly if no line continuation
stands directly before a separator (`WrittenTemplate.yields_converted`).

The pieces of a converted stretch are found step by step along those of the stretch (`Converts`);
each separator that is taken along adds one code unit to the text.
-/

namespace ComponentInliner.Script

/-- The line endings that take the place of a line feed. -/
inductive LineEnding where
  | returnAndFeed
  | returnAlone

namespace LineEnding

def characters : LineEnding → List Char
  | returnAndFeed => ['\r', '\n']
  | returnAlone => ['\r']

/-- Characters with another line ending in place of each line feed. -/
def convert (ending : LineEnding) (source : List Char) : List Char :=
  source.flatMap fun character => if character = '\n' then ending.characters else [character]

end LineEnding

/-- A template with another line ending in place of each line feed outside its substitutions. -/
def WrittenTemplate.convert (template : WrittenTemplate) (ending : LineEnding) : WrittenTemplate :=
  ⟨ending.convert template.head,
    template.parts.map fun part => ⟨part.substitution, ending.convert part.following⟩⟩

/-- Somewhere in a stretch a line continuation stands directly before a separator. -/
def ContinuesBeforeSeparator (stretch : List Char) : Prop :=
  ∃ before separator after, stretch = before ++ '\\' :: '\n' :: separator :: after ∧
    IsStretch before ∧ IsSeparator separator

/-! ## Conversion of characters -/

section Characters

variable {ending : LineEnding} {character : Char} {body source : List Char}

theorem LineEnding.convert_feed (ending : LineEnding) (source : List Char) :
    ending.convert ('\n' :: source) = ending.characters ++ ending.convert source :=
  List.flatMap_cons

theorem LineEnding.convert_cons (notFeed : character ≠ '\n') (source : List Char) :
    ending.convert (character :: source) = character :: ending.convert source := by
  rw [convert, List.flatMap_cons, if_neg notFeed]
  rfl

theorem LineEnding.convert_append (noFeed : '\n' ∉ body) (source : List Char) :
    ending.convert (body ++ source) = body ++ ending.convert source := by
  induction body with
  | nil => rfl
  | cons first rest ih =>
      obtain ⟨notFirst, notLater⟩ := not_or.mp (List.mem_cons.not.mp noFeed)
      rw [List.cons_append, convert_cons (Ne.symm notFirst), ih notLater, List.cons_append]

theorem LineEnding.head?_characters (ending : LineEnding) (source : List Char) :
    (ending.characters ++ source).head? = some '\r' := by
  cases ending <;> rfl

/-- What a converted stretch begins with, if it is no carriage return, the stretch begins with. -/
theorem LineEnding.head?_convert {next : Char} (notReturn : next ≠ '\r')
    (isNext : next ∈ (ending.convert source).head?) : next ∈ source.head? := by
  cases source with
  | nil => exact isNext
  | cons first rest =>
      by_cases isFeed : first = '\n'
      · subst isFeed
        rw [convert_feed, head?_characters] at isNext
        exact absurd (Option.some_inj.mp isNext).symm notReturn
      · rwa [convert_cons isFeed] at isNext

/-- Without line feeds there are none in what a carriage return alone takes the place of. -/
theorem LineEnding.head?_convert_ne_feed (source : List Char) :
    (returnAlone.convert source).head? ≠ some '\n' := by
  intro isFeed
  cases source with
  | nil => cases isFeed
  | cons first rest =>
      by_cases onFirst : first = '\n'
      · subst onFirst
        cases isFeed
      · rw [convert_cons onFirst] at isFeed
        exact onFirst (Option.some_inj.mp isFeed)

theorem IsEscape.converted (isEscape : IsEscape body source) (ending : LineEnding) :
    IsEscape body (ending.convert source) := by
  refine isEscape.congr fun next isNext isDrawn => LineEnding.head?_convert ?_ isNext
  rintro rfl
  cases isDrawn

theorem StandsInTemplate.converted (stands : StandsInTemplate character source)
    (ending : LineEnding) : StandsInTemplate character (ending.convert source) := by
  refine ⟨stands.1, stands.2.1, fun isDollar isBrace => stands.2.2 isDollar ?_⟩
  exact LineEnding.head?_convert (by decide) isBrace

/-- The escape sequences with a line feed. -/
theorem IsEscape.cases_feed (isEscape : IsEscape body source) (hasFeed : '\n' ∈ body)
    (noReturn : '\r' ∉ body) : body = ['\n'] ∨ body = ['?', '\n'] := by
  have notHexadecimal : ¬isHexDigit '\n' = true := by decide
  have notOctalDigit : ¬isOctalDigit '\n' = true := by decide
  cases isEscape with
  | byte isFirst isSecond =>
      simp only [List.mem_cons, List.not_mem_nil, or_false] at hasFeed
      rcases hasFeed with impossible | rfl | rfl
      · cases impossible
      · exact absurd isFirst notHexadecimal
      · exact absurd isSecond notHexadecimal
  | unit isFirst isSecond isThird isFourth =>
      simp only [List.mem_cons, List.not_mem_nil, or_false] at hasFeed
      rcases hasFeed with impossible | rfl | rfl | rfl | rfl
      · cases impossible
      · exact absurd isFirst notHexadecimal
      · exact absurd isSecond notHexadecimal
      · exact absurd isThird notHexadecimal
      · exact absurd isFourth notHexadecimal
  | braces areDigits several =>
      simp only [List.mem_cons, List.mem_append, List.not_mem_nil, or_false] at hasFeed
      rcases hasFeed with impossible | impossible | onDigits | impossible
      · cases impossible
      · cases impossible
      · exact absurd (areDigits _ onDigits) notHexadecimal
      · cases impossible
  | octal isFirst areDigits few longest =>
      rcases List.mem_cons.mp hasFeed with rfl | onMore
      · exact absurd isFirst notOctalDigit
      · exact absurd (areDigits _ onMore) notOctalDigit
  | @pair first second _ isPair =>
      have notReturn : first ≠ '\r' := by
        rintro rfl
        exact noReturn (List.mem_cons_self ..)
      obtain rfl : first = '?' := (isEscapedPair_iff.mp isPair).1.resolve_left notReturn
      simp only [List.mem_cons, List.not_mem_nil, or_false] at hasFeed
      rcases hasFeed with impossible | rfl
      · cases impossible
      · exact .inr rfl
  | single notX notU notOctal alone =>
      rw [List.mem_singleton] at hasFeed
      rw [hasFeed]
      exact .inl rfl

end Characters

/-! ## Conversion of texts -/

/-- An outcome has so many code units more than another one, and is the same if it has none more. -/
def Gains (count : Nat) : Except LiteralFault Text → Except LiteralFault Text → Prop
  | .error first, .error second => second = first
  | .ok old, .ok new => new.units.length = old.units.length + count ∧ (count = 0 → new = old)
  | _, _ => False

section Outcomes

variable {count : Nat} {old new : Except LiteralFault Text}

theorem Gains.map_append (gains : Gains count old new) (added : Text) :
    Gains count (old.map (added ++ ·)) (new.map (added ++ ·)) := by
  cases old <;> cases new
  case error.error => exact gains
  case ok.ok =>
    refine ⟨?_, fun isZero => congrArg (added ++ ·) (gains.2 isZero)⟩
    rw [Text.units_append, Text.units_append, List.length_append, List.length_append, gains.1,
      Nat.add_assoc]
  all_goals exact gains

/-- A carriage return is one code unit. -/
theorem Gains.one_more (gains : Gains count old new) :
    Gains (count + 1) old (new.map ([CodePoint.ofChar '\r'] ++ ·)) := by
  cases old <;> cases new
  case error.error => exact gains
  case ok.ok =>
    refine ⟨?_, nofun⟩
    rw [Text.units_append, List.length_append, gains.1]
    exact Nat.add_comm _ _
  all_goals exact gains

theorem Gains.joined (gains : Gains count old new) :
    Gains count (old.map Text.joinSurrogates) (new.map Text.joinSurrogates) := by
  cases old <;> cases new
  case error.error => exact gains
  case ok.ok =>
    refine ⟨?_, fun isZero => congrArg Text.joinSurrogates (gains.2 isZero)⟩
    rw [Text.units_joinSurrogates, Text.units_joinSurrogates, gains.1]
  all_goals exact gains

theorem Gains.eq_iff (gains : Gains count old new) :
    new = old ↔ (∃ fault, old = .error fault) ∨ count = 0 := by
  cases old <;> cases new
  case error.error first second =>
    exact ⟨fun _ => .inl ⟨first, rfl⟩, fun _ => congrArg Except.error gains⟩
  case ok.ok =>
    constructor
    · intro same
      cases same
      exact .inr (Nat.left_eq_add.mp gains.1)
    · rintro (⟨fault, impossible⟩ | isZero)
      · cases impossible
      · exact congrArg Except.ok (gains.2 isZero)
  all_goals exact gains.elim

theorem Gains.error_iff (gains : Gains count old new) {fault : LiteralFault} :
    new = .error fault ↔ old = .error fault := by
  cases old <;> cases new
  case error.error =>
    rw [show _ = _ from gains]
  case ok.ok => exact ⟨nofun, nofun⟩
  all_goals exact gains.elim

end Outcomes

/-! ## Conversion of stretches -/

/-- A text begins with a line or paragraph separator. -/
def BeginsWithSeparator (text : Text) : Prop :=
  text.head? = some (CodePoint.ofChar '\u2028') ∨ text.head? = some (CodePoint.ofChar '\u2029')

instance : DecidablePred BeginsWithSeparator :=
  fun _ => inferInstanceAs (Decidable (_ ∨ _))

/-- How many line continuations stand directly before a separator. -/
def joinedSeparators : List LiteralPiece → Nat
  | [] => 0
  | .raw _ :: rest => joinedSeparators rest
  | .escape body :: rest =>
      (if body = [CodePoint.ofChar '\n'] ∧ BeginsWithSeparator (leadingText rest) then 1 else 0) +
        joinedSeparators rest

/-- How many code units the text of pieces gains with another line ending. -/
def LineEnding.gained : LineEnding → List LiteralPiece → Nat
  | returnAndFeed, _ => 0
  | returnAlone, pieces => joinedSeparators pieces

/-- With another line ending a stretch has the text of its pieces, but for some more code units. -/
def Converts (ending : LineEnding) (stretch : List Char) (pieces : List LiteralPiece)
    (count : Nat) : Prop :=
  ∃ converted, IsBody StandsInTemplate (ending.convert stretch) converted ∧
    Gains count (pieceTexts Text.unifyLineEndings pieces)
      (pieceTexts Text.unifyLineEndings converted)

section Steps

variable {ending : LineEnding} {character : Char} {body source : List Char}
  {pieces : List LiteralPiece} {count : Nat}

theorem Gains.escape {converted : List LiteralPiece}
    (gains : Gains count (pieceTexts Text.unifyLineEndings pieces)
      (pieceTexts Text.unifyLineEndings converted)) (text : Text) :
    Gains count (pieceTexts Text.unifyLineEndings (.escape text :: pieces))
      (pieceTexts Text.unifyLineEndings (.escape text :: converted)) := by
  cases decodes : decodeEscape text with
  | error fault =>
      rw [pieceTexts, pieceTexts, decodes]
      exact rfl
  | ok decoded =>
      rw [pieceTexts_escape decodes, pieceTexts_escape decodes]
      exact gains.map_append decoded

namespace Converts

theorem raw (stands : StandsInTemplate character source) (notFeed : character ≠ '\n')
    (notReturn : character ≠ '\r') (converts : Converts ending source pieces count) :
    Converts ending (character :: source) (consRaw character pieces) count := by
  obtain ⟨converted, isBody, gains⟩ := converts
  refine ⟨consRaw character converted, ?_, ?_⟩
  · rw [LineEnding.convert_cons notFeed]
    exact .raw (stands.converted ending) isBody
  · rw [pieceTexts_unify notReturn, pieceTexts_unify notReturn]
    exact gains.map_append _

theorem feed (converts : Converts ending source pieces count) :
    Converts ending ('\n' :: source) (consRaw '\n' pieces) count := by
  have stands {next : Char} {later : List Char} (isBreak : next = '\r' ∨ next = '\n') :
      StandsInTemplate next later := by
    rcases isBreak with rfl | rfl <;> exact ⟨by decide, by decide, nofun⟩
  obtain ⟨converted, isBody, gains⟩ := converts
  rw [Converts, pieceTexts_unify (by decide), ending.convert_feed]
  cases ending with
  | returnAndFeed =>
      refine ⟨consRaw '\r' (consRaw '\n' converted),
        .raw (stands (.inl rfl)) (.raw (stands (.inr rfl)) isBody), ?_⟩
      rw [pieceTexts_returnAndFeed]
      exact gains.map_append _
  | returnAlone =>
      have noFeed : (leadingText converted).head? ≠ some (CodePoint.ofChar '\n') := by
        rw [ne_eq, isBody.head?_leadingText (by decide)]
        exact LineEnding.head?_convert_ne_feed source
      refine ⟨consRaw '\r' converted, .raw (stands (.inl rfl)) isBody, ?_⟩
      rw [pieceTexts_return noFeed]
      exact gains.map_append _

theorem escape (isEscape : IsEscape body source) (noFeed : '\n' ∉ body)
    (converts : Converts ending source pieces count) :
    Converts ending ('\\' :: (body ++ source)) (.escape (body.map CodePoint.ofChar) :: pieces)
      count := by
  obtain ⟨converted, isBody, gains⟩ := converts
  refine ⟨.escape (body.map CodePoint.ofChar) :: converted, ?_, gains.escape _⟩
  rw [LineEnding.convert_cons (by decide), LineEnding.convert_append noFeed]
  exact .escape (isEscape.converted ending) isBody

theorem continuation (apart : ending = .returnAlone → ∀ next ∈ source.head?, ¬IsSeparator next)
    (converts : Converts ending source pieces count) :
    Converts ending ('\\' :: '\n' :: source) (.escape [CodePoint.ofChar '\n'] :: pieces) count := by
  obtain ⟨converted, isBody, gains⟩ := converts
  have isContinuation : ending.characters.map CodePoint.ofChar ∈ lineContinuations := by
    cases ending <;> decide
  have isEscape : IsEscape ending.characters (ending.convert source) := by
    cases ending with
    | returnAndFeed => exact .pair (by decide)
    | returnAlone =>
        refine .single (by decide) (by decide) (by decide) fun next isNext isPair => ?_
        rcases (isEscapedPair_iff.mp isPair).2 with rfl | isSeparator
        · exact LineEnding.head?_convert_ne_feed source isNext
        · have notReturn : next ≠ '\r' := by
            rintro rfl
            exact absurd isSeparator (by decide)
          exact apart rfl next (LineEnding.head?_convert notReturn isNext) isSeparator
  refine ⟨.escape (ending.characters.map CodePoint.ofChar) :: converted, ?_, ?_⟩
  · rw [LineEnding.convert_cons (by decide), ending.convert_feed]
    exact .escape isEscape isBody
  · rwa [pieceTexts_continuation isContinuation, pieceTexts_continuation (by decide)]

/-- A carriage return and the separator behind it become one escape sequence. -/
theorem joined (isSeparator : IsSeparator character)
    (converts : Converts .returnAlone (character :: source) pieces count) :
    Converts .returnAlone ('\\' :: '\n' :: character :: source)
      (.escape [CodePoint.ofChar '\n'] :: pieces) (count + 1) := by
  have plain : character ≠ '\n' ∧ character ≠ '\r' ∧ character ≠ '\\' ∧
      isEscapedPair '\r' character = true ∧
      decodeEscape (['\r', character].map CodePoint.ofChar) =
        .ok (['\r', character].map CodePoint.ofChar) := by
    rcases isSeparator with rfl | rfl <;> decide
  obtain ⟨notFeed, notReturn, notEscape, isPair, decodes⟩ := plain
  obtain ⟨converted, isBody, gains⟩ := converts
  rw [LineEnding.convert_cons notFeed] at isBody
  obtain ⟨rest, rfl, isRest⟩ := isBody.of_raw notEscape
  refine ⟨.escape (['\r', character].map CodePoint.ofChar) :: rest, ?_, ?_⟩
  · rw [LineEnding.convert_cons (by decide), LineEnding.convert_feed,
      LineEnding.convert_cons notFeed]
    exact .escape (.pair isPair) isRest
  · have grown := gains.one_more
    rw [pieceTexts_unify notReturn, map_append_append] at grown
    rwa [pieceTexts_escape decodes, pieceTexts_continuation (by decide)]

/-- A question mark takes no line ending along but a line feed, which then stands for itself. -/
theorem question (converts : Converts ending source pieces count) :
    Converts ending ('\\' :: '?' :: '\n' :: source)
      (.escape (['?', '\n'].map CodePoint.ofChar) :: pieces) count := by
  have decodes : decodeEscape (['?', '\n'].map CodePoint.ofChar) =
      .ok ([CodePoint.ofChar '?'] ++ [CodePoint.ofChar '\n']) := rfl
  have decodesAlone : decodeEscape [CodePoint.ofChar '?'] = .ok [CodePoint.ofChar '?'] := rfl
  obtain ⟨converted, isBody, gains⟩ := converts.feed
  have alone : IsEscape ['?'] (ending.convert ('\n' :: source)) := by
    refine .single (by decide) (by decide) (by decide) fun next isNext => ?_
    rw [ending.convert_feed, ending.head?_characters] at isNext
    cases isNext
    decide
  refine ⟨.escape [CodePoint.ofChar '?'] :: converted, ?_, ?_⟩
  · rw [LineEnding.convert_cons (by decide), LineEnding.convert_cons (by decide)]
    exact .escape alone isBody
  · rw [pieceTexts_unify (by decide)] at gains
    rw [pieceTexts_escape decodes, pieceTexts_escape decodesAlone, ← map_append_append]
    exact gains.map_append _

end Converts

theorem joinedSeparators_consRaw (character : Char) (pieces : List LiteralPiece) :
    joinedSeparators (consRaw character pieces) = joinedSeparators pieces := by
  rcases pieces with _ | ⟨text | body, rest⟩ <;> rfl

theorem LineEnding.gained_consRaw (ending : LineEnding) (character : Char)
    (pieces : List LiteralPiece) :
    ending.gained (consRaw character pieces) = ending.gained pieces := by
  cases ending with
  | returnAndFeed => rfl
  | returnAlone => exact joinedSeparators_consRaw character pieces

theorem LineEnding.gained_escape {text : Text} (ending : LineEnding)
    (apart : ¬(text = [CodePoint.ofChar '\n'] ∧ BeginsWithSeparator (leadingText pieces))) :
    ending.gained (.escape text :: pieces) = ending.gained pieces := by
  cases ending with
  | returnAndFeed => rfl
  | returnAlone => rw [gained, joinedSeparators, if_neg apart, Nat.zero_add, gained]

/-- Pieces begin with a separator exactly if their stretch does. -/
theorem beginsWithSeparator_iff (isBody : IsBody StandsInTemplate source pieces) :
    BeginsWithSeparator (leadingText pieces) ↔ ∃ next ∈ source.head?, IsSeparator next := by
  rw [BeginsWithSeparator, isBody.head?_leadingText (by decide),
    isBody.head?_leadingText (by decide)]
  constructor
  · rintro (isNext | isNext)
    · exact ⟨_, isNext, .inl rfl⟩
    · exact ⟨_, isNext, .inr rfl⟩
  · rintro ⟨next, isNext, rfl | rfl⟩
    · exact .inl isNext
    · exact .inr isNext

theorem Converts.ofContinuation (isBody : IsBody StandsInTemplate source pieces)
    (converts : Converts ending source pieces (ending.gained pieces)) :
    Converts ending ('\\' :: '\n' :: source) (.escape [CodePoint.ofChar '\n'] :: pieces)
      (ending.gained (.escape [CodePoint.ofChar '\n'] :: pieces)) := by
  by_cases begins : BeginsWithSeparator (leadingText pieces)
  · cases ending with
    | returnAndFeed => exact converts.continuation nofun
    | returnAlone =>
        obtain ⟨next, isNext, isSeparator⟩ := (beginsWithSeparator_iff isBody).mp begins
        obtain ⟨later, rfl⟩ := List.head?_eq_some_iff.mp isNext
        rw [LineEnding.gained, joinedSeparators, if_pos ⟨rfl, begins⟩, Nat.add_comm]
        exact converts.joined isSeparator
  · rw [ending.gained_escape fun both => begins both.2]
    exact converts.continuation fun _ next isNext isSeparator =>
      begins ((beginsWithSeparator_iff isBody).mpr ⟨next, isNext, isSeparator⟩)

/-- A stretch can be converted, and its text gains a code unit for each separator that a carriage
return takes along. -/
theorem IsBody.converts (isBody : IsBody StandsInTemplate source pieces)
    (noReturn : '\r' ∉ source) (ending : LineEnding) :
    Converts ending source pieces (ending.gained pieces) := by
  induction isBody with
  | nil =>
      have nothing : ending.gained [] = 0 := by cases ending <;> rfl
      exact ⟨[], .nil, by rw [nothing]; exact ⟨rfl, fun _ => rfl⟩⟩
  | @raw character characters pieces stands isBody ih =>
      obtain ⟨notFirst, notLater⟩ := not_or.mp (List.mem_cons.not.mp noReturn)
      rw [ending.gained_consRaw]
      by_cases isFeed : character = '\n'
      · subst isFeed
        exact (ih notLater).feed
      · exact (ih notLater).raw stands isFeed (Ne.symm notFirst)
  | @escape body characters pieces isEscape isBody ih =>
      have notBody : '\r' ∉ body := fun mem =>
        noReturn (List.mem_cons_of_mem _ (List.mem_append_left _ mem))
      have onLater := ih fun mem => noReturn (List.mem_cons_of_mem _ (List.mem_append_right _ mem))
      by_cases hasFeed : '\n' ∈ body
      · rcases isEscape.cases_feed hasFeed notBody with rfl | rfl
        · exact onLater.ofContinuation isBody
        · rw [ending.gained_escape (by nofun)]
          exact onLater.question
      · have apart : ¬(body.map CodePoint.ofChar = [CodePoint.ofChar '\n'] ∧
            BeginsWithSeparator (leadingText pieces)) := by
          rintro ⟨isFeed, -⟩
          obtain rfl : body = ['\n'] := CodePoint.ofChar_injective.list_map isFeed
          exact hasFeed (List.mem_cons_self ..)
        rw [ending.gained_escape apart]
        exact onLater.escape isEscape hasFeed

theorem IsBody.joinedSeparators_ne_zero {before after : List Char} {separator : Char}
    {piecesBefore : List LiteralPiece} (isBefore : IsBody StandsInTemplate before piecesBefore)
    (isSeparator : IsSeparator separator)
    (isBody : IsBody StandsInTemplate (before ++ '\\' :: '\n' :: separator :: after) pieces) :
    joinedSeparators pieces ≠ 0 := by
  have never (characters : List Char) : ¬StandsInTemplate '\\' characters :=
    fun stands => stands.1 rfl
  induction isBefore generalizing pieces with
  | nil =>
      have isEscape : IsEscape ['\n'] (separator :: after) :=
        .single (by decide) (by decide) (by decide) fun _ _ isPair =>
          absurd (isEscapedPair_iff.mp isPair).1 (by decide)
      obtain ⟨rest, rfl, isRest⟩ := isBody.of_escape isEscape never
      have begins := (beginsWithSeparator_iff isRest).mpr ⟨separator, rfl, isSeparator⟩
      rw [joinedSeparators, if_pos ⟨rfl, begins⟩]
      omega
  | raw stands _ ih =>
      obtain ⟨rest, rfl, isRest⟩ := isBody.of_raw stands.1
      rw [joinedSeparators_consRaw]
      exact ih isRest
  | @escape body characters _ isEscape _ ih =>
      have onWhole : IsEscape body (characters ++ '\\' :: '\n' :: separator :: after) := by
        refine isEscape.append fun next isNext => ?_
        cases isNext
        decide
      rw [List.cons_append, List.append_assoc] at isBody
      obtain ⟨rest, rfl, isRest⟩ := isBody.of_escape onWhole never
      have onRest := ih isRest
      rw [joinedSeparators]
      omega

theorem IsBody.exists_continuation (isBody : IsBody StandsInTemplate source pieces)
    (joined : joinedSeparators pieces ≠ 0) : ContinuesBeforeSeparator source := by
  induction isBody with
  | nil => exact absurd rfl joined
  | @raw character characters pieces stands _ ih =>
      rw [joinedSeparators_consRaw] at joined
      obtain ⟨before, separator, after, rfl, isStretch, isSeparator⟩ := ih joined
      obtain ⟨piecesBefore, isBefore⟩ := isStretch_iff.mp isStretch
      have standsBefore : StandsInTemplate character before := by
        refine ⟨stands.1, stands.2.1, fun isDollar isBrace => stands.2.2 isDollar ?_⟩
        rw [List.head?_append, isBrace]
        rfl
      exact ⟨character :: before, separator, after, rfl,
        isStretch_iff.mpr ⟨_, .raw standsBefore isBefore⟩, isSeparator⟩
  | @escape body characters pieces isEscape isRest ih =>
      by_cases here : body.map CodePoint.ofChar = [CodePoint.ofChar '\n'] ∧
          BeginsWithSeparator (leadingText pieces)
      · obtain rfl : body = ['\n'] := CodePoint.ofChar_injective.list_map here.1
        obtain ⟨next, isNext, isSeparator⟩ := (beginsWithSeparator_iff isRest).mp here.2
        obtain ⟨later, rfl⟩ := List.head?_eq_some_iff.mp isNext
        exact ⟨[], next, later, rfl, isStretch_iff.mpr ⟨_, .nil⟩, isSeparator⟩
      · rw [joinedSeparators, if_neg here, Nat.zero_add] at joined
        obtain ⟨before, separator, after, rfl, isStretch, isSeparator⟩ := ih joined
        obtain ⟨piecesBefore, isBefore⟩ := isStretch_iff.mp isStretch
        refine ⟨'\\' :: (body ++ before), separator, after, by simp,
          isStretch_iff.mpr ⟨_, .escape isEscape.of_append isBefore⟩, isSeparator⟩

/-- A line continuation stands directly before a separator exactly if one is counted. -/
theorem continuesBeforeSeparator_iff (isBody : IsBody StandsInTemplate source pieces) :
    ContinuesBeforeSeparator source ↔ joinedSeparators pieces ≠ 0 := by
  constructor
  · rintro ⟨before, separator, after, rfl, isStretch, isSeparator⟩
    obtain ⟨piecesBefore, isBefore⟩ := isStretch_iff.mp isStretch
    exact isBefore.joinedSeparators_ne_zero isSeparator isBody
  · exact isBody.exists_continuation

theorem cookTemplate_eq (pieces : List LiteralPiece) : cookTemplate pieces =
    (pieceTexts Text.unifyLineEndings pieces).map Text.joinSurrogates := by
  rw [cookTemplate]
  cases pieceTexts Text.unifyLineEndings pieces <;> rfl

end Steps

section Templates

variable {grammar : Grammar} {limit : Nat} {ending : LineEnding} {template : WrittenTemplate}
  {stretch : List Char}

/-- A converted stretch is a stretch, with a text that gains no more than some code units. -/
theorem IsStretch.converts (isStretch : IsStretch stretch) (noReturn : '\r' ∉ stretch)
    (ending : LineEnding) : IsStretch (ending.convert stretch) ∧
      ∃ pieces, IsBody StandsInTemplate stretch pieces ∧
        Gains (ending.gained pieces) (cookStretch stretch)
          (cookStretch (ending.convert stretch)) := by
  obtain ⟨pieces, isBody⟩ := isStretch_iff.mp isStretch
  obtain ⟨converted, isConverted, gains⟩ := isBody.converts noReturn ending
  refine ⟨isStretch_iff.mpr ⟨converted, isConverted⟩, pieces, isBody, ?_⟩
  rw [cookStretch_of_isBody isBody, cookStretch_of_isBody isConverted, cookTemplate_eq,
    cookTemplate_eq]
  exact gains.joined

theorem WrittenTemplate.stretches_convert (template : WrittenTemplate) (ending : LineEnding) :
    (template.convert ending).stretches = template.stretches.map ending.convert := by
  simp [stretches, convert]

theorem WrittenTemplate.IsReadable.converted (isReadable : template.IsReadable grammar limit)
    (noReturn : ∀ stretch ∈ template.stretches, '\r' ∉ stretch) (ending : LineEnding) :
    (template.convert ending).IsReadable grammar limit := by
  refine ⟨?_, ?_, ?_⟩
  · rw [template.stretches_convert, List.forall_mem_map]
    intro stretch mem
    exact ((isReadable.stretches stretch mem).converts (noReturn stretch mem) ending).1
  · exact List.forall_mem_map.mpr isReadable.substitutions
  · exact (List.length_map _).trans_le isReadable.few

/-- A converted template has the same texts or fault exactly if it has a fault or no stretch gains
anything. -/
theorem WrittenTemplate.IsReadable.mapM_convert (isReadable : template.IsReadable grammar limit)
    (noReturn : ∀ stretch ∈ template.stretches, '\r' ∉ stretch) (ending : LineEnding) :
    (template.convert ending).stretches.mapM cookStretch = template.stretches.mapM cookStretch ↔
      (∃ fault, template.stretches.mapM cookStretch = .error fault) ∨
        ∀ stretch ∈ template.stretches, ∀ pieces, IsBody StandsInTemplate stretch pieces →
          ending.gained pieces = 0 := by
  have onStretch (stretch) (mem : stretch ∈ template.stretches) :=
    ((isReadable.stretches stretch mem).converts (noReturn stretch mem) ending).2
  have failAlike : ∀ stretch ∈ template.stretches, ∀ fault,
      (cookStretch ∘ ending.convert) stretch = .error fault ↔
        cookStretch stretch = .error fault := by
    intro stretch mem fault
    obtain ⟨pieces, -, gains⟩ := onStretch stretch mem
    exact gains.error_iff
  rw [template.stretches_convert, List.mapM_map, mapM_eq_mapM_iff failAlike]
  cases onAll : template.stretches.mapM cookStretch with
  | error fault => exact ⟨fun _ => .inl ⟨fault, rfl⟩, fun _ => .inl ⟨fault, rfl⟩⟩
  | ok texts =>
      rw [or_iff_right nofun, or_iff_right nofun]
      refine forall₂_congr fun stretch mem => ?_
      obtain ⟨pieces, isBody, gains⟩ := onStretch stretch mem
      obtain ⟨text, onText⟩ := exists_ok_of_mapM onAll stretch mem
      have noFault : ¬∃ fault, cookStretch stretch = .error fault := by
        rw [onText]
        nofun
      have sameText : (cookStretch ∘ ending.convert) stretch = cookStretch stretch ↔
          ending.gained pieces = 0 := gains.eq_iff.trans (or_iff_right noFault)
      rw [sameText, isBody.forall_iff]

theorem cooked_ok {Result : Type} (result : Result) : cooked (.ok result) = .ok result :=
  rfl

theorem exists_cooked_eq_error {Result : Type} {value : Except LiteralFault Result} :
    (∃ fault, cooked value = .error fault) ↔ ∃ fault, value = .error fault := by
  cases value with
  | error fault => exact ⟨fun _ => ⟨fault, rfl⟩, fun _ => ⟨_, rfl⟩⟩
  | ok result => exact ⟨nofun, nofun⟩

theorem cooked_injective {Result : Type} {first second : Except LiteralFault Result} :
    cooked first = cooked second ↔ first = second := by
  constructor
  · intro same
    cases first <;> cases second <;> cases same <;> rfl
  · exact congrArg cooked

/--
A template has one text more than it has expressions, and keeps all of them, or its fault, if each
line feed outside its substitutions becomes a carriage return and a line feed. If each becomes a
carriage return, it keeps them exactly if it has a fault or no line continuation stands directly
before a line or paragraph separator.
-/
theorem WrittenTemplate.yields_converted (isReadable : template.IsReadable grammar limit)
    (noReturn : ∀ stretch ∈ template.stretches, '\r' ∉ stretch) :
    ∃ outcome, template.Yields grammar limit outcome ∧
      (∀ quasis, outcome = .ok quasis → quasis.length = template.parts.length + 1) ∧
      (template.convert .returnAndFeed).Yields grammar limit outcome ∧
      ((template.convert .returnAlone).Yields grammar limit outcome ↔
        (∃ fault, outcome = .error fault) ∨
          ∀ stretch ∈ template.stretches, ¬ContinuesBeforeSeparator stretch) := by
  have onFeed := (isReadable.converted noReturn .returnAndFeed).yields
  have onReturn := (isReadable.converted noReturn .returnAlone).yields
  rw [(isReadable.mapM_convert noReturn .returnAndFeed).mpr (.inr fun _ _ _ _ => rfl)] at onFeed
  have noSeparator : (∀ stretch ∈ template.stretches, ∀ pieces,
      IsBody StandsInTemplate stretch pieces → joinedSeparators pieces = 0) ↔
        ∀ stretch ∈ template.stretches, ¬ContinuesBeforeSeparator stretch := by
    refine forall₂_congr fun stretch mem => ?_
    obtain ⟨pieces, isBody⟩ := isStretch_iff.mp (isReadable.stretches stretch mem)
    rw [continuesBeforeSeparator_iff isBody, not_not, isBody.forall_iff]
  refine ⟨_, isReadable.yields, ?_, onFeed, ?_⟩
  · intro quasis isOk
    rw [← cooked_ok, cooked_injective] at isOk
    rw [← (forall₂_of_mapM isOk).length_eq]
    exact congrArg (· + 1) (List.length_map _)
  · have sameOutcome : (template.convert .returnAlone).Yields grammar limit
        (cooked (template.stretches.mapM cookStretch)) ↔
          (template.convert .returnAlone).stretches.mapM cookStretch =
            template.stretches.mapM cookStretch := by
      constructor
      · exact fun yields => cooked_injective.mp (onReturn.unique yields)
      · intro same
        rwa [same] at onReturn
    rw [sameOutcome, isReadable.mapM_convert noReturn, exists_cooked_eq_error]
    exact or_congr_right noSeparator

end Templates

/-! ## Two templates -/

/-- A template with a line continuation, a substitution, and a separator behind a line feed. -/
def separatedTemplate : WrittenTemplate :=
  ⟨['a', '\\', '\n', 'b'], [⟨['x'], ['\n', '\u2028', '\\', 'n']⟩]⟩

theorem substitutes_name : (grammar 2).Substitutes 1 ['x'] :=
  fun offset rest => ⟨.identifier ⟨offset, offset + 1⟩ "x",
    ⟨'}' :: rest, offset + 1, offset + 1, false, .punctuator closeBrace, .inr rfl⟩,
    .identifier ⟨offset, offset + 1⟩ "x", rfl, rfl, rfl, rfl, rfl⟩

theorem WrittenTemplate.yields_converted_separated :
    (separatedTemplate.IsReadable (grammar 2) 1 ∧
      ∀ stretch ∈ separatedTemplate.stretches, '\r' ∉ stretch) ∧
      separatedTemplate.Yields (grammar 2) 1 (.ok ["ab", "\n\u2028\n"]) ∧
      (separatedTemplate.convert .returnAndFeed).Yields (grammar 2) 1
        (.ok ["ab", "\n\u2028\n"]) ∧
      (separatedTemplate.convert .returnAlone).Yields (grammar 2) 1
        (.ok ["ab", "\n\u2028\n"]) := by
  have isReadable : separatedTemplate.IsReadable (grammar 2) 1 := by
    refine ⟨List.forall_mem_cons.mpr ⟨⟨_, rfl⟩, List.forall_mem_singleton.mpr ⟨_, rfl⟩⟩, ?_,
      by decide⟩
    exact List.forall_mem_singleton.mpr substitutes_name
  have noReturn : ∀ stretch ∈ separatedTemplate.stretches, '\r' ∉ stretch := by decide
  have apart : ∀ stretch ∈ separatedTemplate.stretches, ¬ContinuesBeforeSeparator stretch := by
    refine List.forall_mem_cons.mpr ⟨?_, List.forall_mem_singleton.mpr ?_⟩
    all_goals
      rw [continuesBeforeSeparator_iff ((scanTemplate_iff (.backtick [])).mp rfl)]
      decide
  have isOutcome : separatedTemplate.Yields (grammar 2) 1 (.ok ["ab", "\n\u2028\n"]) :=
    isReadable.yields
  obtain ⟨outcome, yields, -, onFeed, onReturn⟩ :=
    WrittenTemplate.yields_converted isReadable noReturn
  obtain rfl := yields.unique isOutcome
  exact ⟨⟨isReadable, noReturn⟩, isOutcome, onFeed, onReturn.mpr (.inr apart)⟩

/-- A template with a line continuation directly before a separator. -/
def continuedTemplate : WrittenTemplate :=
  ⟨['\\', '\n', '\u2028'], []⟩

/-- A carriage return in place of the line feed is not left out with the backslash before it. -/
theorem WrittenTemplate.returnAlone_stays :
    continuedTemplate.Yields (grammar 1) 0 (.ok ["\u2028"]) ∧
      (continuedTemplate.convert .returnAlone).Yields (grammar 1) 0 (.ok ["\r\u2028"]) ∧
      ¬(continuedTemplate.convert .returnAlone).Yields (grammar 1) 0 (.ok ["\u2028"]) := by
  have isReadable : continuedTemplate.IsReadable (grammar 1) 0 :=
    ⟨List.forall_mem_singleton.mpr ⟨_, rfl⟩, nofun, Nat.zero_le _⟩
  have isConverted : (continuedTemplate.convert .returnAlone).IsReadable (grammar 1) 0 :=
    ⟨List.forall_mem_singleton.mpr ⟨_, rfl⟩, nofun, Nat.zero_le _⟩
  have onReturn : (continuedTemplate.convert .returnAlone).Yields (grammar 1) 0
      (.ok ["\r\u2028"]) := isConverted.yields
  refine ⟨isReadable.yields, onReturn, fun yields => ?_⟩
  have longer : Text.ofString "\r\u2028" ≠ Text.ofString "\u2028" := by decide
  exact longer (List.cons.inj (Except.ok.inj (onReturn.unique yields))).1

end ComponentInliner.Script
