import ComponentInliner.Proofs.Number.NumericStrings
import ComponentInliner.Script.Token

/-!
# Escape sequences

What an escape sequence is, said without the scanner: `IsEscape` tells which characters behind a
backslash belong to it, in view of what follows. The scanner finds exactly these
(`escapeLength_eq_some_iff`).

An escape sequence by number stands for the code point with that number (`decodeEscape_byte`,
`decodeEscape_unit`, `decodeEscape_braces`). Line endings are taken out, a few letters stand for
control characters, and everything else stands for itself (`decodeEscape_verbatim`).
-/

namespace ComponentInliner.Script

open Number

/-- An escape sequence without its backslash, in view of what follows it. -/
inductive IsEscape : List Char → List Char → Prop
  | byte {first second : Char} {following : List Char} (isFirst : isHexDigit first = true)
      (isSecond : isHexDigit second = true) : IsEscape ['x', first, second] following
  | unit {first second third fourth : Char} {following : List Char}
      (isFirst : isHexDigit first = true) (isSecond : isHexDigit second = true)
      (isThird : isHexDigit third = true) (isFourth : isHexDigit fourth = true) :
      IsEscape ['u', first, second, third, fourth] following
  | braces {digits following : List Char} (areDigits : ∀ digit ∈ digits, isHexDigit digit = true)
      (several : digits ≠ []) : IsEscape ('u' :: '{' :: (digits ++ ['}'])) following
  | octal {first : Char} {more following : List Char} (isFirst : isOctalDigit first = true)
      (areDigits : ∀ digit ∈ more, isOctalDigit digit = true) (few : more.length ≤ 2)
      (longest : more.length < 2 → ∀ next ∈ following.head?, ¬isOctalDigit next = true) :
      IsEscape (first :: more) following
  | pair {first second : Char} {following : List Char}
      (isPair : isEscapedPair first second = true) : IsEscape [first, second] following
  | single {character : Char} {following : List Char} (notX : character ≠ 'x')
      (notU : character ≠ 'u') (notOctal : ¬isOctalDigit character = true)
      (alone : ∀ next ∈ following.head?, ¬isEscapedPair character next = true) :
      IsEscape [character] following

/-- The line and paragraph separators. -/
def IsSeparator (character : Char) : Prop :=
  character = '\u2028' ∨ character = '\u2029'

instance : DecidablePred IsSeparator :=
  fun _ => inferInstanceAs (Decidable (_ ∨ _))

theorem isEscapedPair_iff {first second : Char} : isEscapedPair first second = true ↔
    (first = '\r' ∨ first = '?') ∧ (second = '\n' ∨ IsSeparator second) := by
  simp [isEscapedPair, IsSeparator, or_assoc]

section Lengths

variable {body following input : List Char} {length : Nat}

theorem isHexDigit_ne_brace {digit : Char} (isDigit : isHexDigit digit = true) : digit ≠ '{' := by
  rintro rfl
  cases isDigit

theorem escapeLength_other {first : Char} (notX : first ≠ 'x') (notU : first ≠ 'u')
    (rest : List Char) :
    escapeLength (first :: rest) =
      if isOctalDigit first then some (1 + ((rest.take 2).takeWhile isOctalDigit).length)
      else if rest.head?.any (isEscapedPair first) then some 2
      else some 1 := by
  unfold escapeLength
  split <;> simp_all

/-- The digits among the first characters, if all before a point are digits. -/
theorem takeWhile_take_append {isDigit : Char → Bool} {count : Nat} {more : List Char}
    (areDigits : ∀ digit ∈ more, isDigit digit = true) (few : more.length ≤ count)
    (following : List Char) :
    ((more ++ following).take count).takeWhile isDigit =
      more ++ (following.take (count - more.length)).takeWhile isDigit := by
  rw [List.take_append, List.take_of_length_le few, List.takeWhile_append_of_pos areDigits]

theorem escapeLength_octal {first : Char} {rest : List Char} (isOctal : isOctalDigit first = true) :
    escapeLength (first :: rest) =
      some (1 + ((rest.take 2).takeWhile isOctalDigit).length) := by
  have notX : first ≠ 'x' := by
    rintro rfl
    cases isOctal
  have notU : first ≠ 'u' := by
    rintro rfl
    cases isOctal
  rw [escapeLength_other notX notU, if_pos isOctal]

theorem IsEscape.escapeLength (isEscape : IsEscape body following) :
    Script.escapeLength (body ++ following) = some body.length := by
  cases isEscape with
  | byte isFirst isSecond => simp [Script.escapeLength, isFirst, isSecond]
  | unit isFirst isSecond isThird isFourth =>
      have ordinary := isHexDigit_ne_brace isFirst
      simp [Script.escapeLength, isFirst, isSecond, isThird, isFourth]
  | @braces digits following areDigits several =>
      have read : (digits ++ '}' :: following).takeWhile isHexDigit = digits := by
        rw [List.takeWhile_append_of_pos areDigits]
        exact List.append_nil _
      obtain ⟨first, more, isDigits⟩ := List.exists_cons_of_ne_nil several
      have unfolded : Script.escapeLength ('u' :: '{' :: (digits ++ '}' :: following)) =
          some (digits.length + 3) := by
        rw [Script.escapeLength, read, List.drop_left]
        simp only [isDigits]
      simpa using unfolded
  | @octal first more following isFirst areDigits few longest =>
      have read : ((more ++ following).take 2).takeWhile isOctalDigit = more := by
        rw [takeWhile_take_append areDigits few]
        by_cases full : more.length < 2
        · cases following with
          | nil => simp
          | cons next rest =>
              have stops : ¬isOctalDigit next = true := longest full next rfl
              obtain ⟨left, isLeft⟩ := Nat.exists_eq_add_one_of_ne_zero (Nat.sub_ne_zero_of_lt full)
              rw [isLeft, List.take_succ_cons, List.takeWhile_cons_of_neg stops, List.append_nil]
        · rw [Nat.sub_eq_zero_of_le (Nat.le_of_not_lt full), List.take_zero, List.takeWhile_nil,
            List.append_nil]
      rw [List.cons_append, escapeLength_octal isFirst, read, List.length_cons, Nat.add_comm]
  | @pair first second following isPair =>
      have isFirst : first = '\r' ∨ first = '?' := (isEscapedPair_iff.mp isPair).1
      have plain : first ≠ 'x' ∧ first ≠ 'u' ∧ ¬isOctalDigit first = true := by
        rcases isFirst with rfl | rfl <;> decide
      have paired : (second :: following).head?.any (isEscapedPair first) = true := isPair
      rw [List.cons_append, List.singleton_append, escapeLength_other plain.1 plain.2.1,
        if_neg plain.2.2, if_pos paired]
      rfl
  | @single character following notX notU notOctal alone =>
      have notPaired : ¬following.head?.any (isEscapedPair character) = true := by
        cases following with
        | nil => nofun
        | cons next rest => exact alone next rfl
      rw [List.singleton_append, escapeLength_other notX notU, if_neg notOctal, if_neg notPaired]
      rfl

theorem exists_isEscape (found : escapeLength input = some length) : ∃ body following,
    input = body ++ following ∧ body.length = length ∧ IsEscape body following := by
  revert found
  fun_cases escapeLength input
  case case2 first second following areDigits =>
    rintro ⟨⟩
    rw [Bool.and_eq_true] at areDigits
    exact ⟨['x', first, second], following, rfl, rfl, .byte areDigits.1 areDigits.2⟩
  case case5 rest digits first more following closed isDigits =>
    rintro ⟨⟩
    have areDigits : ∀ digit ∈ digits, isHexDigit digit = true := by
      intro digit mem
      exact List.mem_takeWhile_imp mem
    have split : rest = digits ++ '}' :: following := by
      rw [← closed]
      exact (List.prefix_iff_eq_append.mp (List.takeWhile_prefix _)).symm
    refine ⟨'u' :: '{' :: (digits ++ ['}']), following, by simp [split], by simp, ?_⟩
    exact .braces areDigits (by simp [isDigits])
  case case7 first second third fourth following _ areDigits =>
    rintro ⟨⟩
    simp only [Bool.and_eq_true] at areDigits
    exact ⟨['u', first, second, third, fourth], following, rfl, rfl,
      .unit areDigits.1.1.1 areDigits.1.1.2 areDigits.1.2 areDigits.2⟩
  case case10 first rest _ _ _ _ _ isOctal =>
    rintro ⟨⟩
    obtain ⟨more, isMore⟩ : ∃ more, (rest.take 2).takeWhile isOctalDigit = more := ⟨_, rfl⟩
    have areDigits : ∀ digit ∈ more, isOctalDigit digit = true := by
      intro digit mem
      rw [← isMore] at mem
      exact List.mem_takeWhile_imp mem
    have few : more.length ≤ 2 := by
      rw [← isMore]
      exact (List.takeWhile_prefix _).length_le.trans (List.length_take_le 2 rest)
    obtain ⟨following, rfl⟩ : more <+: rest := by
      rw [← isMore]
      exact (List.takeWhile_prefix _).trans (List.take_prefix 2 rest)
    have noMore : (following.take (2 - more.length)).takeWhile isOctalDigit = [] := by
      rw [takeWhile_take_append areDigits few] at isMore
      exact List.append_right_eq_self.mp isMore
    refine ⟨first :: more, following, rfl, ?_, .octal isOctal areDigits few ?_⟩
    · rw [isMore, List.length_cons, Nat.add_comm]
    · intro short next isNext
      obtain ⟨rest, rfl⟩ := List.head?_eq_some_iff.mp isNext
      obtain ⟨left, isLeft⟩ := Nat.exists_eq_add_one_of_ne_zero (Nat.sub_ne_zero_of_lt short)
      rw [isLeft, List.take_succ_cons, List.takeWhile_eq_nil_iff] at noMore
      exact noMore (Nat.zero_lt_succ _)
  case case11 first rest _ _ _ _ _ _ isPair =>
    rintro ⟨⟩
    obtain ⟨second, following, rfl⟩ : ∃ second following, rest = second :: following := by
      cases rest with
      | nil => cases isPair
      | cons second following => exact ⟨second, following, rfl⟩
    exact ⟨[first, second], following, rfl, rfl, .pair isPair⟩
  case case12 first rest _ notX _ _ notU notOctal alone =>
    rintro ⟨⟩
    refine ⟨[first], rest, rfl, rfl, .single notX notU notOctal ?_⟩
    intro next isNext
    cases rest with
    | nil => cases isNext
    | cons head tail =>
      cases isNext
      exact alone
  all_goals nofun

/-- The scanner finds the length of an escape sequence, and finds no other escape sequences. -/
theorem escapeLength_eq_some_iff :
    escapeLength (body ++ following) = some body.length ↔ IsEscape body following := by
  constructor
  · intro found
    obtain ⟨other, rest, split, sameLength, isEscape⟩ := exists_isEscape found
    obtain ⟨rfl, rfl⟩ := List.append_inj split sameLength.symm
    exact isEscape
  · exact IsEscape.escapeLength

theorem IsEscape.ne_nil (isEscape : IsEscape body following) : body ≠ [] := by
  rintro rfl
  cases isEscape

/-- Characters that an escape sequence may draw in from behind. -/
def isDrawnIn (character : Char) : Bool :=
  isOctalDigit character || character = '\n' || character = '\u2028' || character = '\u2029'

theorem isDrawnIn_of_isEscapedPair {first second : Char}
    (isPair : isEscapedPair first second = true) : isDrawnIn second = true := by
  rcases (isEscapedPair_iff.mp isPair).2 with rfl | rfl | rfl <;> decide

/-- An escape sequence stays one if nothing new follows that it would draw in. -/
theorem IsEscape.congr {other : List Char} (isEscape : IsEscape body following)
    (same : ∀ next ∈ other.head?, isDrawnIn next = true → next ∈ following.head?) :
    IsEscape body other := by
  cases isEscape with
  | byte isFirst isSecond => exact .byte isFirst isSecond
  | unit isFirst isSecond isThird isFourth => exact .unit isFirst isSecond isThird isFourth
  | braces areDigits several => exact .braces areDigits several
  | octal isFirst areDigits few longest =>
      refine .octal isFirst areDigits few fun short next isNext isDigit => ?_
      have isDrawn : isDrawnIn next = true := by simp [isDrawnIn, isDigit]
      exact longest short next (same next isNext isDrawn) isDigit
  | pair isPair => exact .pair isPair
  | single notX notU notOctal alone =>
      refine .single notX notU notOctal fun next isNext isPair => ?_
      exact alone next (same next isNext (isDrawnIn_of_isEscapedPair isPair)) isPair

theorem IsEscape.of_append {later : List Char} (isEscape : IsEscape body (following ++ later)) :
    IsEscape body following := by
  refine isEscape.congr fun next isNext _ => ?_
  rw [List.head?_append, isNext]
  rfl

theorem IsEscape.append {later : List Char} (isEscape : IsEscape body following)
    (notDrawnIn : ∀ next ∈ later.head?, ¬isDrawnIn next = true) :
    IsEscape body (following ++ later) := by
  refine isEscape.congr fun next isNext isDrawn => ?_
  cases following with
  | nil => exact absurd isDrawn (notDrawnIn next isNext)
  | cons first rest => exact isNext

/-- There is only one escape sequence behind a backslash. -/
theorem IsEscape.unique {other rest : List Char} (isEscape : IsEscape body following)
    (isOther : IsEscape other rest) (same : body ++ following = other ++ rest) :
    body = other ∧ following = rest := by
  have found := isEscape.escapeLength
  rw [same, isOther.escapeLength] at found
  exact List.append_inj same (Option.some_inj.mp found).symm

end Lengths

section Values

variable {digits : Text} {number : Nat}

/-- Hexadecimal digits spell a number. -/
def SpellsHexadecimal (digits : Text) (number : Nat) : Prop :=
  ∃ values, SpellsDigits (asciiDigit? 16) digits values ∧ ofDigits 16 values = number

theorem isHexDigit_of_asciiDigit? {character : Char} {value : Nat}
    (isDigit : asciiDigit? 16 (CodePoint.ofChar character) = some value) :
    isHexDigit character = true := by
  have onAscii : ∀ number : Fin 128, (asciiDigit? 16 (number.castLE (by decide))).isSome = true →
      isHexDigit (Char.ofNat number.val) = true := by decide
  have isAscii : character.toNat < 128 := (asciiDigit?_eq_some.mp isDigit).1
  have found := onAscii ⟨character.toNat, isAscii⟩ (by
    rw [Option.isSome_iff_exists]
    exact ⟨value, isDigit⟩)
  rwa [Char.ofNat_toNat] at found

theorem SpellsHexadecimal.isHexDigit {characters : List Char}
    (spells : SpellsHexadecimal (characters.map CodePoint.ofChar) number) :
    ∀ character ∈ characters, isHexDigit character = true := by
  obtain ⟨values, areDigits, -⟩ := spells
  intro character mem
  obtain ⟨value, isDigit⟩ := areDigits.exists_digit _ (List.mem_map_of_mem mem)
  exact isHexDigit_of_asciiDigit? isDigit

theorem numeralText_of_spells (spells : SpellsHexadecimal digits number) (several : digits ≠ []) :
    numeralText 16 digits = codePointText number := by
  obtain ⟨values, areDigits, rfl⟩ := spells
  have isValues : values ≠ [] := by
    rintro rfl
    cases areDigits
    exact several rfl
  have read : readInteger? 16 digits = some (ofDigits 16 values : Int) := by
    have noBlank : ∀ point ∈ ([] : Text), point.isNumeralBlank = true := nofun
    have spelled : SpellsInteger 16 ([] ++ ([] ++ ([] ++ digits)) ++ []) (ofDigits 16 values) :=
      .intro noBlank .absent .absent (areDigits.separated isValues) noBlank
    rw [List.append_nil] at spelled
    exact (readInteger?_eq_some_iff (by decide)).mpr spelled
  rw [numeralText, read]

theorem codePointText_of_lt (inRange : number < 0x110000) :
    codePointText number = .ok [⟨number, inRange⟩] := by
  have large : ¬((number : Int) < -0x80000000 ∨ (number : Int) ≥ 0x80000000) := by omega
  have notNegative : ¬(number : Int) < 0 := by omega
  rw [codePointText, if_neg large, if_neg notNegative]
  simp [CodePoint.ofNat?, inRange]

theorem decodeEscape_continuation {body : Text} (mem : body ∈ lineContinuations) :
    decodeEscape body = .ok [] := by
  unfold decodeEscape
  rw [if_pos (List.contains_iff_mem.mpr mem)]

theorem not_mem_lineContinuations {letter : Char} (isLetter : letter = 'x' ∨ letter = 'u')
    (rest : Text) : CodePoint.ofChar letter :: rest ∉ lineContinuations := by
  have ordinary : ∀ text ∈ lineContinuations, text.head? ≠ some (CodePoint.ofChar 'x') ∧
      text.head? ≠ some (CodePoint.ofChar 'u') := by decide
  intro mem
  rcases isLetter with rfl | rfl
  · exact (ordinary _ mem).1 rfl
  · exact (ordinary _ mem).2 rfl

/-- The digits with which an escape sequence writes a number, and their radix. -/
inductive EscapeNumeral : Text → Nat → Text → Prop
  | byte {rest : Text} : EscapeNumeral (CodePoint.ofChar 'x' :: rest) 16 (rest.take 2)
  | unit {rest : Text} (noBrace : rest.head? ≠ some (CodePoint.ofChar '{')) :
      EscapeNumeral (CodePoint.ofChar 'u' :: rest) 16 (rest.take 4)
  | braces {digits : Text} :
      EscapeNumeral (CodePoint.ofChar 'u' :: CodePoint.ofChar '{' :: digits) 16 digits.dropLast
  | octal {head : CodePoint} {rest : Text} (isOctal : head.isBetween '0' '7' = true) :
      EscapeNumeral (head :: rest) 8 (head :: rest)

theorem EscapeNumeral.radix_pos {body : Text} {radix : Nat}
    (writes : EscapeNumeral body radix digits) : 0 < radix := by
  cases writes <;> decide

/-- An escape sequence that writes a number stands for the code point with this number. -/
theorem EscapeNumeral.decodes {body : Text} {radix : Nat}
    (writes : EscapeNumeral body radix digits) :
    decodeEscape body = numeralText radix digits := by
  have notX : CodePoint.ofChar 'u' ≠ CodePoint.ofChar 'x' := by decide
  unfold decodeEscape
  cases writes with
  | byte => simp [not_mem_lineContinuations (.inl rfl)]
  | @unit rest noBrace =>
      cases rest with
      | nil => simp [not_mem_lineContinuations (.inr rfl), notX]
      | cons first rest =>
          have isOther : first ≠ CodePoint.ofChar '{' := fun same => noBrace (congrArg some same)
          simp [not_mem_lineContinuations (.inr rfl), notX, isOther]
  | braces => simp [not_mem_lineContinuations (.inr rfl), notX]
  | @octal head rest isOctal =>
      have notLetter (letter : Char) (isLetter : letter = 'x' ∨ letter = 'u') :
          head ≠ CodePoint.ofChar letter := by
        rintro rfl
        rcases isLetter with rfl | rfl
        · exact absurd isOctal (by decide)
        · exact absurd isOctal (by decide)
      have onTable : ∀ text ∈ lineContinuations,
          text.head?.all fun first => !first.isBetween '0' '7' := by decide
      have notContinuation : head :: rest ∉ lineContinuations := fun mem => by
        have noDigit := onTable _ mem
        simp [isOctal] at noDigit
      simp [notContinuation, notLetter 'x' (.inl rfl), notLetter 'u' (.inr rfl), isOctal]

/-- Only the number that an escape sequence writes may have no text. -/
theorem exists_numeral_of_decodeEscape {body : Text} {fault : LiteralFault}
    (failed : decodeEscape body = .error fault) :
    ∃ radix digits, EscapeNumeral body radix digits ∧ numeralText radix digits = .error fault := by
  have writes : ∃ radix digits, EscapeNumeral body radix digits := by
    rcases body with _ | ⟨head, rest⟩
    · cases failed
    by_cases isX : head = CodePoint.ofChar 'x'
    · cases isX
      exact ⟨_, _, .byte⟩
    by_cases isU : head = CodePoint.ofChar 'u'
    · cases isU
      rcases rest with _ | ⟨first, later⟩
      · exact ⟨_, _, .unit nofun⟩
      · by_cases isBrace : first = CodePoint.ofChar '{'
        · cases isBrace
          exact ⟨_, _, .braces⟩
        · exact ⟨_, _, .unit fun same => isBrace (Option.some.inj same)⟩
    by_cases isOctal : head.isBetween '0' '7' = true
    · exact ⟨_, _, .octal isOctal⟩
    unfold decodeEscape at failed
    simp only [isX, isU, isOctal, if_false, Bool.false_eq_true] at failed
    split at failed
    · cases failed
    · split at failed
      · cases failed
      · cases failed
  rcases writes with ⟨radix, digits, writes⟩
  exact ⟨radix, digits, writes, writes.decodes ▸ failed⟩

theorem decodeEscape_byte (spells : SpellsHexadecimal digits number) (two : digits.length = 2) :
    decodeEscape (CodePoint.ofChar 'x' :: digits) = codePointText number := by
  have several : digits ≠ [] := by
    rintro rfl
    cases two
  rw [EscapeNumeral.byte.decodes, List.take_of_length_le two.le,
    numeralText_of_spells spells several]

theorem decodeEscape_unit (spells : SpellsHexadecimal digits number) (four : digits.length = 4) :
    decodeEscape (CodePoint.ofChar 'u' :: digits) = codePointText number := by
  obtain ⟨first, rest, rfl⟩ := List.exists_cons_of_length_eq_add_one four
  have noBrace : (first :: rest).head? ≠ some (CodePoint.ofChar '{') := by
    rintro ⟨⟩
    obtain ⟨values, areDigits, -⟩ := spells
    obtain ⟨value, isDigit⟩ := areDigits.exists_digit _ (List.mem_cons_self ..)
    have isNone : asciiDigit? 16 (CodePoint.ofChar '{') = none := by decide
    cases isNone.symm.trans isDigit
  rw [(EscapeNumeral.unit noBrace).decodes, List.take_of_length_le four.le]
  exact numeralText_of_spells spells (List.cons_ne_nil _ _)

/-- An escape sequence in braces stands for the number that is written in them. -/
theorem decodeEscape_braces (digits : Text) :
    decodeEscape (CodePoint.ofChar 'u' :: CodePoint.ofChar '{' ::
      (digits ++ [CodePoint.ofChar '}'])) = numeralText 16 digits := by
  rw [EscapeNumeral.braces.decodes, List.dropLast_concat]

theorem decodeEscape_control {letter : Char} {point : CodePoint}
    (mem : (letter, point) ∈ controlEscapes) :
    decodeEscape [CodePoint.ofChar letter] = .ok [point] := by
  have onTable : ∀ entry ∈ controlEscapes,
      decodeEscape [CodePoint.ofChar entry.1] = .ok [entry.2] := by decide
  exact onTable _ mem

/-- What has no meaning of its own behind a backslash stands for itself. -/
theorem decodeEscape_verbatim {head : CodePoint} {rest : Text}
    (notContinuation : head :: rest ∉ lineContinuations) (notX : head ≠ CodePoint.ofChar 'x')
    (notU : head ≠ CodePoint.ofChar 'u') (notOctal : ¬head.isBetween '0' '7' = true)
    (notControl : ∀ entry ∈ controlEscapes, head :: rest ≠ [CodePoint.ofChar entry.1]) :
    decodeEscape (head :: rest) = .ok (head :: rest) := by
  have notFound :
      controlEscapes.find? (fun entry => head :: rest = [CodePoint.ofChar entry.1]) = none := by
    refine List.find?_eq_none.mpr fun entry mem => ?_
    simpa using notControl entry mem
  unfold decodeEscape
  simp only [List.contains_iff_mem, notContinuation, notX, notU, notOctal, notFound, if_false,
    Bool.false_eq_true]

end Values

end ComponentInliner.Script
