import ComponentInliner.Proofs.Number.Grammar
import ComponentInliner.Proofs.Number.NearestEven
import ComponentInliner.Value.Conversion

/-!
# Numeric strings

A numeric string of the script language is blank, or an infinity, a decimal numeral or an integer
numeral with the prefix of its radix, in ASCII characters (`Denotes`). Each of these is read as the
number that it denotes, rounded to nearest (`IsNumber`).

More strings are read as numbers than these (`Tolerated`): decimal numerals with the digits of other
scripts, and after the prefix of a radix whatever is an integer numeral by other rules, with blanks,
a sign, a second prefix or underscores. Every other string is not a number.
-/

namespace ComponentInliner.Number

/-- The value of an ASCII digit or letter as a digit of a radix. -/
def asciiDigit? (radix : Nat) (point : CodePoint) : Option Nat :=
  if point.val < 128 then digitIn? radix point else none

/-- The rational that a decimal numeral denotes. -/
def Decimal.value (decimal : Decimal) : Rat :=
  ofDigits 10 (decimal.whole ++ decimal.fraction) *
    10 ^ (decimal.exponent - decimal.fraction.length)

/-- The double for a sign and a rational, or for a sign and infinity. -/
def IsNumber (negative : Bool) (size : Option Rat) (number : Float) : Prop :=
  ∃ absolute, (match size with
    | some value => IsNearest value absolute
    | none => absolute = 1.0 / 0.0) ∧ number = if negative then -absolute else absolute

/-- What a numeric string without blanks around it denotes: a sign, and a rational or infinity. -/
inductive Denotes : Text → Bool → Option Rat → Prop
  | empty : Denotes [] false (some 0)
  | infinity {sign : Text} {negative : Bool} (spellsSign : SpellsSign sign negative) :
      Denotes (sign ++ "Infinity") negative none
  | decimal {sign unsigned : Text} {negative : Bool} {decimal : Decimal}
      (spellsSign : SpellsSign sign negative)
      (spells : SpellsDecimal (asciiDigit? 10) unsigned decimal) :
      Denotes (sign ++ unsigned) negative (some decimal.value)
  | integer {radix : Nat} {letter : CodePoint} {expected : Char} {text : Text} {digits : List Nat}
      (ofRadix : radixLetter? radix = some expected) (isLetter : letter.asciiLower = expected)
      (spells : SpellsDigits (asciiDigit? radix) text digits) (several : digits ≠ []) :
      Denotes ('0' :: letter :: text) false (some (ofDigits radix digits))

/-- What is read as a number although it is no numeric string. -/
inductive Tolerated : Text → Prop
  | foreign {sign unsigned : Text} {negative : Bool} {decimal : Decimal}
      (spellsSign : SpellsSign sign negative)
      (spells : SpellsDecimal CodePoint.decimalDigit? unsigned decimal)
      (isForeign : ∃ point ∈ unsigned, 128 ≤ point.val) : Tolerated (sign ++ unsigned)
  | integer {radix : Nat} {letter : CodePoint} {expected : Char} {text : Text} {integer : Int}
      (ofRadix : radixLetter? radix = some expected) (isLetter : letter.asciiLower = expected)
      (spells : SpellsInteger radix text integer)
      (noDigit : ∃ point ∈ text, asciiDigit? radix point = none) : Tolerated ('0' :: letter :: text)

section Numbers

variable {number : Float} {mantissa : Nat} {exponent : Int} {value : Rat}

theorem HasSize.isNaN (size : HasSize number mantissa exponent) : number.isNaN = false := by
  rcases size with found | ⟨rfl, -⟩
  · change number.toModel.unpack.isNaN = false
    rcases Nat.eq_zero_or_pos mantissa with zero | positive
    · rw [unpack_of_zero_parts found zero]
      rfl
    · rw [unpack_of_parts found positive]
      rfl
  · rfl

theorem HasSize.eq_infinity (size : HasSize number mantissa exponent)
    (infinite : number.isInf = true) : number = 1.0 / 0.0 := by
  rcases size with found | ⟨rfl, -⟩
  · change number.toModel.unpack.isInf = true at infinite
    rcases Nat.eq_zero_or_pos mantissa with zero | positive
    · rw [unpack_of_zero_parts found zero] at infinite
      cases infinite
    · rw [unpack_of_parts found positive] at infinite
      cases infinite
  · rfl

theorem isNaN_neg (isNumber : number.isNaN = false) : (-number).isNaN = false := by
  cases found : parts? number with
  | some parts =>
      rcases Nat.eq_zero_or_pos parts.significand with zero | positive
      · change (Float.Model.pack number.toModel.unpack.neg).unpack.isNaN = false
        rw [unpack_of_zero_parts found zero]
        cases signOf number.toModel <;> rfl
      · change (-number).toModel.unpack.isNaN = false
        rw [unpack_neg (unpack_of_parts found positive)]
        rfl
  | none =>
      change number.toModel.unpack.isNaN = false at isNumber
      change (Float.Model.pack number.toModel.unpack.neg).unpack.isNaN = false
      rcases unpack_of_no_parts found with infinite | notANumber
      · rw [infinite]
        cases signOf number.toModel <;> rfl
      · rw [notANumber] at isNumber
        cases isNumber

theorem eq_of_isNaN (notANumber : number.isNaN = true) : number = 0.0 / 0.0 :=
  ext_unpack (Float.Model.UnpackedFloat.isNaN_iff.mp notANumber)

theorem IsNearest.isNaN (nearest : IsNearest value number) : number.isNaN = false := by
  obtain ⟨mantissa, exponent, size, -⟩ := nearest
  exact size.isNaN

theorem signed_isNaN (negative : Bool) (isNumber : number.isNaN = false) :
    (if negative then -number else number).isNaN = false := by
  cases negative with
  | false => exact isNumber
  | true => exact isNaN_neg isNumber

theorem IsNumber.isNaN {negative : Bool} {size : Option Rat}
    (isNumber : IsNumber negative size number) : number.isNaN = false := by
  obtain ⟨absolute, isSize, rfl⟩ := isNumber
  apply signed_isNaN
  cases size with
  | none =>
      subst isSize
      rfl
  | some value => exact IsNearest.isNaN isSize

/-- There is one double for a sign and a size. -/
theorem IsNumber.unique {other : Float} {negative : Bool} {size : Option Rat}
    (isNumber : IsNumber negative size number) (isNumber' : IsNumber negative size other) :
    number = other := by
  obtain ⟨absolute, isSize, rfl⟩ := isNumber
  obtain ⟨absolute', isSize', rfl⟩ := isNumber'
  suffices absolute = absolute' by rw [this]
  cases size with
  | none => exact isSize.trans isSize'.symm
  | some value => exact IsNearest.unique isSize isSize'

theorem Decimal.toFloat_isNearest (decimal : Decimal) : IsNearest decimal.value decimal.toFloat :=
  ofDecimal_isNearest _ _

end Numbers

section Digits

variable {point : CodePoint} {radix digit : Nat} {text : Text} {digits : List Nat}

theorem asciiDigit?_eq_some :
    asciiDigit? radix point = some digit ↔ point.val < 128 ∧ digitIn? radix point = some digit := by
  unfold asciiDigit?
  split
  · next isAscii => simp [isAscii]
  · next notAscii => simp [notAscii]

theorem asciiDigit?_ten :
    asciiDigit? 10 point = some digit ↔ point.val < 128 ∧ point.decimalDigit? = some digit := by
  rw [asciiDigit?_eq_some]
  apply and_congr_right
  intro isAscii
  unfold digitIn?
  cases isDigit : point.decimalDigit? with
  | some value =>
      have small : value < 10 := by
        unfold CodePoint.decimalDigit? CodePoint.isAsciiDigit CodePoint.isBetween at isDigit
        split at isDigit
        · next inRange =>
            simp only [Bool.and_eq_true, decide_eq_true_eq] at inRange
            cases isDigit
            have last : Char.toNat '9' = 57 := rfl
            omega
        · cases isDigit
      simp [small]
  | none =>
      have large (isLetter : point.isAsciiLetter = true) : ¬point.asciiLower.val - 87 < 10 := by
        have ends : Char.toNat 'a' = 97 ∧ Char.toNat 'A' = 65 ∧ Char.toNat 'Z' = 90 :=
          ⟨rfl, rfl, rfl⟩
        unfold CodePoint.isAsciiLetter CodePoint.isBetween at isLetter
        simp only [Bool.or_eq_true, Bool.and_eq_true, decide_eq_true_eq] at isLetter
        unfold CodePoint.asciiLower
        split
        · dsimp only
          omega
        · omega
      by_cases isLetter : point.isAsciiLetter = true
      · simp [isLetter, large isLetter]
      · simp [isLetter]

/-- A numeral of digits alone may have underscores between them. -/
theorem SpellsDigits.separated (spells : SpellsDigits (asciiDigit? radix) text digits)
    (several : digits ≠ []) : SpellsSeparated (digitIn? radix) text digits := by
  induction spells with
  | nil => exact absurd rfl several
  | @cons point digit text digits isDigit spells ih =>
      have isDigit' := (asciiDigit?_eq_some.mp isDigit).2
      cases spells with
      | nil => exact .last isDigit'
      | cons => exact .next isDigit' (ih (List.cons_ne_nil _ _))

end Digits

section Announced

variable {text sign unsigned : Text} {radix : Nat} {negative : Bool} {decimal : Decimal}

theorem announcedRadix?_eq_some_iff : announcedRadix? text = some radix ↔
    ∃ (letter : CodePoint) (rest : Text) (expected : Char),
      text = CodePoint.ofChar '0' :: letter :: rest ∧
        radixLetter? radix = some expected ∧ letter.asciiLower = expected := by
  constructor
  · intro announced
    unfold announcedRadix? at announced
    split at announced
    · next leading letter rest =>
        split_ifs at announced with isZero hexadecimal octal binary
        all_goals
          cases announced
          subst isZero
        · exact ⟨letter, rest, 'x', rfl, rfl, hexadecimal⟩
        · exact ⟨letter, rest, 'o', rfl, rfl, octal⟩
        · exact ⟨letter, rest, 'b', rfl, rfl, binary⟩
    · cases announced
  · rintro ⟨letter, rest, expected, rfl, ofRadix, isLetter⟩
    simp only [announcedRadix?, isLetter, if_true]
    unfold radixLetter? at ofRadix
    split at ofRadix
    · cases ofRadix
      rfl
    · cases ofRadix
      rfl
    · cases ofRadix
      rfl
    · cases ofRadix

theorem announcedRadix?_infinity (spellsSign : SpellsSign sign negative) :
    announcedRadix? (sign ++ "Infinity") = none := by
  cases spellsSign <;> rfl

theorem announcedRadix?_decimal (spellsSign : SpellsSign sign negative)
    (spells : SpellsDecimal CodePoint.decimalDigit? unsigned decimal) :
    announcedRadix? (sign ++ unsigned) = none := by
  by_contra announced
  obtain ⟨radix, announced⟩ := Option.ne_none_iff_exists'.mp announced
  obtain ⟨letter, rest, expected, split, ofRadix, isLetter⟩ :=
    announcedRadix?_eq_some_iff.mp announced
  obtain ⟨-, -, noDigit, noMark⟩ := not_digit_of_radixLetters _ (mem_radixLetters ofRadix isLetter)
  have mem : letter ∈ sign ++ unsigned := by
    rw [split]
    exact List.mem_cons_of_mem _ List.mem_cons_self
  rcases List.mem_append.mp mem with mem | mem
  · exact noMark (spellsSign.within mem)
  · rcases spells.within letter mem with ⟨digit, isDigit⟩ | isMark
    · cases noDigit.symm.trans isDigit
    · exact noMark isMark

end Announced

section Reading

variable {text stripped sign unsigned rest : Text} {letter : CodePoint} {expected : Char}
  {radix : Nat} {negative : Bool} {decimal : Decimal} {integer : Int} {size : Option Rat}

/-- The number of an unsigned decimal numeral or infinity. -/
def unsignedNumber? (unsigned : Text) : Option Float :=
  if unsigned = "Infinity" then some (1.0 / 0.0) else (readDecimal? unsigned).map Decimal.toFloat

/-- The number of an integer; one beyond the range of doubles is positive. -/
def integerNumber (integer : Int) : Float :=
  if (ofInteger integer).isInf then 1.0 / 0.0 else ofInteger integer

theorem ofNumericString_of_empty (trimmed : text.trimBoth CodePoint.isScriptBlank = []) :
    ofNumericString text = 0.0 := by
  unfold ofNumericString
  rw [trimmed]
  rfl

theorem ofNumericString_of_announced (trimmed : text.trimBoth CodePoint.isScriptBlank = stripped)
    (announced : announcedRadix? stripped = some radix) :
    ofNumericString text =
      ((readInteger? radix (stripped.drop 2)).map integerNumber).getD (0.0 / 0.0) := by
  have several : ¬stripped.isEmpty = true := by
    intro isEmpty
    rw [List.isEmpty_iff.mp isEmpty] at announced
    cases announced
  unfold ofNumericString
  rw [trimmed]
  dsimp only
  rw [if_neg several, announced]
  dsimp only
  cases readInteger? radix (stripped.drop 2) <;> rfl

theorem ofNumericString_of_not_announced
    (trimmed : text.trimBoth CodePoint.isScriptBlank = stripped) (several : stripped ≠ [])
    (plain : announcedRadix? stripped = none) :
    ofNumericString text = ((unsignedNumber? (takeSign stripped).2).map fun size =>
      if (takeSign stripped).1 then -size else size).getD (0.0 / 0.0) := by
  have several : ¬stripped.isEmpty = true := by
    simpa using several
  unfold ofNumericString
  rw [trimmed]
  dsimp only
  rw [if_neg several, plain]
  dsimp only
  split
  next size found =>
    have reads : unsignedNumber? (takeSign stripped).2 = some size := found
    rw [reads]
    rfl
  next missing =>
    have reads : unsignedNumber? (takeSign stripped).2 = none := missing
    rw [reads]
    rfl

theorem ofNumericString_infinity (spellsSign : SpellsSign sign negative)
    (trimmed : text.trimBoth CodePoint.isScriptBlank = sign ++ "Infinity") :
    ofNumericString text = if negative then -(1.0 / 0.0) else 1.0 / 0.0 := by
  have several : sign ++ Text.ofString "Infinity" ≠ [] :=
    List.append_ne_nil_of_right_ne_nil _ (List.cons_ne_nil _ _)
  have starts : ∀ point ∈ (Text.ofString "Infinity").head?, point ≠ '-' ∧ point ≠ '+' := by
    rintro _ ⟨⟩
    decide
  rw [ofNumericString_of_not_announced trimmed several (announcedRadix?_infinity spellsSign),
    takeSign_append spellsSign starts]
  rfl

theorem unsignedNumber?_decimal
    (spells : SpellsDecimal CodePoint.decimalDigit? unsigned decimal)
    (ends : unsigned.getLast? ≠ some (CodePoint.ofChar '\n')) :
    unsignedNumber? unsigned = some decimal.toFloat := by
  have notInfinity : unsigned ≠ "Infinity" := by
    rintro rfl
    rcases spells.within (CodePoint.ofChar 'I') (by decide) with ⟨digit, isDigit⟩ | isMark
    · cases isDigit
    · exact absurd isMark (by decide)
  rw [unsignedNumber?, if_neg notInfinity, (readDecimal?_eq_some_iff ends).mpr spells,
    Option.map_some]

theorem unsignedNumber?_spells {number : Float} (found : unsignedNumber? unsigned = some number)
    (ends : unsigned.getLast? ≠ some (CodePoint.ofChar '\n')) :
    unsigned = "Infinity" ∨ ∃ decimal, SpellsDecimal CodePoint.decimalDigit? unsigned decimal := by
  unfold unsignedNumber? at found
  split at found
  · next isInfinity => exact .inl isInfinity
  · obtain ⟨decimal, read, -⟩ := Option.map_eq_some_iff.mp found
    exact .inr ⟨decimal, (readDecimal?_eq_some_iff ends).mp read⟩

theorem getLast?_ne_lineFeed (trimmed : text.trimBoth CodePoint.isScriptBlank = sign ++ unsigned) :
    unsigned.getLast? ≠ some (CodePoint.ofChar '\n') := by
  intro isLast
  have last : ∀ point ∈ (text.trimBoth CodePoint.isScriptBlank).getLast?,
      point.isScriptBlank = false := Text.getLast?_trimBoth
  rw [trimmed, List.getLast?_append, isLast] at last
  exact absurd (last _ rfl) (by decide)

theorem ofNumericString_decimal (spellsSign : SpellsSign sign negative)
    (spells : SpellsDecimal CodePoint.decimalDigit? unsigned decimal)
    (trimmed : text.trimBoth CodePoint.isScriptBlank = sign ++ unsigned) :
    ofNumericString text = if negative then -decimal.toFloat else decimal.toFloat := by
  obtain ⟨first, rest, split, isFirst⟩ := spells.exists_cons
  have starts : ∀ point ∈ unsigned.head?, point ≠ '-' ∧ point ≠ '+' := by
    rw [split]
    rintro _ ⟨⟩
    rcases isFirst with rfl | ⟨digit, isDigit⟩
    · decide
    · constructor <;>
      · rintro rfl
        cases isDigit
  have several : sign ++ unsigned ≠ [] := by
    rw [split]
    simp
  rw [ofNumericString_of_not_announced trimmed several (announcedRadix?_decimal spellsSign spells),
    takeSign_append spellsSign starts]
  dsimp only
  rw [unsignedNumber?_decimal spells (getLast?_ne_lineFeed trimmed)]
  rfl

theorem radix_pos (ofRadix : radixLetter? radix = some expected) : 0 < radix := by
  cases radix with
  | zero => cases ofRadix
  | succ => exact Nat.succ_pos _

theorem ofNumericString_integer (ofRadix : radixLetter? radix = some expected)
    (isLetter : letter.asciiLower = expected) (spells : SpellsInteger radix rest integer)
    (trimmed : text.trimBoth CodePoint.isScriptBlank = CodePoint.ofChar '0' :: letter :: rest) :
    ofNumericString text = integerNumber integer := by
  have announced := announcedRadix?_eq_some_iff.mpr ⟨letter, rest, expected, rfl, ofRadix, isLetter⟩
  rw [ofNumericString_of_announced trimmed announced]
  change ((readInteger? radix rest).map integerNumber).getD _ = _
  rw [(readInteger?_eq_some_iff (radix_pos ofRadix)).mpr spells]
  rfl

theorem integerNumber_isNumber (number : Nat) :
    IsNumber false (some number) (integerNumber number) := by
  have nearest := ofInteger_isNearest number
  refine ⟨_, nearest, ?_⟩
  obtain ⟨mantissa, exponent, size, -⟩ := nearest
  unfold integerNumber
  split
  · next infinite => exact (size.eq_infinity infinite).symm
  · rfl

theorem integerNumber_isNaN (integer : Int) : (integerNumber integer).isNaN = false := by
  unfold integerNumber
  split
  · rfl
  · unfold ofInteger
    have isNumber := (ofDecimal_isNearest integer.natAbs 0).isNaN
    split
    · exact isNaN_neg isNumber
    · exact isNumber

theorem SpellsDecimal.ofAscii (spells : SpellsDecimal (asciiDigit? 10) unsigned decimal) :
    SpellsDecimal CodePoint.decimalDigit? unsigned decimal :=
  spells.mono fun _ _ _ isDigit => (asciiDigit?_ten.mp isDigit).2

/-- What a numeric string denotes is what it is read as. -/
theorem Denotes.isNumber (denotes : Denotes stripped negative size)
    (trimmed : text.trimBoth CodePoint.isScriptBlank = stripped) :
    IsNumber negative size (ofNumericString text) := by
  cases denotes with
  | empty =>
      rw [ofNumericString_of_empty trimmed]
      exact ⟨0.0, isNearest_zero le_rfl (by norm_num), rfl⟩
  | infinity spellsSign =>
      exact ⟨1.0 / 0.0, rfl, ofNumericString_infinity spellsSign trimmed⟩
  | decimal spellsSign spells =>
      exact ⟨_, Decimal.toFloat_isNearest _,
        ofNumericString_decimal spellsSign spells.ofAscii trimmed⟩
  | @integer radix letter expected text digits ofRadix isLetter spells several =>
      have whole : SpellsInteger radix ([] ++ ([] ++ ([] ++ text)) ++ []) (ofDigits radix digits) :=
        @SpellsInteger.intro radix [] [] [] text [] false digits nofun .absent .absent
          (spells.separated several) nofun
      have spellsInteger : SpellsInteger radix text (ofDigits radix digits) := by
        simpa using whole
      rw [ofNumericString_integer ofRadix isLetter spellsInteger trimmed]
      exact integerNumber_isNumber _

theorem Tolerated.isNaN (tolerated : Tolerated stripped)
    (trimmed : text.trimBoth CodePoint.isScriptBlank = stripped) :
    (ofNumericString text).isNaN = false := by
  cases tolerated with
  | @foreign sign unsigned negative decimal spellsSign spells =>
      rw [ofNumericString_decimal spellsSign spells trimmed]
      exact signed_isNaN negative decimal.toFloat_isNearest.isNaN
  | integer ofRadix isLetter spells =>
      rw [ofNumericString_integer ofRadix isLetter spells trimmed]
      exact integerNumber_isNaN _

/-- Whatever is read as a number is a numeric string or is tolerated. -/
theorem denotes_or_tolerated (trimmed : text.trimBoth CodePoint.isScriptBlank = stripped)
    (isNumber : (ofNumericString text).isNaN = false) :
    (∃ negative size, Denotes stripped negative size) ∨ Tolerated stripped := by
  rcases eq_or_ne stripped [] with rfl | several
  · exact .inl ⟨_, _, .empty⟩
  cases announced : announcedRadix? stripped with
  | some radix =>
      rw [ofNumericString_of_announced trimmed announced] at isNumber
      obtain ⟨letter, rest, expected, rfl, ofRadix, isLetter⟩ :=
        announcedRadix?_eq_some_iff.mp announced
      change ((readInteger? radix rest).map integerNumber |>.getD (0.0 / 0.0)).isNaN = false
        at isNumber
      cases read : readInteger? radix rest with
      | none =>
          rw [read] at isNumber
          cases isNumber
      | some integer =>
          have spells := (readInteger?_eq_some_iff (radix_pos ofRadix)).mp read
          by_cases areDigits : ∀ point ∈ rest, asciiDigit? radix point ≠ none
          · obtain ⟨digits, spellsDigits⟩ := exists_spellsDigits areDigits
            refine .inl ⟨_, _, .integer ofRadix isLetter spellsDigits ?_⟩
            rintro rfl
            cases spellsDigits
            exact spells.ne_nil rfl
          · push Not at areDigits
            exact .inr (.integer ofRadix isLetter spells areDigits)
  | none =>
      rw [ofNumericString_of_not_announced trimmed several announced] at isNumber
      obtain ⟨sign, negative, unsigned, signed, rfl, spellsSign⟩ := takeSign_spells stripped
      rw [signed] at isNumber
      dsimp only at isNumber
      cases found : unsignedNumber? unsigned with
      | none =>
          rw [found, Option.map_none] at isNumber
          cases isNumber
      | some number =>
          rcases unsignedNumber?_spells found (getLast?_ne_lineFeed trimmed) with
            rfl | ⟨decimal, spells⟩
          · exact .inl ⟨_, _, .infinity spellsSign⟩
          · by_cases isForeign : ∃ point ∈ unsigned, 128 ≤ point.val
            · exact .inr (.foreign spellsSign spells isForeign)
            · push Not at isForeign
              exact .inl ⟨_, _, .decimal spellsSign (spells.mono fun point mem digit isDigit =>
                asciiDigit?_ten.mpr ⟨isForeign point mem, isDigit⟩)⟩

theorem Denotes.isAscii (denotes : Denotes stripped negative size) :
    ∀ point ∈ stripped, point.val < 128 := by
  have marks : ∀ number ∈ decimalMarks.map Fin.val, number < 128 := by decide
  intro point mem
  cases denotes with
  | empty => cases mem
  | infinity spellsSign =>
      have letters : ∀ number ∈ (Text.ofString "Infinity").map Fin.val, number < 128 := by decide
      rcases List.mem_append.mp mem with mem | mem
      · exact marks _ (List.mem_map_of_mem (spellsSign.within mem))
      · exact letters _ (List.mem_map_of_mem mem)
  | decimal spellsSign spells =>
      rcases List.mem_append.mp mem with mem | mem
      · exact marks _ (List.mem_map_of_mem (spellsSign.within mem))
      rcases spells.within point mem with ⟨digit, isDigit⟩ | mem
      · exact (asciiDigit?_eq_some.mp isDigit).1
      · exact marks _ (List.mem_map_of_mem mem)
  | integer ofRadix isLetter spells =>
      have letters : ∀ letter ∈ radixLetters, letter.2.val < 128 := by decide
      rcases List.mem_cons.mp mem with rfl | mem
      · decide
      rcases List.mem_cons.mp mem with rfl | mem
      · exact letters _ (mem_radixLetters ofRadix isLetter)
      · obtain ⟨digit, isDigit⟩ := spells.exists_digit point mem
        exact (asciiDigit?_eq_some.mp isDigit).1

/-- After the prefix of a radix only its digits denote a number. -/
theorem Denotes.digits_of_announced (denotes : Denotes stripped negative size)
    (announced : announcedRadix? stripped = some radix) :
    ∃ digits, SpellsDigits (asciiDigit? radix) (stripped.drop 2) digits := by
  cases denotes with
  | empty => cases announced
  | infinity spellsSign => cases (announcedRadix?_infinity spellsSign).symm.trans announced
  | decimal spellsSign spells =>
      cases (announcedRadix?_decimal spellsSign spells.ofAscii).symm.trans announced
  | integer ofRadix isLetter spells =>
      cases (announcedRadix?_eq_some_iff.mpr ⟨_, _, _, rfl, ofRadix, isLetter⟩).symm.trans announced
      exact ⟨_, spells⟩

theorem Tolerated.not_denotes (tolerated : Tolerated stripped) :
    ¬Denotes stripped negative size := by
  intro denotes
  cases tolerated with
  | foreign spellsSign spells isForeign =>
      obtain ⟨point, mem, isForeign⟩ := isForeign
      have isAscii := denotes.isAscii point (List.mem_append_right _ mem)
      omega
  | integer ofRadix isLetter spells noDigit =>
      obtain ⟨point, mem, noDigit⟩ := noDigit
      obtain ⟨digits, spells⟩ := denotes.digits_of_announced
        (announcedRadix?_eq_some_iff.mpr ⟨_, _, _, rfl, ofRadix, isLetter⟩)
      obtain ⟨digit, isDigit⟩ := spells.exists_digit point mem
      cases noDigit.symm.trans isDigit

/--
Every numeric string is read as the number that it denotes, and nothing else is a number but what is
tolerated.
-/
theorem ofNumericString_classifies (text : Text) :
    (∀ negative size, Denotes (text.trimBoth CodePoint.isScriptBlank) negative size →
      IsNumber negative size (ofNumericString text)) ∧
    ((ofNumericString text).isNaN = false ↔
      (∃ negative size, Denotes (text.trimBoth CodePoint.isScriptBlank) negative size) ∨
        Tolerated (text.trimBoth CodePoint.isScriptBlank)) ∧
    (Tolerated (text.trimBoth CodePoint.isScriptBlank) →
      ¬∃ negative size, Denotes (text.trimBoth CodePoint.isScriptBlank) negative size) := by
  refine ⟨fun negative size denotes => denotes.isNumber rfl, ⟨denotes_or_tolerated rfl, ?_⟩, ?_⟩
  · rintro (⟨negative, size, denotes⟩ | tolerated)
    · exact (denotes.isNumber rfl).isNaN
    · exact tolerated.isNaN rfl
  · rintro tolerated ⟨negative, size, denotes⟩
    exact tolerated.not_denotes denotes

theorem ofNumericString_classifies_exponent :
    Denotes (Text.trimBoth CodePoint.isScriptBlank "  -1.5e2\n") true (some 150) ∧
      IsNumber true (some 150) (ofNumericString "  -1.5e2\n") := by
  have trimmed : Text.trimBoth CodePoint.isScriptBlank "  -1.5e2\n" = "-1.5e2" := by decide
  have one : SpellsDigits (asciiDigit? 10) "1" [1] := .cons rfl .nil
  have five : SpellsDigits (asciiDigit? 10) "5" [5] := .cons rfl .nil
  have two : SpellsDigits (asciiDigit? 10) "2" [2] := .cons rfl .nil
  have mantissa : SpellsMantissa (asciiDigit? 10) "1.5" [1] [5] :=
    SpellsMantissa.pointed one five (.inl (List.cons_ne_nil _ _))
  have exponent : SpellsExponent (asciiDigit? 10) "e2" 2 :=
    SpellsExponent.marked (.inl rfl) .absent two (List.cons_ne_nil _ _)
  have denotes : Denotes "-1.5e2" true (some (Decimal.value ⟨[1], [5], 2⟩)) :=
    Denotes.decimal .minus (.intro mantissa exponent)
  have value : Decimal.value ⟨[1], [5], 2⟩ = 150 := by norm_num [Decimal.value, ofDigits]
  rw [value, ← trimmed] at denotes
  exact ⟨denotes, (ofNumericString_classifies "  -1.5e2\n").1 true (some 150) denotes⟩

theorem trimBoth_signed_hexadecimal : Text.trimBoth CodePoint.isScriptBlank "0x-1" = "0x-1" := by
  decide

theorem tolerated_signed_hexadecimal : Tolerated "0x-1" := by
  have digit : SpellsSeparated (digitIn? 16) "1" [1] := .last rfl
  have spells : SpellsInteger 16 "-1" (-1) :=
    @SpellsInteger.intro 16 [] "-" [] "1" [] true [1] nofun .minus .absent digit nofun
  exact @Tolerated.integer 16 'x' 'x' "-1" (-1) rfl rfl spells
    ⟨CodePoint.ofChar '-', by decide, rfl⟩

/-- A sign after the prefix of a radix makes no numeric string, yet it is read. -/
theorem not_denotes_signed_hexadecimal :
    (ofNumericString "0x-1").isNaN = false ∧
      ¬∃ negative size, Denotes (Text.trimBoth CodePoint.isScriptBlank "0x-1") negative size := by
  rw [trimBoth_signed_hexadecimal]
  exact ⟨tolerated_signed_hexadecimal.isNaN trimBoth_signed_hexadecimal,
    fun ⟨_, _, denotes⟩ => tolerated_signed_hexadecimal.not_denotes denotes⟩

end Reading

end ComponentInliner.Number
