import ComponentInliner.Number.Numeral
import ComponentInliner.Proofs.Text.Trimming
import Mathlib.Data.List.Forall2
import Mathlib.Tactic

/-!
# Grammar of numerals

How decimal and integer numerals are written, as relations between a text and what it spells. The
relations say nothing about the order in which a text is read; they are given what counts as a
digit, so that they hold for the digits of all scripts and for those of one script alike.

The readers read exactly what the grammar spells (`readDecimal?_eq_some_iff`,
`readInteger?_eq_some_iff`).
-/

namespace ComponentInliner.Number

/-- Digits in a row and their values. -/
abbrev SpellsDigits (digit? : CodePoint → Option Nat) : Text → List Nat → Prop :=
  List.Forall₂ fun point digit => digit? point = some digit

inductive SpellsSign : Text → Bool → Prop
  | absent : SpellsSign [] false
  | plus : SpellsSign ['+'] false
  | minus : SpellsSign ['-'] true

/-- The digits before and after the point of a decimal numeral; it may have none on one side. -/
inductive SpellsMantissa (digit? : CodePoint → Option Nat) : Text → List Nat → List Nat → Prop
  | whole {text : Text} {digits : List Nat} (spells : SpellsDigits digit? text digits)
      (several : digits ≠ []) : SpellsMantissa digit? text digits []
  | pointed {front back : Text} {whole fraction : List Nat}
      (spellsFront : SpellsDigits digit? front whole)
      (spellsBack : SpellsDigits digit? back fraction) (several : whole ≠ [] ∨ fraction ≠ []) :
      SpellsMantissa digit? (front ++ CodePoint.ofChar '.' :: back) whole fraction

inductive SpellsExponent (digit? : CodePoint → Option Nat) : Text → Int → Prop
  | absent : SpellsExponent digit? [] 0
  | marked {mark : CodePoint} {sign text : Text} {negative : Bool} {digits : List Nat}
      (isMark : mark = 'e' ∨ mark = 'E') (spellsSign : SpellsSign sign negative)
      (spells : SpellsDigits digit? text digits) (several : digits ≠ []) :
      SpellsExponent digit? (mark :: (sign ++ text))
        (if negative then -(ofDigits 10 digits : Int) else ofDigits 10 digits)

inductive SpellsDecimal (digit? : CodePoint → Option Nat) : Text → Decimal → Prop
  | intro {front back : Text} {whole fraction : List Nat} {exponent : Int}
      (mantissa : SpellsMantissa digit? front whole fraction)
      (power : SpellsExponent digit? back exponent) :
      SpellsDecimal digit? (front ++ back) ⟨whole, fraction, exponent⟩

/-- Digits with at most one underscore between neighbours. -/
inductive SpellsSeparated (digit? : CodePoint → Option Nat) : Text → List Nat → Prop
  | last {point : CodePoint} {digit : Nat} (isDigit : digit? point = some digit) :
      SpellsSeparated digit? [point] [digit]
  | next {point : CodePoint} {digit : Nat} {text : Text} {digits : List Nat}
      (isDigit : digit? point = some digit) (spells : SpellsSeparated digit? text digits) :
      SpellsSeparated digit? (point :: text) (digit :: digits)
  | separated {point : CodePoint} {digit : Nat} {text : Text} {digits : List Nat}
      (isDigit : digit? point = some digit) (spells : SpellsSeparated digit? text digits) :
      SpellsSeparated digit? (point :: '_' :: text) (digit :: digits)

/-- A zero and the letter of a radix, perhaps with an underscore behind them. -/
inductive SpellsPrefix (radix : Nat) : Text → Prop
  | absent : SpellsPrefix radix []
  | letter {leading letter : CodePoint} {expected : Char} (isZero : leading.decimalDigit? = some 0)
      (ofRadix : radixLetter? radix = some expected) (isLetter : letter.asciiLower = expected) :
      SpellsPrefix radix [leading, letter]
  | separated {leading letter : CodePoint} {expected : Char}
      (isZero : leading.decimalDigit? = some 0) (ofRadix : radixLetter? radix = some expected)
      (isLetter : letter.asciiLower = expected) : SpellsPrefix radix [leading, letter, '_']

/-- An integer numeral: blanks, a sign, a prefix, digits and blanks. -/
inductive SpellsInteger (radix : Nat) : Text → Int → Prop
  | intro {before sign start text after : Text} {negative : Bool} {digits : List Nat}
      (blankBefore : ∀ point ∈ before, point.isNumeralBlank = true)
      (spellsSign : SpellsSign sign negative) (spellsPrefix : SpellsPrefix radix start)
      (spells : SpellsSeparated (digitIn? radix) text digits)
      (blankAfter : ∀ point ∈ after, point.isNumeralBlank = true) :
      SpellsInteger radix (before ++ (sign ++ (start ++ text)) ++ after)
        (if negative then -(ofDigits radix digits : Int) else ofDigits radix digits)

section Digits

variable {front rest text : Text} {digits : List Nat}

theorem takeDigits_append (spells : SpellsDigits CodePoint.decimalDigit? front digits)
    (stops : ∀ point ∈ rest.head?, point.decimalDigit? = none) :
    takeDigits (front ++ rest) = (digits, rest) := by
  induction spells with
  | nil =>
      cases rest with
      | nil => rfl
      | cons point rest => simp [takeDigits, stops point rfl]
  | cons isDigit _ ih => simp [takeDigits, isDigit, ih]

theorem takeDigits_spells (text : Text) : ∃ front digits rest,
    takeDigits text = (digits, rest) ∧ text = front ++ rest ∧
      SpellsDigits CodePoint.decimalDigit? front digits ∧
      ∀ point ∈ rest.head?, point.decimalDigit? = none := by
  induction text with
  | nil => exact ⟨[], [], [], rfl, rfl, .nil, nofun⟩
  | cons point text ih =>
      cases isDigit : point.decimalDigit? with
      | none =>
          refine ⟨[], [], point :: text, by simp [takeDigits, isDigit], rfl, .nil, ?_⟩
          rintro _ ⟨⟩
          exact isDigit
      | some digit =>
          obtain ⟨front, digits, rest, taken, rfl, spells, stops⟩ := ih
          exact ⟨point :: front, digit :: digits, rest, by simp [takeDigits, isDigit, taken], rfl,
            .cons isDigit spells, stops⟩

end Digits

section Signs

/-- A sign at the front of a text, and what follows it. -/
def takeSign (text : Text) : Bool × Text :=
  match text with
  | sign :: rest =>
      if sign = '-' then (true, rest) else if sign = '+' then (false, rest) else (false, text)
  | [] => (false, [])

theorem takeSign_append {sign unsigned : Text} {negative : Bool}
    (spells : SpellsSign sign negative)
    (starts : ∀ point ∈ unsigned.head?, point ≠ '-' ∧ point ≠ '+') :
    takeSign (sign ++ unsigned) = (negative, unsigned) := by
  cases spells with
  | absent =>
      cases unsigned with
      | nil => rfl
      | cons point rest =>
          obtain ⟨notMinus, notPlus⟩ := starts point rfl
          simp [takeSign, notMinus, notPlus]
  | plus => rfl
  | minus => rfl

theorem takeSign_spells (text : Text) : ∃ sign negative unsigned,
    takeSign text = (negative, unsigned) ∧ text = sign ++ unsigned ∧ SpellsSign sign negative := by
  cases text with
  | nil => exact ⟨[], false, [], rfl, rfl, .absent⟩
  | cons point rest =>
      by_cases isMinus : point = '-'
      · subst isMinus
        exact ⟨['-'], true, rest, rfl, rfl, .minus⟩
      by_cases isPlus : point = '+'
      · subst isPlus
        exact ⟨['+'], false, rest, rfl, rfl, .plus⟩
      · exact ⟨[], false, point :: rest, by simp [takeSign, isMinus, isPlus], rfl, .absent⟩

end Signs

section Exponents

variable {text : Text} {exponent : Int}

theorem takeExponent?_cons (mark : CodePoint) (rest : Text) :
    takeExponent? (mark :: rest) =
      if mark = 'e' ∨ mark = 'E' then
        match takeDigits (takeSign rest).2 with
        | ([], _) => none
        | (digits, after) =>
            some (if (takeSign rest).1 then -(ofDigits 10 digits : Int) else ofDigits 10 digits,
              after)
      else none := by
  cases rest with
  | nil => rfl
  | cons sign more =>
      simp only [takeExponent?, takeSign]
      split_ifs <;> rfl

theorem takeExponent?_spells {rest : Text} (taken : takeExponent? text = some (exponent, rest)) :
    ∃ front, text = front ++ rest ∧ SpellsExponent CodePoint.decimalDigit? front exponent := by
  cases text with
  | nil => cases taken
  | cons mark more =>
      rw [takeExponent?_cons] at taken
      obtain ⟨sign, negative, unsigned, signed, rfl, spellsSign⟩ := takeSign_spells more
      obtain ⟨front, digits, after, digitsTaken, rfl, spells, -⟩ := takeDigits_spells unsigned
      simp only [signed, digitsTaken] at taken
      split at taken
      · next isMark =>
          cases digits with
          | nil => cases taken
          | cons digit digits =>
              cases taken
              exact ⟨mark :: (sign ++ front), by simp,
                .marked isMark spellsSign spells (List.cons_ne_nil _ _)⟩
      · cases taken

theorem takeExponent?_of_spells (spells : SpellsExponent CodePoint.decimalDigit? text exponent)
    (several : text ≠ []) : takeExponent? text = some (exponent, []) := by
  cases spells with
  | absent => exact absurd rfl several
  | @marked mark sign text negative digits isMark spellsSign spells nonempty =>
      have starts : ∀ point ∈ text.head?, point ≠ '-' ∧ point ≠ '+' := by
        rintro point isFirst
        cases spells with
        | nil => cases isFirst
        | cons isDigit _ =>
            cases isFirst
            constructor <;>
            · rintro rfl
              cases isDigit
      have taken : takeDigits (text ++ []) = (digits, []) := takeDigits_append spells nofun
      rw [List.append_nil] at taken
      rw [takeExponent?_cons, if_pos isMark, takeSign_append spellsSign starts, taken]
      cases digits with
      | nil => exact absurd rfl nonempty
      | cons digit digits => rfl

end Exponents

section Decimals

variable {text rest : Text} {decimal : Decimal} {whole fraction : List Nat} {exponent : Int}

/-- The digits of a decimal numeral at the front of a text, without its exponent. -/
def takeMantissa? (text : Text) : Option ((List Nat × List Nat) × Text) :=
  let (whole, afterWhole) := takeDigits text
  match afterWhole with
  | point :: rest =>
      if point = '.' then
        let (fraction, after) := takeDigits rest
        if whole.isEmpty && fraction.isEmpty then none else some ((whole, fraction), after)
      else if whole.isEmpty then none else some ((whole, []), afterWhole)
  | [] => if whole.isEmpty then none else some ((whole, []), [])

/-- The exponent at the front of a text; one that is left out is zero. -/
def takePower (text : Text) : Int × Text :=
  (takeExponent? text).getD (0, text)

theorem takeDecimal?_eq (text : Text) : takeDecimal? text =
    (takeMantissa? text).map fun ((whole, fraction), after) =>
      (⟨whole, fraction, (takePower after).1⟩, (takePower after).2) := by
  unfold takeDecimal? takeMantissa? takePower
  rcases takeDigits text with ⟨whole, _ | ⟨point, rest⟩⟩
  · dsimp only
    split_ifs
    · rfl
    · rfl
  · dsimp only
    split_ifs
    · rfl
    · rcases takeDigits rest with ⟨fraction, after⟩
      simp only [Option.map_some]
      cases takeExponent? after <;> rfl
    · rfl
    · simp only [Option.map_some]
      cases takeExponent? (point :: rest) <;> rfl

theorem takePower_spells (after : Text) : ∃ back, after = back ++ (takePower after).2 ∧
    SpellsExponent CodePoint.decimalDigit? back (takePower after).1 := by
  unfold takePower
  cases found : takeExponent? after with
  | none => exact ⟨[], rfl, .absent⟩
  | some power => exact takeExponent?_spells found

theorem takePower_of_spells (spells : SpellsExponent CodePoint.decimalDigit? text exponent) :
    takePower text = (exponent, []) := by
  unfold takePower
  cases text with
  | nil =>
      cases spells
      rfl
  | cons point more => rw [takeExponent?_of_spells spells (List.cons_ne_nil _ _), Option.getD_some]

theorem takeMantissa?_spells (taken : takeMantissa? text = some ((whole, fraction), rest)) :
    ∃ front, text = front ++ rest ∧
      SpellsMantissa CodePoint.decimalDigit? front whole fraction := by
  obtain ⟨front, digits, afterWhole, digitsTaken, rfl, spells, -⟩ := takeDigits_spells text
  unfold takeMantissa? at taken
  rw [digitsTaken] at taken
  have notEmpty (isEmpty : ¬digits.isEmpty = true) : digits ≠ [] := by
    simpa using isEmpty
  cases afterWhole with
  | nil =>
      dsimp only at taken
      split at taken
      · cases taken
      · next several =>
          cases taken
          exact ⟨front, rfl, .whole spells (notEmpty several)⟩
  | cons point more =>
      dsimp only at taken
      split at taken
      · next isPoint =>
          obtain ⟨back, digits', after, digitsTaken', rfl, spells', -⟩ := takeDigits_spells more
          rw [digitsTaken'] at taken
          dsimp only at taken
          split at taken
          · cases taken
          · next several =>
              cases taken
              subst isPoint
              refine ⟨front ++ CodePoint.ofChar '.' :: back, by simp, .pointed spells spells' ?_⟩
              simpa [or_iff_not_imp_left] using several
      · split at taken
        · cases taken
        · next several =>
            cases taken
            exact ⟨front, rfl, .whole spells (notEmpty several)⟩

theorem takeMantissa?_append {front : Text}
    (spells : SpellsMantissa CodePoint.decimalDigit? front whole fraction)
    (stops : ∀ point ∈ rest.head?, point.decimalDigit? = none ∧ point ≠ '.') :
    takeMantissa? (front ++ rest) = some ((whole, fraction), rest) := by
  have ends : ∀ point ∈ rest.head?, point.decimalDigit? = none := fun point isFirst =>
    (stops point isFirst).1
  cases spells with
  | whole spells several =>
      unfold takeMantissa?
      rw [takeDigits_append spells ends]
      cases rest with
      | nil => simp [several]
      | cons point more => simp [several, (stops point rfl).2]
  | @pointed front back whole fraction spellsFront spellsBack several =>
      have dot : ∀ point ∈ (CodePoint.ofChar '.' :: (back ++ rest)).head?,
          point.decimalDigit? = none := by
        rintro _ ⟨⟩
        rfl
      have someDigit : ¬(whole.isEmpty && fraction.isEmpty) = true := by
        simpa [or_iff_not_imp_left] using several
      unfold takeMantissa?
      rw [List.append_assoc, List.cons_append, takeDigits_append spellsFront dot]
      dsimp only
      rw [if_pos rfl, takeDigits_append spellsBack ends]
      dsimp only
      rw [if_neg someDigit]

/-- What is read as a decimal numeral at the front of a text is one. -/
theorem takeDecimal?_spells (taken : takeDecimal? text = some (decimal, rest)) :
    ∃ front, text = front ++ rest ∧ SpellsDecimal CodePoint.decimalDigit? front decimal := by
  rw [takeDecimal?_eq] at taken
  obtain ⟨⟨⟨whole, fraction⟩, after⟩, mantissa, same⟩ := Option.map_eq_some_iff.mp taken
  obtain ⟨front, rfl, spells⟩ := takeMantissa?_spells mantissa
  obtain ⟨back, split, power⟩ := takePower_spells after
  cases same
  exact ⟨front ++ back, by rw [List.append_assoc, ← split], .intro spells power⟩

theorem SpellsExponent.stops (spells : SpellsExponent CodePoint.decimalDigit? text exponent) :
    ∀ point ∈ text.head?, point.decimalDigit? = none ∧ point ≠ '.' := by
  rintro point isFirst
  cases spells with
  | absent => cases isFirst
  | marked isMark =>
      cases isFirst
      rcases isMark with rfl | rfl
      · exact ⟨rfl, by decide⟩
      · exact ⟨rfl, by decide⟩

theorem takeDecimal?_of_spells (spells : SpellsDecimal CodePoint.decimalDigit? text decimal) :
    takeDecimal? text = some (decimal, []) := by
  cases spells with
  | intro mantissa power =>
      rw [takeDecimal?_eq, takeMantissa?_append mantissa power.stops, Option.map_some]
      dsimp only
      rw [takePower_of_spells power]

/-- The decimal numerals that are read are those that the grammar spells. -/
theorem readDecimal?_eq_some_iff (ends : text.getLast? ≠ some (CodePoint.ofChar '\n')) :
    readDecimal? text = some decimal ↔ SpellsDecimal CodePoint.decimalDigit? text decimal := by
  constructor
  · intro read
    unfold readDecimal? at read
    split at read
    · next taken =>
        cases read
        obtain ⟨front, rfl, spells⟩ := takeDecimal?_spells taken
        rw [List.append_nil]
        exact spells
    · next last taken =>
        obtain ⟨front, rfl, -⟩ := takeDecimal?_spells taken
        split at read
        · next isLineFeed =>
            rw [List.getLast?_concat, isLineFeed] at ends
            exact absurd rfl ends
        · cases read
    · cases read
  · intro spells
    unfold readDecimal?
    rw [takeDecimal?_of_spells spells]

end Decimals

section Classes

variable {point : CodePoint} {radix digit : Nat}

/-- The code points that may stand before and after an integer numeral. -/
def numeralBlanks : List Nat :=
  [9, 10, 11, 12, 13, 32, 0x85, 0xA0, 0x1680, 0x2000, 0x2001, 0x2002, 0x2003, 0x2004, 0x2005,
    0x2006, 0x2007, 0x2008, 0x2009, 0x200A, 0x2028, 0x2029, 0x202F, 0x205F, 0x3000]

theorem mem_numeralBlanks (isBlank : point.isNumeralBlank = true) :
    point.val ∈ numeralBlanks := by
  simp only [CodePoint.isNumeralBlank, CodePoint.isBlank, Bool.and_eq_true, Bool.or_eq_true,
    decide_eq_true_eq, Bool.not_eq_true', Bool.and_eq_false_iff, decide_eq_false_iff_not] at isBlank
  simp only [numeralBlanks, List.mem_cons, List.not_mem_nil, or_false]
  omega

theorem not_digit_of_numeralBlanks : ∀ number ∈ numeralBlanks, ∀ inRange : number < 0x110000,
    CodePoint.decimalDigit? ⟨number, inRange⟩ = none ∧
      CodePoint.isAsciiLetter ⟨number, inRange⟩ = false := by
  decide

theorem isNumeralBlank_of_digitIn? (isDigit : digitIn? radix point = some digit) :
    point.isNumeralBlank = false := by
  by_contra isBlank
  rw [Bool.not_eq_false] at isBlank
  obtain ⟨noDigit, noLetter⟩ :=
    not_digit_of_numeralBlanks point.val (mem_numeralBlanks isBlank) point.isLt
  simp only [Fin.eta] at noDigit noLetter
  simp [digitIn?, noDigit, noLetter] at isDigit

theorem ne_of_digitIn? (isDigit : digitIn? radix point = some digit) {other : CodePoint}
    (noDigit : other.decimalDigit? = none) (noLetter : other.isAsciiLetter = false) :
    point ≠ other := by
  rintro rfl
  simp [digitIn?, noDigit, noLetter] at isDigit

theorem digitIn?_of_digit (isDigit : point.decimalDigit? = some digit) (less : digit < radix) :
    digitIn? radix point = some digit := by
  simp [digitIn?, isDigit, less]

theorem asciiLower_cases {letter : CodePoint} {number : Nat}
    (isLetter : letter.asciiLower.val = number) :
    letter.val = number ∨ letter.val + 32 = number := by
  unfold CodePoint.asciiLower at isLetter
  split at isLetter
  · exact .inr isLetter
  · exact .inl isLetter

/-- The letters of the radices in both cases. -/
def radixLetters : List (Nat × CodePoint) :=
  [(16, 'x'), (16, 'X'), (8, 'o'), (8, 'O'), (2, 'b'), (2, 'B')]

theorem mem_radixLetters {letter : CodePoint} {expected : Char}
    (ofRadix : radixLetter? radix = some expected) (isLetter : letter.asciiLower = expected) :
    (radix, letter) ∈ radixLetters := by
  have either := asciiLower_cases (congrArg Fin.val isLetter)
  have both (upperCase : CodePoint) (upper : upperCase.val + 32 = (CodePoint.ofChar expected).val) :
      letter = expected ∨ letter = upperCase := by
    rcases either with same | lowered
    · exact .inl (Fin.ext same)
    · exact .inr (Fin.ext (Nat.add_right_cancel (lowered.trans upper.symm)))
  unfold radixLetter? at ofRadix
  split at ofRadix
  · cases ofRadix
    rcases both 'X' rfl with rfl | rfl <;> decide
  · cases ofRadix
    rcases both 'O' rfl with rfl | rfl <;> decide
  · cases ofRadix
    rcases both 'B' rfl with rfl | rfl <;> decide
  · cases ofRadix

/-- What else than digits stands in a decimal numeral. -/
def decimalMarks : Text :=
  ['.', 'e', 'E', '+', '-']

/-- The letter of a radix is no digit of it, and it stands in no decimal numeral. -/
theorem not_digit_of_radixLetters : ∀ letter ∈ radixLetters,
    digitIn? letter.1 letter.2 = none ∧ letter.2 ≠ '_' ∧ letter.2.decimalDigit? = none ∧
      letter.2 ∉ decimalMarks := by
  decide

end Classes

section Integers

variable {radix : Nat} {text start : Text} {digits : List Nat} {integer : Int}

theorem separatedDigits?_spells (read : separatedDigits? radix text = some digits) :
    SpellsSeparated (digitIn? radix) text digits := by
  fun_induction separatedDigits? radix text generalizing digits with
  | case1 => cases read
  | case2 point =>
      obtain ⟨digit, isDigit, rfl⟩ := Option.map_eq_some_iff.mp read
      exact .last isDigit
  | case3 => cases read
  | case4 point rest digit isDigit ih =>
      obtain ⟨more, later, rfl⟩ := Option.map_eq_some_iff.mp read
      exact .separated isDigit (ih later)
  | case5 point next rest digit isDigit _ ih =>
      obtain ⟨more, later, rfl⟩ := Option.map_eq_some_iff.mp read
      exact .next isDigit (ih later)

theorem SpellsSeparated.exists_cons (spells : SpellsSeparated (digitIn? radix) text digits) :
    ∃ point rest digit, text = point :: rest ∧ digitIn? radix point = some digit := by
  cases spells with
  | last isDigit => exact ⟨_, _, _, rfl, isDigit⟩
  | next isDigit => exact ⟨_, _, _, rfl, isDigit⟩
  | separated isDigit => exact ⟨_, _, _, rfl, isDigit⟩

theorem SpellsSeparated.getLast? (spells : SpellsSeparated (digitIn? radix) text digits) :
    ∃ last digit, text.getLast? = some last ∧ digitIn? radix last = some digit := by
  induction spells with
  | last isDigit => exact ⟨_, _, rfl, isDigit⟩
  | next _ spells ih =>
      obtain ⟨first, rest, -, rfl, -⟩ := spells.exists_cons
      rw [List.getLast?_cons_cons]
      exact ih
  | separated _ spells ih =>
      obtain ⟨first, rest, -, rfl, -⟩ := spells.exists_cons
      rw [List.getLast?_cons_cons, List.getLast?_cons_cons]
      exact ih

theorem separatedDigits?_of_spells (spells : SpellsSeparated (digitIn? radix) text digits) :
    separatedDigits? radix text = some digits := by
  induction spells with
  | last isDigit => simp [separatedDigits?, isDigit]
  | next isDigit spells ih =>
      obtain ⟨first, rest, _, rfl, isFirst⟩ := spells.exists_cons
      have notSeparator : first ≠ '_' := ne_of_digitIn? isFirst rfl rfl
      simp [separatedDigits?, isDigit, notSeparator, ih]
  | separated isDigit _ ih => simp [separatedDigits?, isDigit, ih]

theorem dropRadixPrefix_spells (radix : Nat) (text : Text) : ∃ start,
    text = start ++ dropRadixPrefix radix text ∧ SpellsPrefix radix start := by
  unfold dropRadixPrefix
  split
  · next leading letter rest expected ofRadix =>
      split
      · next announced =>
          cases rest with
          | nil => exact ⟨[leading, letter], rfl, .letter announced.1 ofRadix announced.2⟩
          | cons separator more =>
              dsimp only
              split
              · next isSeparator =>
                  subst isSeparator
                  exact ⟨[leading, letter, '_'], rfl, .separated announced.1 ofRadix announced.2⟩
              · exact ⟨[leading, letter], rfl, .letter announced.1 ofRadix announced.2⟩
      · exact ⟨[], rfl, .absent⟩
  · exact ⟨[], rfl, .absent⟩

/-- A zero that is a digit is followed by no letter of the radix, so nothing is dropped. -/
theorem dropRadixPrefix_of_spells (spells : SpellsSeparated (digitIn? radix) text digits) :
    dropRadixPrefix radix text = text := by
  unfold dropRadixPrefix
  split
  · next leading letter rest expected ofRadix =>
      rw [if_neg]
      rintro ⟨-, isLetter⟩
      obtain ⟨noDigit, notSeparator, -, -⟩ :=
        not_digit_of_radixLetters _ (mem_radixLetters ofRadix isLetter)
      cases spells with
      | next _ spells =>
          obtain ⟨_, _, _, same, isDigit⟩ := spells.exists_cons
          cases same
          cases noDigit.symm.trans isDigit
      | separated => exact notSeparator rfl
  · rfl

theorem dropRadixPrefix_append (begins : SpellsPrefix radix start)
    (spells : SpellsSeparated (digitIn? radix) text digits) :
    dropRadixPrefix radix (start ++ text) = text := by
  cases begins with
  | absent => exact dropRadixPrefix_of_spells spells
  | letter isZero ofRadix isLetter =>
      obtain ⟨first, rest, _, rfl, isFirst⟩ := spells.exists_cons
      have notSeparator : first ≠ '_' := ne_of_digitIn? isFirst rfl rfl
      simp [dropRadixPrefix, ofRadix, isZero, isLetter, notSeparator]
  | separated isZero ofRadix isLetter => simp [dropRadixPrefix, ofRadix, isZero, isLetter]

theorem readInteger?_eq (radix : Nat) (text : Text) :
    readInteger? radix text =
      (separatedDigits? radix
        (dropRadixPrefix radix (takeSign (text.trimBoth CodePoint.isNumeralBlank)).2)).map
          fun digits =>
            if (takeSign (text.trimBoth CodePoint.isNumeralBlank)).1 then
              -(ofDigits radix digits : Int)
            else
              ofDigits radix digits :=
  rfl

/-- The digits of an integer numeral with what may stand before them begin with a digit. -/
theorem SpellsPrefix.exists_cons (begins : SpellsPrefix radix start) (several : 0 < radix)
    (spells : SpellsSeparated (digitIn? radix) text digits) :
    ∃ point rest digit, start ++ text = point :: rest ∧ digitIn? radix point = some digit := by
  cases begins with
  | absent => exact spells.exists_cons
  | letter isZero => exact ⟨_, _, _, rfl, digitIn?_of_digit isZero several⟩
  | separated isZero => exact ⟨_, _, _, rfl, digitIn?_of_digit isZero several⟩

theorem SpellsInteger.ne_nil (spells : SpellsInteger radix text integer) : text ≠ [] := by
  obtain ⟨-, -, -, spells, -⟩ := spells
  obtain ⟨first, rest, -, rfl, -⟩ := spells.exists_cons
  simp

/-- The integer numerals that are read are those that the grammar spells. -/
theorem readInteger?_eq_some_iff (several : 0 < radix) :
    readInteger? radix text = some integer ↔ SpellsInteger radix text integer := by
  constructor
  · intro read
    rw [readInteger?_eq] at read
    obtain ⟨before, after, whole, blankBefore, blankAfter⟩ :=
      Text.exists_trimBoth CodePoint.isNumeralBlank text
    obtain ⟨sign, negative, unsigned, signed, split, spellsSign⟩ :=
      takeSign_spells (text.trimBoth CodePoint.isNumeralBlank)
    obtain ⟨start, begins, spellsPrefix⟩ := dropRadixPrefix_spells radix unsigned
    rw [signed] at read
    obtain ⟨digits, found, rfl⟩ := Option.map_eq_some_iff.mp read
    rw [split] at whole
    dsimp only at found
    generalize dropRadixPrefix radix unsigned = rest at begins found
    subst begins whole
    exact .intro blankBefore spellsSign spellsPrefix (separatedDigits?_spells found) blankAfter
  · rintro ⟨blankBefore, spellsSign, spellsPrefix, spells, blankAfter⟩
    next before sign start text after negative digits =>
    obtain ⟨first, rest, _, split, isFirst⟩ := spellsPrefix.exists_cons several spells
    have starts : ∀ point ∈ (start ++ text).head?, point ≠ '-' ∧ point ≠ '+' := by
      rw [split]
      rintro _ ⟨⟩
      exact ⟨ne_of_digitIn? isFirst rfl rfl, ne_of_digitIn? isFirst rfl rfl⟩
    have trimmed :
        (before ++ (sign ++ (start ++ text)) ++ after).trimBoth CodePoint.isNumeralBlank =
          sign ++ (start ++ text) := by
      apply Text.trimBoth_append blankBefore blankAfter
      · cases spellsSign with
        | absent =>
            rw [List.nil_append, split]
            rintro _ ⟨⟩
            exact isNumeralBlank_of_digitIn? isFirst
        | plus =>
            rintro _ ⟨⟩
            rfl
        | minus =>
            rintro _ ⟨⟩
            rfl
      · obtain ⟨last, digit, isLast, isDigit⟩ := spells.getLast?
        rw [← List.append_assoc, List.getLast?_append, isLast]
        rintro _ ⟨⟩
        exact isNumeralBlank_of_digitIn? isDigit
    rw [readInteger?_eq, trimmed, takeSign_append spellsSign starts]
    dsimp only
    rw [dropRadixPrefix_append spellsPrefix spells, separatedDigits?_of_spells spells,
      Option.map_some]

end Integers

section Characters

variable {text : Text} {digit? other? : CodePoint → Option Nat} {decimal : Decimal}

theorem SpellsDigits.exists_digit {digits : List Nat} (spells : SpellsDigits digit? text digits) :
    ∀ point ∈ text, ∃ digit, digit? point = some digit := by
  intro point mem
  induction spells with
  | nil => cases mem
  | cons isDigit _ ih =>
      rcases List.mem_cons.mp mem with rfl | later
      · exact ⟨_, isDigit⟩
      · exact ih later

theorem SpellsDigits.mono {digits : List Nat} (spells : SpellsDigits digit? text digits)
    (agree : ∀ point ∈ text, ∀ digit, digit? point = some digit → other? point = some digit) :
    SpellsDigits other? text digits := by
  induction spells with
  | nil => exact .nil
  | cons isDigit _ ih =>
      obtain ⟨first, later⟩ := List.forall_mem_cons.mp agree
      exact .cons (first _ isDigit) (ih later)

theorem exists_spellsDigits (areDigits : ∀ point ∈ text, digit? point ≠ none) :
    ∃ digits, SpellsDigits digit? text digits := by
  induction text with
  | nil => exact ⟨[], .nil⟩
  | cons point rest ih =>
      obtain ⟨first, later⟩ := List.forall_mem_cons.mp areDigits
      obtain ⟨digit, isDigit⟩ := Option.ne_none_iff_exists'.mp first
      obtain ⟨digits, spells⟩ := ih later
      exact ⟨digit :: digits, .cons isDigit spells⟩

theorem SpellsSign.within {sign : Text} {negative : Bool} (spells : SpellsSign sign negative) :
    sign ⊆ decimalMarks := by
  cases spells with
  | absent => exact List.nil_subset _
  | plus | minus => decide

theorem SpellsDecimal.within (spells : SpellsDecimal digit? text decimal) :
    ∀ point ∈ text, (∃ digit, digit? point = some digit) ∨ point ∈ decimalMarks := by
  intro point mem
  obtain ⟨mantissa, power⟩ := spells
  rcases List.mem_append.mp mem with mem | mem
  · cases mantissa with
    | whole spells => exact .inl (spells.exists_digit point mem)
    | pointed spellsFront spellsBack =>
        rcases List.mem_append.mp mem with mem | mem
        · exact .inl (spellsFront.exists_digit point mem)
        rcases List.mem_cons.mp mem with rfl | mem
        · exact .inr (by decide)
        · exact .inl (spellsBack.exists_digit point mem)
  · cases power with
    | absent => cases mem
    | marked isMark spellsSign spells =>
        rcases List.mem_cons.mp mem with rfl | mem
        · rcases isMark with rfl | rfl
          · exact .inr (by decide)
          · exact .inr (by decide)
        rcases List.mem_append.mp mem with mem | mem
        · exact .inr (spellsSign.within mem)
        · exact .inl (spells.exists_digit point mem)

theorem SpellsDecimal.exists_cons (spells : SpellsDecimal digit? text decimal) :
    ∃ point rest, text = point :: rest ∧
      (point = '.' ∨ ∃ digit, digit? point = some digit) := by
  obtain ⟨mantissa, power⟩ := spells
  cases mantissa with
  | whole spells several =>
      cases spells with
      | nil => exact absurd rfl several
      | cons isDigit => exact ⟨_, _, rfl, .inr ⟨_, isDigit⟩⟩
  | pointed spellsFront =>
      cases spellsFront with
      | nil => exact ⟨_, _, rfl, .inl rfl⟩
      | cons isDigit => exact ⟨_, _, rfl, .inr ⟨_, isDigit⟩⟩

theorem SpellsDecimal.mono (spells : SpellsDecimal digit? text decimal)
    (agree : ∀ point ∈ text, ∀ digit, digit? point = some digit → other? point = some digit) :
    SpellsDecimal other? text decimal := by
  obtain ⟨mantissa, power⟩ := spells
  obtain ⟨onFront, onBack⟩ := List.forall_mem_append.mp agree
  constructor
  · cases mantissa with
    | whole spells several => exact .whole (spells.mono onFront) several
    | pointed spellsFront spellsBack several =>
        obtain ⟨onWhole, onRest⟩ := List.forall_mem_append.mp onFront
        obtain ⟨-, onFraction⟩ := List.forall_mem_cons.mp onRest
        exact .pointed (spellsFront.mono onWhole) (spellsBack.mono onFraction) several
  · cases power with
    | absent => exact .absent
    | marked isMark spellsSign spells several =>
        obtain ⟨-, onRest⟩ := List.forall_mem_cons.mp onBack
        obtain ⟨-, onDigits⟩ := List.forall_mem_append.mp onRest
        exact .marked isMark spellsSign (spells.mono onDigits) several

end Characters

end ComponentInliner.Number
