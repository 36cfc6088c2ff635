import ComponentInliner.Proofs.Number.Grammar
import ComponentInliner.Proofs.Number.Layout
import ComponentInliner.Proofs.Number.NearestEven
import ComponentInliner.Proofs.Text.CodeUnitBytes
import ComponentInliner.Value.Property

/-!
# Elements of arrays and strings

A property of an array or a string is its length, the element at an index, or no constant. The keys
that read an element are the decimals of the natural numbers, and some strings beyond these
(`IsLooseIndex`): digits of other scripts, and indices with a line feed behind them. What the read
gives at an index is `ReadsAt`; an index with too many digits is not read at all.

A number as a key is none of these exceptions (`toText_points`, `length_le_of_toText`).
-/

namespace ComponentInliner

namespace Value

/-- How many elements an array or a string has; those of a string are its code units. -/
inductive HasLength : Value → Nat → Prop
  | array (origin : Span) (elements : List Value) :
      HasLength (.array origin elements) elements.length
  | string (text : Text) : HasLength (.string text) text.units.length

/-- What is read from an array or a string at an index. -/
inductive ReadsAt : Value → Nat → Except ValueFault Value → Prop
  | element {origin : Span} {elements : List Value} {index : Nat} {value : Value}
      (found : elements[index]? = some value) : ReadsAt (.array origin elements) index (.ok value)
  | beyondElements {origin : Span} {elements : List Value} {index : Nat}
      (beyond : elements.length ≤ index) : ReadsAt (.array origin elements) index (.ok .undefined)
  | unit {text : Text} {index : Nat} {unit : CodeUnit} (found : text.units[index]? = some unit)
      (isWhole : (CodePoint.ofUnit unit).isSurrogate = false) :
      ReadsAt (.string text) index (.ok (.string [CodePoint.ofUnit unit]))
  | half {text : Text} {index : Nat} {unit : CodeUnit} (found : text.units[index]? = some unit)
      (isHalf : (CodePoint.ofUnit unit).isSurrogate = true) :
      ReadsAt (.string text) index (.error (.splitPair index))
  | beyondUnits {text : Text} {index : Nat} (beyond : text.units.length ≤ index) :
      ReadsAt (.string text) index (.ok .undefined)

/-- The digits of an index in any script: a zero alone, or an ASCII digit that is no zero and more
digits. -/
inductive SpellsIndex : Text → List Nat → Prop
  | zero : SpellsIndex "0" [0]
  | digits {first : CodePoint} {rest : Text} {digits : List Nat}
      (isFirst : first.isBetween '1' '9' = true)
      (spells : Number.SpellsDigits CodePoint.decimalDigit? (first :: rest) digits) :
      SpellsIndex (first :: rest) digits

/-- Names that are read as an index although they are no decimals of natural numbers. -/
inductive IsLooseIndex : Text → List Nat → Prop
  | foreign {name : Text} {digits : List Nat} (spells : SpellsIndex name digits)
      (isForeign : ∃ point ∈ name, 128 ≤ point.val) : IsLooseIndex name digits
  | lineFeed {name : Text} {digits : List Nat} (spells : SpellsIndex name digits) :
      IsLooseIndex (name ++ "\n") digits

section Indices

open Number

variable {name : Text} {digits : List Nat} {index : Nat}

theorem SpellsIndex.spellsDigits (spells : SpellsIndex name digits) :
    SpellsDigits CodePoint.decimalDigit? name digits := by
  cases spells with
  | zero => exact .cons rfl .nil
  | digits _ spells => exact spells

/-- The digits that are read as an index, with what may follow them. -/
theorem indexDigits?_eq_some_iff : indexDigits? name = some digits ↔
    ∃ text after, SpellsIndex text digits ∧ (after = [] ∨ after = Text.ofString "\n") ∧
      name = text ++ after := by
  constructor
  · intro found
    obtain ⟨front, values, after, taken, rfl, spells, -⟩ := takeDigits_spells name
    unfold indexDigits? at found
    rw [taken] at found
    dsimp only at found
    split at found
    · next ends =>
        cases spells with
        | nil =>
            rcases ends with rfl | rfl
            · cases found
            · cases found
        | @cons first value front values isDigit spells =>
            rw [List.cons_append] at found
            dsimp only at found
            split_ifs at found with isZero single isFirst
            · cases found
              subst isZero
              obtain rfl : values = [] := List.length_eq_zero_iff.mp (Nat.succ.inj single)
              cases spells
              cases isDigit
              exact ⟨_, after, .zero, ends, rfl⟩
            · cases found
              exact ⟨_, after, .digits isFirst (.cons isDigit spells), ends, rfl⟩
    · cases found
  · rintro ⟨text, after, spells, ends, rfl⟩
    have stops : ∀ point ∈ after.head?, point.decimalDigit? = none := by
      rcases ends with rfl | rfl
      · nofun
      · rintro _ ⟨⟩
        rfl
    unfold indexDigits?
    rw [takeDigits_append spells.spellsDigits stops]
    dsimp only
    rw [if_pos ends]
    cases spells with
    | zero => rfl
    | @digits first rest _ isFirst _ =>
        have notZero : first ≠ '0' := by
          rintro rfl
          cases isFirst
        simp only [List.cons_append, if_neg notZero, if_pos isFirst]

theorem exists_digitText (spells : SpellsDigits CodePoint.decimalDigit? name digits)
    (isAscii : ∀ point ∈ name, point.val < 128) :
    ∃ values, name = digitText values ∧ digits = digitValues values := by
  induction spells with
  | nil => exact ⟨[], rfl, rfl⟩
  | cons isDigit _ ih =>
      obtain ⟨first, later⟩ := List.forall_mem_cons.mp isAscii
      obtain ⟨digit, rfl, rfl⟩ := exists_digitPoint first isDigit
      obtain ⟨values, rfl, rfl⟩ := ih later
      exact ⟨digit :: values, rfl, rfl⟩

theorem spellsIndex_ofNat (index : Nat) :
    SpellsIndex (Text.ofNat index) (digitValues (digitsOf index)) := by
  rcases Nat.eq_zero_or_pos index with rfl | positive
  · have none : digitsOf 0 = [0] := by rw [digitsOf, dif_pos (by norm_num)]; rfl
    rw [none]
    exact .zero
  · obtain ⟨digit, values, split⟩ := List.exists_cons_of_ne_nil (digitsOf_ne_nil index)
    have leading := head_digitsOf positive
    have isFirst : ∀ digit : Fin 10, digit ≠ 0 →
        (digitPoint digit).isBetween '1' '9' = true := by decide
    rw [split, List.head?_cons] at leading
    rw [ofNat_eq_digitText, split]
    exact .digits (isFirst digit fun zero => leading (congrArg some zero))
      (spellsDigits_digitText (digit :: values))

/-- In ASCII an index is written as the decimal of its number. -/
theorem eq_ofNat_of_spellsIndex (spells : SpellsIndex name digits)
    (isAscii : ∀ point ∈ name, point.val < 128) : name = Text.ofNat (ofDigits 10 digits) := by
  cases spells with
  | zero => rfl
  | digits isFirst spells =>
      obtain ⟨values, split, rfl⟩ := exists_digitText spells isAscii
      cases values with
      | nil => cases split
      | cons digit values =>
          have leading : (digit :: values).head? ≠ some 0 := by
            rintro zero
            cases zero
            cases split
            cases isFirst
          rw [split, ofNat_eq_digitText,
            digitsOf_ofDigits (List.cons_ne_nil _ _) (.inl leading)]

theorem indexDigits?_ofNat (index : Nat) :
    indexDigits? (Text.ofNat index) = some (digitValues (digitsOf index)) :=
  indexDigits?_eq_some_iff.mpr
    ⟨_, [], spellsIndex_ofNat index, .inl rfl, (List.append_nil _).symm⟩

theorem IsLooseIndex.indexDigits? (isLoose : IsLooseIndex name digits) :
    indexDigits? name = some digits := by
  cases isLoose with
  | foreign spells =>
      exact indexDigits?_eq_some_iff.mpr ⟨_, [], spells, .inl rfl, (List.append_nil _).symm⟩
  | lineFeed spells => exact indexDigits?_eq_some_iff.mpr ⟨_, _, spells, .inr rfl, rfl⟩

/-- What is read as an index is the decimal of a natural number, or it is loose. -/
theorem ofNat_or_loose (found : indexDigits? name = some digits) :
    (∃ index, name = Text.ofNat index) ∨ IsLooseIndex name digits := by
  obtain ⟨text, after, spells, rfl | rfl, rfl⟩ := indexDigits?_eq_some_iff.mp found
  · rw [List.append_nil]
    by_cases isForeign : ∃ point ∈ text, 128 ≤ point.val
    · exact .inr (.foreign spells isForeign)
    · push Not at isForeign
      exact .inl ⟨_, eq_ofNat_of_spellsIndex spells isForeign⟩
  · exact .inr (.lineFeed spells)

/-- The points of a text are plain if they are in ASCII and none of them is a line feed. -/
def IsPlain (name : Text) : Prop :=
  ∀ point ∈ name, point.val < 128 ∧ point ≠ '\n'

theorem IsLooseIndex.not_isPlain (isLoose : IsLooseIndex name digits) : ¬IsPlain name := by
  intro isPlain
  cases isLoose with
  | foreign _ isForeign =>
      obtain ⟨point, mem, isForeign⟩ := isForeign
      exact absurd (isPlain point mem).1 (Nat.not_lt.mpr isForeign)
  | lineFeed _ => exact (isPlain _ (List.mem_append_right _ List.mem_cons_self)).2 rfl

theorem isPlain_of_values
    (values : ∀ number ∈ name.map Fin.val, number < 128 ∧ number ≠ 10) : IsPlain name := by
  intro point mem
  obtain ⟨isAscii, notLineFeed⟩ := values _ (List.mem_map_of_mem mem)
  exact ⟨isAscii, fun isLineFeed => notLineFeed (congrArg Fin.val isLineFeed)⟩

theorem isPlain_of_within (within : name ⊆ Numeral.alphabet) : IsPlain name := by
  have alphabet : IsPlain Numeral.alphabet := isPlain_of_values (by decide)
  exact fun point mem => alphabet point (within mem)

theorem isPlain_ofNat (index : Nat) : IsPlain (Text.ofNat index) := by
  rw [ofNat_eq_digitText]
  exact isPlain_of_within (Numeral.digitText_within _)

end Indices

section NumberKeys

open Number

variable {number : Float} {index : Nat}

/-- The text of a number holds nothing that only a loose index has. -/
theorem isPlain_toText (number : Float) : IsPlain (Number.toText number) := by
  cases found : parts? number with
  | none =>
      unfold Number.toText
      rw [found]
      dsimp only
      split_ifs
      · exact isPlain_of_values (by decide)
      · exact isPlain_of_values (by decide)
      · exact isPlain_of_values (by decide)
  | some parts =>
      rcases Nat.eq_zero_or_pos parts.significand with zero | positive
      · rw [toText_of_zero_parts found zero]
        exact isPlain_of_values (by decide)
      · obtain ⟨digits, point, -, text⟩ := toText_of_parts found positive
        have plainSign : IsPlain (signText number) := by
          unfold signText
          split
          · exact isPlain_of_values (by decide)
          · exact nofun
        rw [text]
        exact List.forall_mem_append.mpr
          ⟨plainSign, isPlain_of_within (Numeral.text_within _)⟩

theorem ofNumericString_ofNat (index : Nat) :
    ofNumericString (Text.ofNat index) = ofDecimal index 0 := by
  have written : (Numeral.mk (digitsOf index) [] none).text = Text.ofNat index := by
    rw [ofNat_eq_digitText]
    simp [Numeral.text, Numeral.fractionText, Numeral.exponentText]
  have reads : ofNumericString (Numeral.mk (digitsOf index) [] none).text = _ :=
    Numeral.ofNumericString_text (digitsOf_ne_nil index)
  have value : ofDigits 10 (digitValues (digitsOf index) ++ []) = index := by
    rw [List.append_nil, ofDigits_digitsOf]
  rw [written] at reads
  rw [reads]
  change ofDecimal (ofDigits 10 (digitValues (digitsOf index) ++ [])) 0 = _
  rw [value]

/-- The decimal of a natural number that is the text of a double is not too long for an index. -/
theorem length_le_of_toText (same : Number.toText number = Text.ofNat index) :
    (Text.ofNat index).length ≤ indexDigitLimit := by
  by_contra long
  rw [length_ofNat] at long
  have high : 400 < (digitCount index : Int) + 0 := by
    unfold indexDigitLimit at long
    omega
  have positive : 0 < index := by
    rw [Nat.pos_iff_ne_zero]
    rintro rfl
    exact absurd high (by decide)
  have reads := ofNumericString_toText number
  rw [same, ofNumericString_ofNat, ofDecimal_of_high positive high] at reads
  split at reads
  · cases congrArg Float.isInf reads
  · subst reads
    have digits : "Infinity" = digitText (digitsOf index) := by
      rw [← ofNat_eq_digitText, ← same]
      rfl
    have outside : CodePoint.ofChar 'I' ∉ Numeral.alphabet := by decide
    apply outside (Numeral.digitText_within (digitsOf index) _)
    rw [← digits]
    decide

end NumberKeys

section Reads

variable {target key : Value} {name : Text} {count : Nat}

theorem readsAt_elementAt (origin : Span) (elements : List Value) (index : Nat) :
    ReadsAt (.array origin elements) index (.ok (elementAt elements index)) := by
  unfold elementAt
  rw [List.getD_eq_getElem?_getD]
  cases found : elements[index]? with
  | none => exact .beyondElements (List.getElem?_eq_none_iff.mp found)
  | some value => exact .element found

theorem readsAt_unitAt (text : Text) (index : Nat) :
    ReadsAt (.string text) index (unitAt text index) := by
  have unitAtIndex : (text.units.drop index).head? = text.units[index]? := List.head?_drop
  unfold unitAt Text.lowFirst
  rw [Text.drop_lowFirst]
  cases split : text.units.drop index with
  | nil => exact .beyondUnits (List.drop_eq_nil_iff.mp split)
  | cons unit rest =>
      rw [split] at unitAtIndex
      rw [List.flatMap_cons]
      simp only [CodeUnit.lowFirst, List.cons_append, CodeUnit.ofBytes_bytes]
      split
      · next isHalf => exact .half unitAtIndex.symm isHalf
      · next isWhole => exact .unit unitAtIndex.symm (Bool.eq_false_iff.mpr isWhole)

/-- A property of an array or a string is read by its length and by what stands at an index. -/
theorem getProperty_eq (hasLength : HasLength target count) (isKey : key.toPropertyKey = .ok name) :
    ∃ read, (∀ index, ReadsAt target index (read index)) ∧
      getProperty target key = indexedProperty target.typeName count read name := by
  cases hasLength with
  | array origin elements =>
      refine ⟨_, readsAt_elementAt origin elements, ?_⟩
      unfold getProperty
      rw [isKey]
      rfl
  | string text =>
      refine ⟨_, readsAt_unitAt text, ?_⟩
      unfold getProperty
      rw [isKey]
      change indexedProperty .string (text.lowFirst.length / 2) _ name = _
      rw [Text.length_lowFirst, Nat.mul_div_cancel_left _ two_pos]
      rfl

theorem indexedProperty_of_digits {type : TypeName} {read : Nat → Except ValueFault Value}
    {digits : List Nat} (found : indexDigits? name = some digits) :
    indexedProperty type count read name =
      if digits.length ≤ indexDigitLimit then read (Number.ofDigits 10 digits)
      else .error .indexTooLong := by
  have notLength : name ≠ "length" := by
    rintro rfl
    cases found
  unfold indexedProperty
  rw [if_neg notLength, found]
  dsimp only
  split_ifs with long short
  · exact absurd short (Nat.not_le.mpr long)
  · rfl
  · rfl
  · next notLong => exact absurd (Nat.not_lt.mp long) notLong

/--
A key is the length, the index of an element or no constant. What is read as an index is the decimal
of a natural number or a loose index, and it is not read if it is too long; a number is neither
loose nor too long.
-/
theorem getProperty_classifies (hasLength : HasLength target count)
    (isKey : key.toPropertyKey = .ok name) :
    (name = "length" → ∃ number, getProperty target key = .ok (.number number) ∧
      Number.IsNearest count number) ∧
    (∀ index, name = Text.ofNat index →
      if name.length ≤ indexDigitLimit then ReadsAt target index (getProperty target key)
      else getProperty target key = .error .indexTooLong) ∧
    (∀ digits, IsLooseIndex name digits → (∀ index, name ≠ Text.ofNat index) ∧
      if digits.length ≤ indexDigitLimit then
        ReadsAt target (Number.ofDigits 10 digits) (getProperty target key)
      else getProperty target key = .error .indexTooLong) ∧
    (name ≠ "length" → (∀ index, name ≠ Text.ofNat index) → (∀ digits, ¬IsLooseIndex name digits) →
      getProperty target key = .error (.variableProperty name target.typeName)) ∧
    (key.isNumber = true → (∀ digits, ¬IsLooseIndex name digits) ∧
      ∀ index, name = Text.ofNat index → name.length ≤ indexDigitLimit) := by
  obtain ⟨read, reads, isProperty⟩ := getProperty_eq hasLength isKey
  rw [isProperty]
  refine ⟨?_, ?_, ?_, ?_, ?_⟩
  · intro isLength
    refine ⟨_, ?_, Number.ofInteger_isNearest count⟩
    unfold indexedProperty
    rw [if_pos isLength]
  · rintro index rfl
    have long : (Number.digitValues (Number.digitsOf index)).length =
        (Text.ofNat index).length := by
      rw [Number.ofNat_eq_digitText, Number.digitText, Number.digitValues, List.length_map,
        List.length_map]
    rw [indexedProperty_of_digits (indexDigits?_ofNat index), Number.ofDigits_digitsOf, long]
    split
    · exact reads index
    · rfl
  · intro digits isLoose
    refine ⟨?_, ?_⟩
    · rintro index rfl
      exact isLoose.not_isPlain (isPlain_ofNat index)
    · rw [indexedProperty_of_digits isLoose.indexDigits?]
      split
      · exact reads _
      · rfl
  · intro notLength notDecimal notLoose
    unfold indexedProperty
    rw [if_neg notLength]
    cases found : indexDigits? name with
    | none => rfl
    | some digits =>
        rcases ofNat_or_loose found with ⟨index, isDecimal⟩ | isLoose
        · exact absurd isDecimal (notDecimal index)
        · exact absurd isLoose (notLoose digits)
  · intro isNumber
    cases key with
    | number number =>
        cases isKey
        refine ⟨fun digits isLoose => isLoose.not_isPlain (isPlain_toText number), ?_⟩
        intro index same
        rw [same]
        exact length_le_of_toText same
    | undefined | null | boolean | string | array | record => cases isNumber

/-- The second code unit of a letter beyond the range of one is not read. -/
theorem getProperty_classifies_half : HasLength (.string "𝒳") 2 ∧
    ReadsAt (.string "𝒳") 1 (getProperty (.string "𝒳") (.number 1)) ∧
      ∃ number, getProperty (.string "𝒳") (.string "length") = .ok (.number number) ∧
        Number.IsNearest (2 : Nat) number := by
  have hasLength : HasLength (.string "𝒳") 2 := .string "𝒳"
  have isOne : toPropertyKey (.number 1) = .ok "1" := by decide
  have isLength : toPropertyKey (.string "length") = .ok "length" := rfl
  have reads := (getProperty_classifies hasLength isOne).2.1 1 rfl
  rw [if_pos (by decide)] at reads
  exact ⟨hasLength, reads, (getProperty_classifies hasLength isLength).1 rfl⟩

/-- A zero with a line feed behind it is no decimal, yet the first element is read. -/
theorem reads_index_with_lineFeed :
    getProperty (.array ⟨0, 0⟩ [.string "a"]) (.string "0\n") = .ok (.string "a") ∧
      ∀ index, Text.ofString "0\n" ≠ Text.ofNat index := by
  have isLoose : IsLooseIndex "0\n" [0] := .lineFeed .zero
  refine ⟨rfl, fun index same => isLoose.not_isPlain ?_⟩
  rw [same]
  exact isPlain_ofNat index

end Reads

end Value

end ComponentInliner
