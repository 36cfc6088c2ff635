import ComponentInliner.Proofs.Number.NumericStrings
import ComponentInliner.Proofs.Number.Order
import ComponentInliner.Proofs.Text.Utf16
import ComponentInliner.Value.Operator

/-!
# Loose equality

Loose equality of the script language as a relation (`LooselyEqual`), one constructor for each step
that two values of different types take: booleans become numbers, strings become numbers against a
number, and arrays and objects become their primitive values. The relation is given how a string is
read as a number and which strings are the same.

The relation has one answer for every two values, and `looselyEquals` gives it
(`looselyEquals_exact`). With the numeric strings of the language and strings compared by their code
units the answer is the same, unless a string that is only tolerated as a number is compared with
one, or a string that is not canonical with another one (`IsRegular`).
-/

namespace ComponentInliner.Value

/-- The types of the script language; null has one of its own. -/
inductive Kind where
  | undefined
  | null
  | boolean
  | number
  | string
  | object
  deriving DecidableEq

def kind : Value → Kind
  | .undefined => .undefined
  | .null => .null
  | .boolean _ => .boolean
  | .number _ => .number
  | .string _ => .string
  | .array _ _ | .record _ _ => .object

/-- Strict equality of values of one type, where strings are compared in a given way. -/
def StrictlyEqual (same : Text → Text → Prop) : Value → Value → Prop
  | .string left, .string right => same left right
  | left, right => left.strictEquals right = true

/-- The number of a boolean. -/
def numberOf (flag : Bool) : Value :=
  .number (if flag then 1.0 else 0.0)

/-- Two values and whether they are loosely equal. -/
inductive LooselyEqual (reads : Text → Float → Prop) (same : Text → Text → Prop) :
    Value → Value → Bool → Prop
  | sameKind {left right : Value} {flag : Bool} (isSame : left.kind = right.kind)
      (equal : flag = true ↔ StrictlyEqual same left right) :
      LooselyEqual reads same left right flag
  | nullUndefined : LooselyEqual reads same .null .undefined true
  | undefinedNull : LooselyEqual reads same .undefined .null true
  | numberString {left number : Float} {text : Text} {flag : Bool} (read : reads text number)
      (equal : LooselyEqual reads same (.number left) (.number number) flag) :
      LooselyEqual reads same (.number left) (.string text) flag
  | stringNumber {number right : Float} {text : Text} {flag : Bool} (read : reads text number)
      (equal : LooselyEqual reads same (.number number) (.number right) flag) :
      LooselyEqual reads same (.string text) (.number right) flag
  | booleanLeft {left : Bool} {right : Value} {flag : Bool} (differs : right.kind ≠ .boolean)
      (equal : LooselyEqual reads same (numberOf left) right flag) :
      LooselyEqual reads same (.boolean left) right flag
  | booleanRight {left : Value} {right : Bool} {flag : Bool} (differs : left.kind ≠ .boolean)
      (equal : LooselyEqual reads same left (numberOf right) flag) :
      LooselyEqual reads same left (.boolean right) flag
  | objectRight {left right : Value} {flag : Bool}
      (isPrimitive : left.kind = .number ∨ left.kind = .string) (isObject : right.kind = .object)
      (equal : LooselyEqual reads same left right.toPrimitive flag) :
      LooselyEqual reads same left right flag
  | objectLeft {left right : Value} {flag : Bool} (isObject : left.kind = .object)
      (isPrimitive : right.kind = .number ∨ right.kind = .string)
      (equal : LooselyEqual reads same left.toPrimitive right flag) :
      LooselyEqual reads same left right flag
  | nullishLeft {left right : Value} (isNullish : left.isNullish = true)
      (differs : right.kind = .number ∨ right.kind = .string ∨ right.kind = .object) :
      LooselyEqual reads same left right false
  | nullishRight {left right : Value}
      (differs : left.kind = .number ∨ left.kind = .string ∨ left.kind = .object)
      (isNullish : right.isNullish = true) : LooselyEqual reads same left right false

section Relation

variable {reads : Text → Float → Prop} {same : Text → Text → Prop} {left right : Value}
  {flag : Bool}

theorem strictEquals_symm (left right : Value) :
    left.strictEquals right = right.strictEquals left := by
  cases left <;> cases right
  all_goals
    simp only [strictEquals]
  case number.number => exact Number.beq_symm _ _
  case boolean.boolean | string.string | array.array | record.record =>
    exact decide_eq_decide.mpr eq_comm

theorem strictlyEqual_symm (symmetric : ∀ left right, same left right ↔ same right left)
    (left right : Value) : StrictlyEqual same left right ↔ StrictlyEqual same right left := by
  have strictly := congrArg (· = true) (strictEquals_symm left right)
  cases left with
  | string leftText =>
      cases right with
      | string rightText => exact symmetric leftText rightText
      | _ => exact Eq.to_iff strictly
  | _ => cases right <;> exact Eq.to_iff strictly

theorem LooselyEqual.symm (equal : LooselyEqual reads same left right flag)
    (symmetric : ∀ left right, same left right ↔ same right left) :
    LooselyEqual reads same right left flag := by
  induction equal with
  | @sameKind left right _ isSame equal =>
      exact .sameKind isSame.symm (equal.trans (strictlyEqual_symm symmetric left right))
  | nullUndefined => exact .undefinedNull
  | undefinedNull => exact .nullUndefined
  | numberString read _ ih => exact .stringNumber read ih
  | stringNumber read _ ih => exact .numberString read ih
  | booleanLeft differs _ ih => exact .booleanRight differs ih
  | booleanRight differs _ ih => exact .booleanLeft differs ih
  | objectRight isPrimitive isObject _ ih => exact .objectLeft isObject isPrimitive ih
  | objectLeft isObject isPrimitive _ ih => exact .objectRight isPrimitive isObject ih
  | nullishLeft isNullish differs => exact .nullishRight differs isNullish
  | nullishRight differs isNullish => exact .nullishLeft isNullish differs

theorem exists_sameKind (isSame : left.kind = right.kind) :
    ∃ flag, LooselyEqual reads same left right flag := by
  classical
  exact ⟨_, .sameKind isSame decide_eq_true_iff⟩

theorem exists_numbers (left right : Float) :
    ∃ flag, LooselyEqual reads same (.number left) (.number right) flag :=
  exists_sameKind rfl

/-- A number is compared with every value. -/
theorem exists_number (total : ∀ text, ∃ number, reads text number) (number : Float)
    (right : Value) : ∃ flag, LooselyEqual reads same (.number number) right flag := by
  have onString (text : Text) :
      ∃ flag, LooselyEqual reads same (.number number) (.string text) flag := by
    obtain ⟨value, read⟩ := total text
    obtain ⟨flag, equal⟩ := exists_numbers number value
    exact ⟨flag, .numberString read equal⟩
  cases right with
  | undefined | null => exact ⟨false, .nullishRight (.inl rfl) rfl⟩
  | number => exact exists_sameKind rfl
  | string text => exact onString text
  | boolean right =>
      obtain ⟨flag, equal⟩ := exists_numbers number _
      exact ⟨flag, .booleanRight nofun equal⟩
  | array | record =>
      obtain ⟨flag, equal⟩ := onString _
      exact ⟨flag, .objectRight (.inl rfl) rfl equal⟩

/-- A string is compared with every value. -/
theorem exists_string (total : ∀ text, ∃ number, reads text number) (text : Text)
    (right : Value) : ∃ flag, LooselyEqual reads same (.string text) right flag := by
  have onNumber (value : Float) :
      ∃ flag, LooselyEqual reads same (.string text) (.number value) flag := by
    obtain ⟨number, read⟩ := total text
    obtain ⟨flag, equal⟩ := exists_numbers number value
    exact ⟨flag, .stringNumber read equal⟩
  have onString (other : Text) :
      ∃ flag, LooselyEqual reads same (.string text) (.string other) flag :=
    exists_sameKind rfl
  cases right with
  | undefined | null => exact ⟨false, .nullishRight (.inr (.inl rfl)) rfl⟩
  | number value => exact onNumber value
  | string other => exact onString other
  | boolean right =>
      obtain ⟨flag, equal⟩ := onNumber _
      exact ⟨flag, .booleanRight nofun equal⟩
  | array | record =>
      obtain ⟨flag, equal⟩ := onString _
      exact ⟨flag, .objectRight (.inr rfl) rfl equal⟩

/-- A boolean is compared with every value. -/
theorem exists_boolean (total : ∀ text, ∃ number, reads text number) (left : Bool)
    (right : Value) : ∃ flag, LooselyEqual reads same (.boolean left) right flag := by
  by_cases differs : right.kind = .boolean
  · exact exists_sameKind differs.symm
  · obtain ⟨flag, equal⟩ := exists_number total _ right
    exact ⟨flag, .booleanLeft differs equal⟩

/-- Every two values are compared. -/
theorem exists_looselyEqual (total : ∀ text, ∃ number, reads text number)
    (symmetric : ∀ left right, same left right ↔ same right left) (left right : Value) :
    ∃ flag, LooselyEqual reads same left right flag := by
  have turned (found : ∃ flag, LooselyEqual reads same right left flag) :
      ∃ flag, LooselyEqual reads same left right flag :=
    found.imp fun flag equal => equal.symm symmetric
  cases left with
  | number left => exact exists_number total left right
  | string left => exact exists_string total left right
  | boolean left => exact exists_boolean total left right
  | undefined =>
      cases right with
      | undefined => exact exists_sameKind rfl
      | null => exact ⟨true, .undefinedNull⟩
      | number right => exact turned (exists_number total right _)
      | string right => exact turned (exists_string total right _)
      | boolean right => exact turned (exists_boolean total right _)
      | array | record => exact ⟨false, .nullishLeft rfl (.inr (.inr rfl))⟩
  | null =>
      cases right with
      | undefined => exact ⟨true, .nullUndefined⟩
      | null => exact exists_sameKind rfl
      | number right => exact turned (exists_number total right _)
      | string right => exact turned (exists_string total right _)
      | boolean right => exact turned (exists_boolean total right _)
      | array | record => exact ⟨false, .nullishLeft rfl (.inr (.inr rfl))⟩
  | array | record =>
      cases right with
      | undefined | null => exact ⟨false, .nullishRight (.inr (.inr rfl)) rfl⟩
      | number right => exact turned (exists_number total right _)
      | string right => exact turned (exists_string total right _)
      | boolean right => exact turned (exists_boolean total right _)
      | array | record => exact exists_sameKind rfl

end Relation

section Program

variable {left right : Value}

theorem kind_eq_iff : left.kind = right.kind ↔
    left.typeName = right.typeName ∧ left.isNull = right.isNull := by
  cases left <;> cases right <;> simp [kind, typeName, isNull]

theorem kind_of_strictEquals (equal : left.strictEquals right = true) : left.kind = right.kind := by
  cases left <;> cases right <;> first | rfl | cases equal

theorem looselyEquals_sameKind (isSame : left.kind = right.kind) :
    left.looselyEquals right = left.strictEquals right := by
  unfold looselyEquals
  rw [if_pos (kind_eq_iff.mp isSame)]

/-- A nullish value is equal to the nullish values. -/
theorem looselyEquals_nullishLeft (isNullish : left.isNullish = true) :
    left.looselyEquals right = right.isNullish := by
  by_cases isSame : left.kind = right.kind
  · rw [looselyEquals_sameKind isSame]
    cases left with
    | undefined | null => cases right <;> first | rfl | cases isSame
    | boolean | number | string | array | record => cases isNullish
  · unfold looselyEquals
    rw [if_neg (mt kind_eq_iff.mpr isSame), isNullish, Bool.true_and, Bool.true_or, if_pos rfl]
    cases right.isNullish <;> rfl

theorem looselyEquals_nullishRight (isNullish : right.isNullish = true) :
    left.looselyEquals right = left.isNullish := by
  by_cases isSame : left.kind = right.kind
  · rw [looselyEquals_sameKind isSame]
    cases right with
    | undefined | null => cases left <;> first | rfl | cases isSame
    | boolean | number | string | array | record => cases isNullish
  · unfold looselyEquals
    rw [if_neg (mt kind_eq_iff.mpr isSame), isNullish, Bool.and_true, Bool.or_true, if_pos rfl]
    cases left.isNullish <;> rfl

theorem looselyEquals_numbers (left right : Float) :
    looselyEquals (.number left) (.number right) = (left == right) :=
  @looselyEquals_sameKind (.number left) (.number right) rfl

theorem looselyEquals_numberString (number : Float) (text : Text) :
    looselyEquals (.number number) (.string text) = (number == Number.ofNumericString text) := by
  rw [looselyEquals.eq_def]
  simp [typeName, isNullish]

theorem looselyEquals_stringNumber (number : Float) (text : Text) :
    looselyEquals (.string text) (.number number) = (Number.ofNumericString text == number) := by
  rw [looselyEquals.eq_def]
  simp [typeName, isNullish]

theorem looselyEquals_booleanLeft (flag : Bool) (differs : right.kind ≠ .boolean) :
    looselyEquals (.boolean flag) right = looselyEquals (numberOf flag) right := by
  cases right with
  | undefined | null => rw [looselyEquals_nullishRight rfl, looselyEquals_nullishRight rfl]; rfl
  | boolean => exact absurd rfl differs
  | number | string | array | record =>
      rw [looselyEquals.eq_def]
      simp [typeName, isNullish, numberOf, toNumber]

theorem looselyEquals_booleanRight (flag : Bool) (differs : left.kind ≠ .boolean) :
    looselyEquals left (.boolean flag) = looselyEquals left (numberOf flag) := by
  cases left with
  | undefined | null => rw [looselyEquals_nullishLeft rfl, looselyEquals_nullishLeft rfl]; rfl
  | boolean => exact absurd rfl differs
  | number | string | array | record =>
      rw [looselyEquals.eq_def]
      simp [typeName, isNullish, numberOf, toNumber]

theorem looselyEquals_objectRight (isPrimitive : left.kind = .number ∨ left.kind = .string)
    (isObject : right.kind = .object) :
    left.looselyEquals right = left.looselyEquals right.toPrimitive := by
  cases right with
  | array | record =>
      cases left with
      | number | string =>
          rw [looselyEquals.eq_def]
          simp [typeName, isNullish, Value.isObject]
      | undefined | null | boolean | array | record =>
          rcases isPrimitive with kind | kind <;> cases kind
  | undefined | null | boolean | number | string => cases isObject

theorem looselyEquals_objectLeft (isObject : left.kind = .object)
    (isPrimitive : right.kind = .number ∨ right.kind = .string) :
    left.looselyEquals right = left.toPrimitive.looselyEquals right := by
  cases left with
  | array | record =>
      cases right with
      | number | string =>
          rw [looselyEquals.eq_def]
          simp [typeName, isNullish, Value.isObject]
      | undefined | null | boolean | array | record =>
          rcases isPrimitive with kind | kind <;> cases kind
  | undefined | null | boolean | number | string => cases isObject

end Program

section Agreement

variable {reads : Text → Float → Prop} {same : Text → Text → Prop} {left right : Value}
  {flag : Bool}

/-- Values that are compared by their numbers. -/
def IsNumeric (value : Value) : Prop :=
  value.kind = .boolean ∨ value.kind = .number

/-- The strings that are met while two values are compared are read as numbers, and are the same, as
the library has it. -/
structure Agrees (reads : Text → Float → Prop) (same : Text → Text → Prop) (left right : Value) :
    Prop where
  readsLeft : right.IsNumeric → ∀ text, left.toPrimitive = .string text →
    ∀ number, reads text number ↔ number = Number.ofNumericString text
  readsRight : left.IsNumeric → ∀ text, right.toPrimitive = .string text →
    ∀ number, reads text number ↔ number = Number.ofNumericString text
  compares : left.kind ≠ .object ∨ right.kind ≠ .object → ∀ leftText rightText,
    left.toPrimitive = .string leftText → right.toPrimitive = .string rightText →
      (same leftText rightText ↔ leftText = rightText)

theorem toPrimitive_toPrimitive (value : Value) :
    value.toPrimitive.toPrimitive = value.toPrimitive := by
  cases value <;> rfl

theorem kind_toPrimitive (isObject : left.kind = .object) : left.toPrimitive.kind = .string := by
  cases left with
  | array | record => rfl
  | undefined | null | boolean | number | string => cases isObject

theorem not_isNullish (differs : left.kind = .number ∨ left.kind = .string ∨ left.kind = .object) :
    left.isNullish = false := by
  cases left with
  | undefined | null => rcases differs with kind | kind | kind <;> cases kind
  | boolean | number | string | array | record => rfl

theorem not_isNumeric_of_string (isString : left.kind = .string) : ¬left.IsNumeric := by
  rintro (kind | kind)
  · cases isString.symm.trans kind
  · cases isString.symm.trans kind

/-- Nothing is compared with a number but the numbers of strings. -/
theorem Agrees.toNumbers (number : Float) (readsRight : ∀ text, right.toPrimitive = .string text →
    ∀ number, reads text number ↔ number = Number.ofNumericString text) :
    Agrees reads same (.number number) right where
  readsLeft _ _ isString := nomatch isString
  readsRight _ := readsRight
  compares _ _ _ isString := nomatch isString

theorem Agrees.symm (agrees : Agrees reads same left right)
    (symmetric : ∀ left right, same left right ↔ same right left) :
    Agrees reads same right left where
  readsLeft := agrees.readsRight
  readsRight := agrees.readsLeft
  compares apart rightText leftText isRight isLeft := by
    rw [symmetric, agrees.compares apart.symm leftText rightText isLeft isRight, eq_comm]

theorem Agrees.objectRight (agrees : Agrees reads same left right) (isObject : right.kind = .object)
    (isPrimitive : left.kind = .number ∨ left.kind = .string) :
    Agrees reads same left right.toPrimitive where
  readsLeft isNumeric := absurd isNumeric (not_isNumeric_of_string (kind_toPrimitive isObject))
  readsRight isNumeric text isString :=
    agrees.readsRight isNumeric text ((toPrimitive_toPrimitive right).symm.trans isString)
  compares _ leftText rightText isLeft isRight := by
    refine agrees.compares (.inl ?_) leftText rightText isLeft
      ((toPrimitive_toPrimitive right).symm.trans isRight)
    rintro kind
    rcases isPrimitive with kind' | kind'
    · cases kind.symm.trans kind'
    · cases kind.symm.trans kind'

theorem strictlyEqual_iff (isSame : left.kind = right.kind)
    (agrees : Agrees reads same left right) :
    StrictlyEqual same left right ↔ left.strictEquals right = true := by
  cases left with
  | string leftText =>
      cases right with
      | string rightText =>
          rw [StrictlyEqual, agrees.compares (.inl nofun) leftText rightText rfl rfl]
          exact decide_eq_true_iff.symm
      | _ => exact Iff.rfl
  | _ => cases right <;> exact Iff.rfl

/-- Where strings are read and compared as the library has it, its answer is the only one. -/
theorem LooselyEqual.eq_looselyEquals (equal : LooselyEqual reads same left right flag)
    (symmetric : ∀ left right, same left right ↔ same right left)
    (agrees : Agrees reads same left right) : flag = left.looselyEquals right := by
  induction equal with
  | sameKind isSame equal =>
      rw [looselyEquals_sameKind isSame, Bool.eq_iff_iff, equal, strictlyEqual_iff isSame agrees]
  | nullUndefined | undefinedNull =>
      rw [looselyEquals_nullishLeft rfl]
      rfl
  | numberString read _ ih =>
      obtain rfl := (agrees.readsRight (.inr rfl) _ rfl _).mp read
      rw [ih (.toNumbers _ nofun), looselyEquals_numbers, looselyEquals_numberString]
  | stringNumber read _ ih =>
      obtain rfl := (agrees.readsLeft (.inr rfl) _ rfl _).mp read
      rw [ih (.toNumbers _ nofun), looselyEquals_numbers, looselyEquals_stringNumber]
  | booleanLeft differs _ ih =>
      rw [looselyEquals_booleanLeft _ differs]
      exact ih (.toNumbers _ (agrees.readsRight (.inl rfl)))
  | booleanRight differs _ ih =>
      rw [looselyEquals_booleanRight _ differs]
      exact ih ((Agrees.toNumbers _ (agrees.readsLeft (.inl rfl))).symm symmetric)
  | objectRight isPrimitive isObject _ ih =>
      rw [looselyEquals_objectRight isPrimitive isObject]
      exact ih (agrees.objectRight isObject isPrimitive)
  | objectLeft isObject isPrimitive _ ih =>
      rw [looselyEquals_objectLeft isObject isPrimitive]
      exact ih (((agrees.symm symmetric).objectRight isObject isPrimitive).symm symmetric)
  | nullishLeft isNullish differs =>
      rw [looselyEquals_nullishLeft isNullish, not_isNullish differs]
  | nullishRight differs isNullish =>
      rw [looselyEquals_nullishRight isNullish, not_isNullish differs]

end Agreement

section Readings

variable {text : Text} {number : Float} {left right : Value}

/-- The number of a string in the script language. -/
def ReadsNumber (text : Text) (number : Float) : Prop :=
  (∃ negative size, Number.Denotes (text.trimBoth CodePoint.isScriptBlank) negative size ∧
    Number.IsNumber negative size number) ∨
  (¬∃ negative size, Number.Denotes (text.trimBoth CodePoint.isScriptBlank) negative size) ∧
    number = 0.0 / 0.0

/-- Strings are the same in the script language if their code units are. -/
def SameUnits (left right : Text) : Prop :=
  left.units = right.units

/-- No string that is only tolerated as a number is compared with a number, and no string that is
not canonical with another string. -/
structure IsRegular (left right : Value) : Prop where
  numericLeft : right.IsNumeric → ∀ text, left.toPrimitive = .string text →
    ¬Number.Tolerated (text.trimBoth CodePoint.isScriptBlank)
  numericRight : left.IsNumeric → ∀ text, right.toPrimitive = .string text →
    ¬Number.Tolerated (text.trimBoth CodePoint.isScriptBlank)
  canonical : left.kind ≠ .object ∨ right.kind ≠ .object → ∀ leftText rightText,
    left.toPrimitive = .string leftText → right.toPrimitive = .string rightText →
      leftText.IsCanonical ∧ rightText.IsCanonical

theorem exists_readsNumber (text : Text) : ∃ number, ReadsNumber text number := by
  by_cases denotes : ∃ negative size,
      Number.Denotes (text.trimBoth CodePoint.isScriptBlank) negative size
  · obtain ⟨negative, size, denotes⟩ := denotes
    exact ⟨_, .inl ⟨negative, size, denotes, denotes.isNumber rfl⟩⟩
  · exact ⟨_, .inr ⟨denotes, rfl⟩⟩

theorem readsNumber_iff (notTolerated : ¬Number.Tolerated (text.trimBoth CodePoint.isScriptBlank)) :
    ReadsNumber text number ↔ number = Number.ofNumericString text := by
  have notANumber (nothing : ¬∃ negative size,
      Number.Denotes (text.trimBoth CodePoint.isScriptBlank) negative size) :
      Number.ofNumericString text = 0.0 / 0.0 := by
    apply Number.eq_of_isNaN
    by_contra isNumber
    rcases Number.denotes_or_tolerated rfl (Bool.eq_false_iff.mpr isNumber) with denotes | tolerated
    · exact nothing denotes
    · exact notTolerated tolerated
  constructor
  · rintro (⟨negative, size, denotes, isNumber⟩ | ⟨nothing, rfl⟩)
    · exact isNumber.unique (denotes.isNumber rfl)
    · exact (notANumber nothing).symm
  · rintro rfl
    by_cases denotes : ∃ negative size,
        Number.Denotes (text.trimBoth CodePoint.isScriptBlank) negative size
    · obtain ⟨negative, size, denotes⟩ := denotes
      exact .inl ⟨negative, size, denotes, denotes.isNumber rfl⟩
    · exact .inr ⟨denotes, notANumber denotes⟩

theorem IsRegular.agrees (regular : IsRegular left right) :
    Agrees ReadsNumber SameUnits left right where
  readsLeft isNumeric text isString _ :=
    readsNumber_iff (regular.numericLeft isNumeric text isString)
  readsRight isNumeric text isString _ :=
    readsNumber_iff (regular.numericRight isNumeric text isString)
  compares apart leftText rightText isLeft isRight := by
    obtain ⟨canonical, canonical'⟩ := regular.canonical apart leftText rightText isLeft isRight
    exact Text.units_inj canonical canonical'

theorem agrees_library (left right : Value) :
    Agrees (fun text number => number = Number.ofNumericString text) (· = ·) left right where
  readsLeft _ _ _ _ := Iff.rfl
  readsRight _ _ _ _ := Iff.rfl
  compares _ _ _ _ _ := Iff.rfl

theorem looselyEqual_iff {reads : Text → Float → Prop} {same : Text → Text → Prop}
    (total : ∀ text, ∃ number, reads text number)
    (symmetric : ∀ left right, same left right ↔ same right left)
    (agrees : Agrees reads same left right) (flag : Bool) :
    LooselyEqual reads same left right flag ↔ flag = left.looselyEquals right := by
  constructor
  · exact fun equal => equal.eq_looselyEquals symmetric agrees
  · rintro rfl
    obtain ⟨flag, equal⟩ := exists_looselyEqual total symmetric left right
    rwa [← equal.eq_looselyEquals symmetric agrees]

/-- With numbers and strings as the library has them the answer is its own. -/
theorem looselyEqual_library_iff (left right : Value) (flag : Bool) :
    LooselyEqual (fun text number => number = Number.ofNumericString text) (· = ·) left right flag ↔
      flag = left.looselyEquals right := by
  have total (text : Text) : ∃ number, number = Number.ofNumericString text := ⟨_, rfl⟩
  have symmetric (left right : Text) : left = right ↔ right = left := eq_comm
  exact looselyEqual_iff total symmetric (agrees_library left right) flag

theorem looselyEquals_symm (left right : Value) :
    left.looselyEquals right = right.looselyEquals left := by
  have equal := (looselyEqual_library_iff left right _).mpr rfl
  exact (looselyEqual_library_iff right left _).mp (equal.symm fun _ _ => eq_comm)

/--
Loose equality is symmetric and follows from strict equality, the nullish values are equal to each
other alone, and the answer is the one of the steps of the script language.
-/
theorem looselyEquals_exact (left right : Value) :
    left.looselyEquals right = right.looselyEquals left ∧
    (left.strictEquals right = true → left.looselyEquals right = true) ∧
    (left.isNullish = true → left.looselyEquals right = right.isNullish) ∧
    (∀ flag, LooselyEqual (fun text number => number = Number.ofNumericString text) (· = ·)
      left right flag ↔ flag = left.looselyEquals right) ∧
    (IsRegular left right → ∀ flag, LooselyEqual ReadsNumber SameUnits left right flag ↔
      flag = left.looselyEquals right) := by
  refine ⟨looselyEquals_symm left right, ?_, looselyEquals_nullishLeft,
    looselyEqual_library_iff left right, ?_⟩
  · intro equal
    rw [looselyEquals_sameKind (kind_of_strictEquals equal), equal]
  · exact fun regular => looselyEqual_iff exists_readsNumber (fun _ _ => eq_comm) regular.agrees

/-- A string with blanks around a digit is compared with a boolean. -/
theorem looselyEquals_exact_blank : IsRegular (.string " 1 ") (.boolean true) ∧
    LooselyEqual ReadsNumber SameUnits (.string " 1 ") (.boolean true) true := by
  have trimmed : Text.trimBoth CodePoint.isScriptBlank " 1 " = "1" := by decide
  have digit : Number.SpellsDigits (Number.asciiDigit? 10) "1" [1] := .cons rfl .nil
  have denotes : Number.Denotes "1" false (some (Number.Decimal.value ⟨[1], [], 0⟩)) :=
    Number.Denotes.decimal .absent (.intro (.whole digit (List.cons_ne_nil _ _)) .absent)
  have regular : IsRegular (.string " 1 ") (.boolean true) := {
    numericLeft := by
      rintro - text ⟨⟩ tolerated
      rw [trimmed] at tolerated
      exact tolerated.not_denotes denotes
    numericRight := by
      rintro (kind | kind) <;> cases kind
    canonical := by
      rintro - leftText rightText - ⟨⟩ }
  have differs : kind (.string " 1 ") ≠ .boolean := nofun
  refine ⟨regular, ((looselyEquals_exact _ _).2.2.2.2 regular true).mpr ?_⟩
  rw [looselyEquals_booleanRight true differs, numberOf, looselyEquals_stringNumber]
  decide

/-- What is only tolerated as a number is equal to the number that it is read as. -/
theorem not_looselyEqual_signed_hexadecimal :
    looselyEquals (.string "0x-1") (.number (-1)) = true ∧
      LooselyEqual ReadsNumber SameUnits (.string "0x-1") (.number (-1)) false := by
  have reads : ReadsNumber "0x-1" (0.0 / 0.0) := by
    refine .inr ⟨?_, rfl⟩
    rw [Number.trimBoth_signed_hexadecimal]
    exact fun ⟨_, _, denotes⟩ => Number.tolerated_signed_hexadecimal.not_denotes denotes
  refine ⟨?_, .stringNumber reads (.sameKind rfl ?_)⟩
  · rw [looselyEquals_stringNumber]
    decide
  · change false = true ↔ ((0.0 / 0.0 : Float) == -1) = true
    decide

end Readings

end ComponentInliner.Value
