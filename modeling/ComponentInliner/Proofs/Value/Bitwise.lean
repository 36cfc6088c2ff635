import ComponentInliner.Proofs.Number.Integers
import ComponentInliner.Value.Operator
import Mathlib.Data.Nat.Bitwise

/-!
# Bitwise operators

The bitwise operators and the shifts work on the 32-bit words of their operands (`Value.word`). They
compute with integers of either sign that may have more bits than a word, take these through a
double, and keep the last 32 bits (`Value.onInt32`). No bit is lost on the way that the operation on
words would keep: every integer that becomes a double is a double exactly (`Operates`), and in the
end the operators are those of words (`bitwise_exact`).
-/

namespace ComponentInliner

open Number

namespace Value

/-- The 32-bit word of a value: the integer part of its number, as far as 32 bits hold it. What is
infinite or not a number has the word zero. -/
def word (value : Value) : BitVec 32 :=
  match parts? value.toNumber with
  | some parts => .ofInt 32 (integerPart parts.value)
  | none => 0

section Words

theorem toUint32_eq (value : Value) : value.toUint32 = value.word.toNat := by
  unfold toUint32 word
  rw [truncate?_eq]
  cases parts? value.toNumber with
  | none => rfl
  | some parts => rfl

theorem signed32_toNat (word : BitVec 32) : signed32 word.toNat = word.toInt := by
  have bounded := word.isLt
  unfold signed32
  rw [BitVec.toInt_eq_toNat_cond]
  split <;> split <;> omega

theorem toInt32_eq (value : Value) : value.toInt32 = value.word.toInt := by
  rw [toInt32, toUint32_eq, signed32_toNat]

/-- Of an integer that is a double exactly, the last 32 bits are the word. -/
theorem word_of_isExactly {number : Float} {integer : Int} (exactly : IsExactly number integer) :
    (Value.number number).word = .ofInt 32 integer := by
  rcases exactly with ⟨parts, found, value⟩
  simp only [word, toNumber, found, value, integerPart_intCast]

end Words

end Value

namespace Number

section LastBits

variable {width : Nat}

theorem ofInt_bitOr (left : Int) (right : Nat) :
    BitVec.ofInt width (bitOr left right) = .ofInt width left ||| .ofNat width right := by
  cases left with
  | ofNat left => exact BitVec.ofNat_or
  | negSucc left =>
      rw [bitOr, BitVec.ofInt_negSucc_eq_not_ofNat, BitVec.ofInt_negSucc_eq_not_ofNat,
        BitVec.ofNat_xor, BitVec.ofNat_and]
      ext index bounded
      simp only [BitVec.getElem_not, BitVec.getElem_xor, BitVec.getElem_and, BitVec.getElem_or]
      cases (BitVec.ofNat width left)[index] <;> simp

theorem ofInt_bitXor (left : Int) (right : Nat) :
    BitVec.ofInt width (bitXor left right) = .ofInt width left ^^^ .ofNat width right := by
  cases left with
  | ofNat left => exact BitVec.ofNat_xor
  | negSucc left =>
      rw [bitXor, BitVec.ofInt_negSucc_eq_not_ofNat, BitVec.ofInt_negSucc_eq_not_ofNat,
        BitVec.ofNat_xor, BitVec.not_xor_left]

theorem ofInt_bitAnd (left : Int) (right : Nat) :
    BitVec.ofInt width (bitAnd left right) = .ofInt width left &&& .ofNat width right := by
  cases left with
  | ofNat left => exact BitVec.ofNat_and
  | negSucc left =>
      rw [bitAnd, BitVec.ofInt_negSucc_eq_not_ofNat]
      change BitVec.ofNat width (right ^^^ (right &&& left)) = _
      rw [BitVec.ofNat_xor, BitVec.ofNat_and]
      ext index bounded
      simp only [BitVec.getElem_not, BitVec.getElem_xor, BitVec.getElem_and]
      cases (BitVec.ofNat width left)[index] <;> simp

theorem ofInt_shiftLeft (left : Int) (right : Nat) :
    BitVec.ofInt width (shiftLeft left right) =
      BitVec.ofInt width left <<< shiftDistance right := by
  change BitVec.ofInt width (left <<< shiftDistance right) = _
  rw [Int.shiftLeft_eq, BitVec.ofInt_mul, BitVec.shiftLeft_eq_mul_twoPow]
  congr 1
  rw [← Nat.cast_ofNat, ← Nat.cast_pow, BitVec.ofInt_natCast]
  apply BitVec.eq_of_toNat_eq
  rw [BitVec.toNat_ofNat, BitVec.toNat_twoPow]

end LastBits

section Sizes

variable {left : Int} {right : Nat}

theorem natAbs_bitOr_le (bounded : left.natAbs ≤ 2 ^ 31) (bounded' : right < 2 ^ 32) :
    (bitOr left right).natAbs ≤ 2 ^ 32 := by
  cases left with
  | ofNat left => exact (Nat.or_lt_two_pow (lt_of_le_of_lt bounded (by norm_num)) bounded').le
  | negSucc left =>
      have less : left < 2 ^ 32 := by
        rw [Int.natAbs_negSucc] at bounded
        omega
      exact Nat.xor_lt_two_pow less (Nat.and_lt_two_pow left bounded')

theorem natAbs_bitXor_le (bounded : left.natAbs ≤ 2 ^ 31) (bounded' : right < 2 ^ 32) :
    (bitXor left right).natAbs ≤ 2 ^ 32 := by
  cases left with
  | ofNat left => exact (Nat.xor_lt_two_pow (lt_of_le_of_lt bounded (by norm_num)) bounded').le
  | negSucc left =>
      have less : left < 2 ^ 32 := by
        rw [Int.natAbs_negSucc] at bounded
        omega
      exact Nat.xor_lt_two_pow less bounded'

theorem natAbs_bitAnd_le (bounded : right < 2 ^ 32) : (bitAnd left right).natAbs ≤ 2 ^ 32 := by
  cases left with
  | ofNat left => exact (Nat.and_lt_two_pow left bounded).le
  | negSucc left =>
      have both : right &&& left < 2 ^ 32 := by
        rw [Nat.and_comm]
        exact Nat.and_lt_two_pow left bounded
      exact (Nat.xor_lt_two_pow bounded both).le

theorem natAbs_shiftLeft (left : Int) (right : Nat) :
    (shiftLeft left right).natAbs = left.natAbs * 2 ^ shiftDistance right := by
  change (left <<< shiftDistance right).natAbs = _
  rw [Int.shiftLeft_eq, Int.natAbs_mul, Int.natAbs_pow]
  rfl

theorem natAbs_shiftRight_le (left : Int) (right : Nat) :
    (shiftRight left right).natAbs ≤ left.natAbs := by
  change (left >>> shiftDistance right).natAbs ≤ _
  rw [Int.shiftRight_eq_div_pow]
  exact Int.natAbs_ediv_le_natAbs left _

theorem natAbs_toInt_le (word : BitVec 32) : word.toInt.natAbs ≤ 2 ^ 31 := by
  have less := word.toInt_lt
  have least := word.le_toInt
  omega

end Sizes

/-- Shifts take their distance modulo the bits of a word. -/
theorem shiftDistance_eq (right : Nat) : shiftDistance right = right % 32 :=
  Nat.and_two_pow_sub_one_eq_mod right 5

/-- An operation on integers is one on words: the last bits of what it makes of the words are those
of the operation on words, and all of it is a double. -/
structure Operates (operation : Int → Nat → Int)
    (onWords : BitVec 32 → BitVec 32 → BitVec 32) : Prop where
  lastBits : ∀ left right : BitVec 32,
    BitVec.ofInt 32 (operation left.toInt right.toNat) = onWords left right
  exactly : ∀ left right : BitVec 32,
    IsExactly (ofInteger (operation left.toInt right.toNat)) (operation left.toInt right.toNat)

section Operations

theorem operates_bitOr : Operates bitOr (· ||| ·) where
  lastBits left right := by
    rw [ofInt_bitOr, BitVec.ofInt_toInt, BitVec.ofNat_toNat, BitVec.setWidth_eq]
  exactly left right := ofInteger_isExactly_of_lt
    ((natAbs_bitOr_le (natAbs_toInt_le left) right.isLt).trans_lt (by norm_num))

theorem operates_bitXor : Operates bitXor (· ^^^ ·) where
  lastBits left right := by
    rw [ofInt_bitXor, BitVec.ofInt_toInt, BitVec.ofNat_toNat, BitVec.setWidth_eq]
  exactly left right := ofInteger_isExactly_of_lt
    ((natAbs_bitXor_le (natAbs_toInt_le left) right.isLt).trans_lt (by norm_num))

theorem operates_bitAnd : Operates bitAnd (· &&& ·) where
  lastBits left right := by
    rw [ofInt_bitAnd, BitVec.ofInt_toInt, BitVec.ofNat_toNat, BitVec.setWidth_eq]
  exactly left right := ofInteger_isExactly_of_lt
    ((natAbs_bitAnd_le right.isLt).trans_lt (by norm_num))

-- The integer has up to 63 bits, which are zero but for the first 32.
theorem operates_shiftLeft :
    Operates shiftLeft fun left right => left <<< (right.toNat % 32) where
  lastBits left right := by rw [ofInt_shiftLeft, BitVec.ofInt_toInt, shiftDistance_eq]
  exactly left right := by
    have distance := shiftDistance_eq right.toNat
    exact ofInteger_isExactly ((natAbs_toInt_le left).trans_lt (by norm_num)) (by omega)
      (natAbs_shiftLeft left.toInt right.toNat)

theorem operates_shiftRight :
    Operates shiftRight fun left right => left.sshiftRight (right.toNat % 32) where
  lastBits left right := by
    rw [← shiftDistance_eq]
    rfl
  exactly left right := ofInteger_isExactly_of_lt
    (((natAbs_shiftRight_le _ _).trans (natAbs_toInt_le left)).trans_lt (by norm_num))

end Operations

/-- The signed and the unsigned integer of a word are doubles. -/
theorem toInt_isExactly (word : BitVec 32) : IsExactly (ofInteger word.toInt) word.toInt :=
  ofInteger_isExactly_of_lt ((natAbs_toInt_le word).trans_lt (by norm_num))

theorem toNat_isExactly (word : BitVec 32) :
    IsExactly (ofInteger word.toNat) (word.toNat : Int) :=
  ofInteger_isExactly_of_lt (word.isLt.trans (by norm_num))

end Number

namespace Value

/-- An operation gives the double that is exactly an integer. -/
def Gives (result : Option Value) (integer : Int) : Prop :=
  ∃ number, result = some (.number number) ∧ IsExactly number integer

/-- Taking the integer through a double loses nothing. -/
theorem onInt32_isExactly {operation : Int → Nat → Int}
    {onWords : BitVec 32 → BitVec 32 → BitVec 32} (operates : Operates operation onWords)
    (left right : Value) :
    IsExactly (left.onInt32 operation right) (onWords left.word right.word).toInt := by
  have wide := word_of_isExactly (operates.exactly left.word right.word)
  rw [operates.lastBits] at wide
  unfold onInt32
  simp only [toInt32_eq, toUint32_eq, wide]
  exact toInt_isExactly _

theorem complement_isExactly (value : Value) :
    IsExactly (ofInteger (-value.toInt32 - 1)) (~~~value.word).toInt := by
  have flipped : -value.toInt32 - 1 = (~~~value.word).toInt := by
    have bounded := value.word.isLt
    rw [toInt32_eq, BitVec.toInt_eq_toNat_cond, BitVec.toInt_eq_toNat_cond, BitVec.toNat_not]
    split <;> split <;> omega
  rw [flipped]
  exact toInt_isExactly _

/--
The bitwise operators and the shifts are those of 32-bit words, whatever the operands are. All but
the unsigned shift give the signed integer of the resulting word. Each integer that becomes a double
is this double exactly, also where it has more bits than a word.
-/
theorem bitwise_exact (left right : Value) :
    let distance := right.word.toNat % 32
    (left.toUint32 = left.word.toNat ∧ left.toInt32 = left.word.toInt) ∧
    (∀ operation ∈ [bitOr, bitXor, bitAnd, Number.shiftLeft, Number.shiftRight],
      IsExactly (ofInteger (operation left.toInt32 right.toUint32))
        (operation left.toInt32 right.toUint32)) ∧
    Gives (BinaryOperator.bitOr.result? left right) (left.word ||| right.word).toInt ∧
    Gives (BinaryOperator.bitXor.result? left right) (left.word ^^^ right.word).toInt ∧
    Gives (BinaryOperator.bitAnd.result? left right) (left.word &&& right.word).toInt ∧
    Gives (BinaryOperator.shiftLeft.result? left right) (left.word <<< distance).toInt ∧
    Gives (BinaryOperator.shiftRight.result? left right) (left.word.sshiftRight distance).toInt ∧
    Gives (BinaryOperator.shiftRightUnsigned.result? left right) (left.word >>> distance).toNat ∧
    Gives (UnaryOperator.complement.result? left) (~~~left.word).toInt := by
  refine ⟨⟨toUint32_eq left, toInt32_eq left⟩, ?_,
    ⟨_, rfl, onInt32_isExactly operates_bitOr left right⟩,
    ⟨_, rfl, onInt32_isExactly operates_bitXor left right⟩,
    ⟨_, rfl, onInt32_isExactly operates_bitAnd left right⟩,
    ⟨_, rfl, onInt32_isExactly operates_shiftLeft left right⟩,
    ⟨_, rfl, onInt32_isExactly operates_shiftRight left right⟩, ⟨_, rfl, ?_⟩,
    ⟨_, rfl, complement_isExactly left⟩⟩
  · rw [toInt32_eq, toUint32_eq]
    simp only [List.forall_mem_cons]
    exact ⟨operates_bitOr.exactly _ _, operates_bitXor.exactly _ _, operates_bitAnd.exactly _ _,
      operates_shiftLeft.exactly _ _, operates_shiftRight.exactly _ _, by simp⟩
  · rw [toUint32_eq, toUint32_eq, shiftDistance_eq, ← BitVec.toNat_ushiftRight]
    exact toNat_isExactly _

end Value

end ComponentInliner
