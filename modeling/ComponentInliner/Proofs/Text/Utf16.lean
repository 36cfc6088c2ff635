import ComponentInliner.Proofs.Text.Scalars
import ComponentInliner.Text.Utf16

/-!
# Canonical texts

A canonical text stands for its code units: it is read back from them (`ofUnits_units`), so
canonical texts with the same units are the same text. What is put together from canonical texts is
canonical unless two halves of a surrogate pair meet where one text ends and another one begins
(`isCanonical_flatten`).

Joining surrogate pairs makes any text canonical and keeps its code units, so that it is the only
way to do both (`eq_joinSurrogates_iff`).
-/

namespace ComponentInliner

namespace CodePoint

variable {point : CodePoint}

theorem isHighSurrogate_iff :
    point.isHighSurrogate = true ↔ 0xD800 ≤ point.val ∧ point.val ≤ 0xDBFF := by
  rw [isHighSurrogate, Bool.and_eq_true, decide_eq_true_eq, decide_eq_true_eq]

theorem isLowSurrogate_iff :
    point.isLowSurrogate = true ↔ 0xDC00 ≤ point.val ∧ point.val ≤ 0xDFFF := by
  rw [isLowSurrogate, Bool.and_eq_true, decide_eq_true_eq, decide_eq_true_eq]

theorem not_isLowSurrogate (isHigh : point.isHighSurrogate = true) :
    ¬point.isLowSurrogate = true := by
  rw [isHighSurrogate_iff] at isHigh
  rw [isLowSurrogate_iff]
  omega

theorem isSurrogate_of_half (isHalf : point.isHighSurrogate = true ∨ point.isLowSurrogate = true) :
    point.isSurrogate = true := by
  rw [isHighSurrogate_iff, isLowSurrogate_iff] at isHalf
  rw [isSurrogate, Bool.and_eq_true, decide_eq_true_eq, decide_eq_true_eq]
  omega

/-- A code point is its only code unit or is joined from its two. -/
theorem units_cases (point : CodePoint) : point.units.map ofUnit = [point] ∨
    ∃ high low, point.units.map ofUnit = [high, low] ∧ high.isHighSurrogate = true ∧
      low.isLowSurrogate = true ∧ ofPair high low = point := by
  unfold units
  split
  · exact .inl rfl
  · refine .inr ⟨_, _, rfl, isHighSurrogate_iff.mpr ?_, isLowSurrogate_iff.mpr ?_, Fin.ext ?_⟩
    all_goals
      dsimp only [ofPair, ofUnit]
      omega

/-- The code units of a joined pair are those of its halves. -/
theorem units_ofPair {high low : CodePoint} (isHigh : high.isHighSurrogate = true)
    (isLow : low.isLowSurrogate = true) : (ofPair high low).units = high.units ++ low.units := by
  rw [isHighSurrogate_iff] at isHigh
  rw [isLowSurrogate_iff] at isLow
  have isAstral : ¬(ofPair high low).val < 0x10000 := by
    dsimp only [ofPair]
    omega
  have isHighUnit : high.val < 0x10000 := by omega
  have isLowUnit : low.val < 0x10000 := by omega
  rw [units, units, units, dif_neg isAstral, dif_pos isHighUnit, dif_pos isLowUnit]
  refine congrArg₂ (fun first second => [first, second]) (Fin.ext ?_) (Fin.ext ?_)
  all_goals
    dsimp only [ofPair]
    omega

theorem isSurrogate_ofPair (high low : CodePoint) : (ofPair high low).isSurrogate = false := by
  rw [isSurrogate, Bool.and_eq_false_iff, decide_eq_false_iff_not, decide_eq_false_iff_not]
  dsimp only [ofPair]
  omega

end CodePoint

namespace Text

/-- The canonical text with given code units. -/
def ofUnits (units : List CodeUnit) : Text :=
  joinSurrogates (units.map CodePoint.ofUnit)

/-- One text ends in the first half of a surrogate pair and another one begins with a second
half. -/
def Meet (left right : Text) : Prop :=
  ∃ high ∈ left.getLast?, ∃ low ∈ right.head?,
    high.isHighSurrogate = true ∧ low.isLowSurrogate = true

/-- Wherever a sequence of texts is cut between two of them, what comes before and what comes after
do not meet in a surrogate pair. -/
def Apart (pieces : List Text) : Prop :=
  ∀ before after, pieces = before ++ after → ¬Meet before.flatten after.flatten

section Canonical

variable {text other : Text} {first second point : CodePoint}

theorem isCanonical_cons_cons : IsCanonical (first :: second :: text) ↔
    ¬(first.isHighSurrogate = true ∧ second.isLowSurrogate = true) ∧
      IsCanonical (second :: text) :=
  Iff.rfl

theorem not_meet_nil : ¬Meet [] text :=
  fun ⟨_, mem, _⟩ => nomatch mem

theorem meet_append (nonempty : other ≠ []) {following : Text} :
    Meet (text ++ other) following ↔ Meet other following := by
  unfold Meet
  rw [List.getLast?_append_of_ne_nil _ nonempty]

/-- A text is put together canonically from two canonical ones that do not meet in a pair. -/
theorem isCanonical_append : (text ++ other).IsCanonical ↔
    text.IsCanonical ∧ other.IsCanonical ∧ ¬Meet text other := by
  induction text with
  | nil => exact ⟨fun canonical => ⟨trivial, canonical, not_meet_nil⟩, fun parts => parts.2.1⟩
  | cons first rest ih =>
      cases rest with
      | nil =>
          cases other with
          | nil => simp [IsCanonical, Meet]
          | cons second later => simp [IsCanonical, Meet, and_comm]
      | cons second later =>
          have meets : Meet ([first] ++ second :: later) other ↔ Meet (second :: later) other :=
            meet_append (List.cons_ne_nil _ _)
          rw [List.singleton_append] at meets
          rw [List.cons_append, List.cons_append, isCanonical_cons_cons, isCanonical_cons_cons,
            ← List.cons_append, ih, meets, and_assoc]

/-- Texts are put together canonically exactly if they are canonical and nowhere meet in a pair. -/
theorem isCanonical_flatten {pieces : List Text} : IsCanonical pieces.flatten ↔
    (∀ piece ∈ pieces, piece.IsCanonical) ∧ Apart pieces := by
  constructor
  · intro canonical
    constructor
    · intro piece mem
      rcases List.append_of_mem mem with ⟨before, after, rfl⟩
      rw [List.flatten_append, List.flatten_cons] at canonical
      exact (isCanonical_append.mp (isCanonical_append.mp canonical).2.1).1
    · rintro before after rfl
      rw [List.flatten_append] at canonical
      exact (isCanonical_append.mp canonical).2.2
  · rintro ⟨areCanonical, apart⟩
    induction pieces with
    | nil => trivial
    | cons piece rest ih =>
        have apartRest : Apart rest := by
          rintro before after rfl meet
          have nonempty : before.flatten ≠ [] := by
            intro empty
            rw [empty] at meet
            exact not_meet_nil meet
          apply apart (piece :: before) after rfl
          rw [List.flatten_cons]
          exact (meet_append nonempty).mpr meet
        rcases List.forall_mem_cons.mp areCanonical with ⟨onPiece, onLater⟩
        have apartFirst := apart [piece] rest rfl
        rw [List.flatten_cons, List.flatten_nil, List.append_nil] at apartFirst
        exact isCanonical_append.mpr ⟨onPiece, ih onLater apartRest, apartFirst⟩

theorem IsScalar.not_meet_left (isScalar : text.IsScalar) : ¬Meet text other := by
  rintro ⟨high, mem, -, -, isHigh, -⟩
  have isNone := isScalar high (List.mem_of_getLast? mem)
  exact Bool.noConfusion (isNone.symm.trans (CodePoint.isSurrogate_of_half (.inl isHigh)))

theorem IsScalar.not_meet_right (isScalar : other.IsScalar) : ¬Meet text other := by
  rintro ⟨-, -, low, mem, -, isLow⟩
  have isNone := isScalar low (List.mem_of_head? mem)
  exact Bool.noConfusion (isNone.symm.trans (CodePoint.isSurrogate_of_half (.inr isLow)))

theorem apart_pair : Apart [text, other] ↔ ¬Meet text other := by
  constructor
  · intro apart
    simpa using apart [text] [other] rfl
  · rintro noPair before after split
    rcases before with _ | ⟨first, _ | ⟨second, more⟩⟩
    · exact not_meet_nil
    · cases split
      simpa using noPair
    · have nothing : other = second ∧ more = [] ∧ after = [] := by
        simpa using (List.cons.inj split).2
      rw [nothing.2.2]
      exact isScalar_nil.not_meet_right

theorem IsScalar.isCanonical (isScalar : text.IsScalar) : text.IsCanonical := by
  induction text with
  | nil => trivial
  | cons point rest ih =>
      rw [← List.singleton_append] at isScalar ⊢
      rcases isScalar_append.mp isScalar with ⟨onPoint, onRest⟩
      exact isCanonical_append.mpr ⟨trivial, ih onRest, onPoint.not_meet_left⟩

end Canonical

section Units

variable {text other : Text}

theorem units_cons (point : CodePoint) : units (point :: text) = point.units ++ text.units :=
  List.flatMap_cons

theorem units_singleton (point : CodePoint) : units [point] = point.units :=
  List.flatMap_singleton _ _

theorem joinSurrogates_cons {point : CodePoint}
    (alone : ∀ next ∈ text.head?, ¬(point.isHighSurrogate = true ∧ next.isLowSurrogate = true)) :
    joinSurrogates (point :: text) = point :: joinSurrogates text := by
  cases text with
  | nil => rfl
  | cons next rest =>
      have noPair : ¬(point.isHighSurrogate && next.isLowSurrogate) = true := by
        rw [Bool.and_eq_true]
        exact alone next rfl
      rw [joinSurrogates, if_neg noPair]

/-- What begins with a second half of a pair among the code units does so among the code points. -/
theorem head?_of_units_isLow {next : CodePoint}
    (isNext : next ∈ (text.units.map CodePoint.ofUnit).head?) (isLow : next.isLowSurrogate = true) :
    next ∈ text.head? := by
  cases text with
  | nil => cases isNext
  | cons point rest =>
      rw [units_cons, List.map_append] at isNext
      rcases point.units_cases with single | ⟨high, low, isPair, isHigh, -, -⟩
      · rw [single] at isNext
        exact isNext
      · rw [isPair] at isNext
        cases isNext
        exact absurd isLow (CodePoint.not_isLowSurrogate isHigh)

/-- A code point that does not begin a pair is read back from the code units of a text. -/
theorem ofUnits_units_cons {point : CodePoint}
    (alone : ∀ next ∈ text.head?, ¬(point.isHighSurrogate = true ∧ next.isLowSurrogate = true)) :
    ofUnits (units (point :: text)) = point :: ofUnits text.units := by
  rw [ofUnits, units_cons, List.map_append]
  rcases point.units_cases with single | ⟨high, low, isPair, isHigh, isLow, joined⟩
  · rw [single]
    exact joinSurrogates_cons fun next isNext pair =>
      alone next (head?_of_units_isLow isNext pair.2) pair
  · have isJoined : (high.isHighSurrogate && low.isLowSurrogate) = true := by
      rw [isHigh, isLow, Bool.and_self]
    rw [isPair, List.cons_append, List.cons_append, joinSurrogates, if_pos isJoined, joined]
    rfl

/-- A canonical text is read back from its code units. -/
theorem ofUnits_units (canonical : text.IsCanonical) : ofUnits text.units = text := by
  induction text with
  | nil => rfl
  | cons first rest ih =>
      cases rest with
      | nil => exact ofUnits_units_cons nofun
      | cons second later =>
          have alone : ∀ next ∈ (second :: later).head?,
              ¬(first.isHighSurrogate = true ∧ next.isLowSurrogate = true) := by
            rintro next isNext
            cases isNext
            exact canonical.1
          rw [ofUnits_units_cons alone, ih canonical.2]

/-- Canonical texts with the same code units are the same. -/
theorem units_inj (canonical : text.IsCanonical) (otherCanonical : other.IsCanonical) :
    text.units = other.units ↔ text = other := by
  constructor
  · intro same
    rw [← ofUnits_units canonical, same, ofUnits_units otherCanonical]
  · rintro rfl
    rfl

theorem units_append (left right : Text) : units (left ++ right) = left.units ++ right.units :=
  List.flatMap_append

/-- Joining surrogate pairs keeps the code units. -/
theorem units_joinSurrogates (text : Text) : (joinSurrogates text).units = text.units := by
  fun_induction joinSurrogates text with
  | case1 | case2 => rfl
  | case3 high low rest isPair ih =>
      rw [Bool.and_eq_true] at isPair
      rw [units_cons, units_cons, units_cons, CodePoint.units_ofPair isPair.1 isPair.2, ih,
        List.append_assoc]
  | case4 high low rest _ ih => rw [units_cons, units_cons, ih]

/-- Joining surrogate pairs makes no text begin with the second half of one. -/
theorem head?_joinSurrogates {next : CodePoint} (isNext : next ∈ (joinSurrogates text).head?)
    (isLow : next.isLowSurrogate = true) : next ∈ text.head? := by
  fun_cases joinSurrogates text with
  | case1 | case2 => exact isNext
  | case3 high low rest isPair =>
      rw [joinSurrogates, if_pos isPair, List.head?_cons, Option.mem_some_iff] at isNext
      subst isNext
      have isHalf := CodePoint.isSurrogate_of_half (.inr isLow)
      exact Bool.noConfusion (isHalf.symm.trans (CodePoint.isSurrogate_ofPair high low))
  | case4 high low rest noPair =>
      rw [joinSurrogates, if_neg noPair] at isNext
      exact isNext

theorem isCanonical_joinSurrogates (text : Text) : (joinSurrogates text).IsCanonical := by
  fun_induction joinSurrogates text with
  | case1 | case2 => trivial
  | case3 high low rest _ ih =>
      have isScalar : IsScalar [CodePoint.ofPair high low] :=
        isScalar_cons.mpr ⟨CodePoint.isSurrogate_ofPair high low, isScalar_nil⟩
      exact isCanonical_append.mpr ⟨isScalar.isCanonical, ih, isScalar.not_meet_left⟩
  | case4 high low rest noPair ih =>
      have apart : ¬Meet [high] (joinSurrogates (low :: rest)) := by
        rintro ⟨first, isFirst, next, isNext, isHigh, isLow⟩
        obtain rfl : high = first := Option.some_inj.mp isFirst
        obtain rfl : low = next := Option.some_inj.mp (head?_joinSurrogates isNext isLow)
        exact noPair (by rw [isHigh, isLow, Bool.and_self])
      have single : IsCanonical [high] := trivial
      exact isCanonical_append.mpr ⟨single, ih, apart⟩

/-- Joining surrogate pairs gives the canonical text with the same code units. -/
theorem eq_joinSurrogates_iff :
    other = joinSurrogates text ↔ other.units = text.units ∧ other.IsCanonical := by
  constructor
  · rintro rfl
    exact ⟨units_joinSurrogates text, isCanonical_joinSurrogates text⟩
  · rintro ⟨same, canonical⟩
    rw [← units_inj canonical (isCanonical_joinSurrogates text), same, units_joinSurrogates]

/-- A canonical text has no pair that could be joined. -/
theorem joinSurrogates_of_isCanonical (canonical : text.IsCanonical) : joinSurrogates text = text :=
  (eq_joinSurrogates_iff.mpr ⟨rfl, canonical⟩).symm

end Units

end Text

end ComponentInliner
