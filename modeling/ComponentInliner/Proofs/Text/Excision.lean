import ComponentInliner.Text.Basic
import Mathlib.Data.List.Infix

/-!
# Cutting parts out of texts

Parts of a certain kind are cut out of a text in one pass from left to right. What is left is a list
of stretches: two of them stand side by side where a part was cut out between them. No stretch holds
a part, but the text that they make up together may hold one. Such a part is put together from the
end of what stands before a cut and the beginning of what stands behind it, and a second pass
changes the text exactly if there is one.
-/

namespace ComponentInliner

/-- What is cut out of texts. -/
structure Excision where
  /-- The texts that are cut out. -/
  IsPart : Text → Prop
  /-- The text to go on with behind a part at the beginning of a text. -/
  behind? : Text → Option Text
  finds : ∀ text, (behind? text).isSome ↔ ∃ part following, IsPart part ∧ text = part ++ following
  shortens : ∀ text after, behind? text = some after → after.length < text.length

namespace Excision

variable {excision : Excision} {text : Text} {stretches : List Text}

/-- Some part occurs in a text. -/
def Occurs (excision : Excision) (text : Text) : Prop :=
  ∃ part, excision.IsPart part ∧ part <:+: text

/-- What one pass leaves of a text, stretch by stretch. -/
inductive Leaves (excision : Excision) : (text : Text) → (stretches : List Text) → Prop
  | done : Leaves excision [] [[]]
  | kept {point : CodePoint} {rest stretch : Text} {stretches : List Text}
      (uncut : excision.behind? (point :: rest) = none)
      (onRest : Leaves excision rest (stretch :: stretches)) :
      Leaves excision (point :: rest) ((point :: stretch) :: stretches)
  | cut {text after : Text} {stretches : List Text}
      (isCut : excision.behind? text = some after) (onRest : Leaves excision after stretches) :
      Leaves excision text ([] :: stretches)

/-- At a cut, one text stands before it and another one behind it. -/
def Meet (stretches : List Text) (left right : Text) : Prop :=
  ∃ front back, stretches = front ++ back ∧ left <:+ front.flatten ∧ right <+: back.flatten

namespace Meet

variable {left right : Text}

theorem together (meet : Meet stretches left right) : left ++ right <:+: stretches.flatten := by
  obtain ⟨front, back, rfl, ⟨before, isFront⟩, ⟨after, isBack⟩⟩ := meet
  exact ⟨before, after, by simp [← isFront, ← isBack]⟩

theorem cons (stretch : Text) (meet : Meet stretches left right) :
    Meet (stretch :: stretches) left right := by
  obtain ⟨front, back, rfl, isEnd, isStart⟩ := meet
  refine ⟨stretch :: front, back, rfl, isEnd.trans ?_, isStart⟩
  rw [List.flatten_cons]
  exact List.suffix_append _ _

theorem lengthen {stretch : Text} {point : CodePoint} (several : left ≠ [])
    (meet : Meet (stretch :: stretches) left right) :
    Meet ((point :: stretch) :: stretches) left right := by
  obtain ⟨front, back, isList, isEnd, isStart⟩ := meet
  cases front with
  | nil => exact absurd (List.suffix_nil.mp isEnd) several
  | cons first front =>
      cases isList
      refine ⟨(point :: stretch) :: front, back, rfl, isEnd.trans ?_, isStart⟩
      exact List.suffix_cons point (stretch ++ front.flatten)

/-- Nothing meets where nothing was cut out. -/
theorem not_single (several : left ≠ []) (follows : right ≠ []) : ¬Meet [text] left right := by
  rintro ⟨front, back, isList, isEnd, isStart⟩
  rcases List.append_eq_singleton_iff.mp isList.symm with ⟨rfl, -⟩ | ⟨-, rfl⟩
  · exact several (List.suffix_nil.mp isEnd)
  · exact follows (List.prefix_nil.mp isStart)

end Meet

theorem behind?_nil : excision.behind? [] = none := by
  cases found : excision.behind? [] with
  | none => rfl
  | some after => exact absurd (excision.shortens [] after found) (Nat.not_lt_zero _)

theorem IsPart.isSome {part : Text} (isPart : excision.IsPart part) (following : Text) :
    (excision.behind? (part ++ following)).isSome :=
  (excision.finds _).mpr ⟨part, following, isPart, rfl⟩

theorem IsPart.ne_nil {part : Text} (isPart : excision.IsPart part) : part ≠ [] := by
  rintro rfl
  have found := isPart.isSome []
  rw [List.append_nil, behind?_nil] at found
  cases found

theorem exists_leaves (excision : Excision) (text : Text) :
    ∃ stretch stretches, excision.Leaves text (stretch :: stretches) := by
  -- A part takes more than one code point at once, so the induction is on the length.
  induction size : text.length using Nat.strong_induction_on generalizing text with
  | _ size ih =>
    subst size
    cases found : excision.behind? text with
    | some after =>
        obtain ⟨stretch, stretches, onRest⟩ := ih _ (excision.shortens text after found) after rfl
        exact ⟨[], stretch :: stretches, .cut found onRest⟩
    | none =>
        cases text with
        | nil => exact ⟨[], [], .done⟩
        | cons point rest =>
            obtain ⟨stretch, stretches, onRest⟩ := ih _ (Nat.lt_succ_self _) rest rfl
            exact ⟨point :: stretch, stretches, .kept found onRest⟩

namespace Leaves

/-- The first stretch is the beginning of the text. -/
theorem begins {stretch : Text} (leaves : excision.Leaves text (stretch :: stretches)) :
    stretch <+: text := by
  generalize isAll : stretch :: stretches = all at leaves
  induction leaves generalizing stretch stretches with
  | done =>
      cases isAll
      exact List.nil_prefix
  | kept _ _ ih =>
      cases isAll
      exact List.cons_prefix_cons.mpr ⟨rfl, ih rfl⟩
  | cut =>
      cases isAll
      exact List.nil_prefix

/-- A part in what is left is put together from what stands before and behind a cut. -/
theorem exists_meet {part : Text} (leaves : excision.Leaves text stretches)
    (isPart : excision.IsPart part) (occurs : part <:+: stretches.flatten) :
    ∃ left right, left ≠ [] ∧ right ≠ [] ∧ left ++ right = part ∧ Meet stretches left right := by
  have several := isPart.ne_nil
  induction leaves with
  | done => exact absurd (List.infix_nil.mp occurs) several
  | cut _ _ ih =>
      obtain ⟨left, right, started, ended, isWhole, meet⟩ := ih occurs
      exact ⟨left, right, started, ended, isWhole, meet.cons []⟩
  | @kept point rest stretch stretches uncut onRest ih =>
      rcases List.infix_cons_iff.mp occurs with atStart | later
      · by_cases inside : part <+: point :: stretch
        · -- The stretch is the beginning of the text, and no part begins there.
          obtain ⟨behind, isStretch⟩ := inside
          obtain ⟨following, isRest⟩ := onRest.begins
          have found := isPart.isSome (behind ++ following)
          rw [← List.append_assoc, isStretch, List.cons_append, isRest, uncut] at found
          cases found
        · have isStart : point :: stretch <+: point :: stretch ++ stretches.flatten :=
            List.prefix_append _ _
          rcases List.prefix_or_prefix_of_prefix atStart isStart with within | ⟨right, isWhole⟩
          · exact absurd within inside
          · refine ⟨point :: stretch, right, List.cons_ne_nil _ _, ?_, isWhole,
              [point :: stretch], stretches, rfl, by simp, ?_⟩
            · rintro rfl
              rw [List.append_nil] at isWhole
              exact inside (isWhole ▸ List.prefix_rfl)
            · rw [← isWhole] at atStart
              exact (List.prefix_append_right_inj _).mp atStart
      · obtain ⟨left, right, started, ended, isWhole, meet⟩ := ih later
        exact ⟨left, right, started, ended, isWhole, meet.lengthen started⟩

theorem occurs_iff (leaves : excision.Leaves text stretches) :
    excision.Occurs stretches.flatten ↔
      ∃ left right, left ≠ [] ∧ right ≠ [] ∧ excision.IsPart (left ++ right) ∧
        Meet stretches left right := by
  constructor
  · rintro ⟨part, isPart, occurs⟩
    obtain ⟨left, right, started, ended, rfl, meet⟩ := leaves.exists_meet isPart occurs
    exact ⟨left, right, started, ended, isPart, meet⟩
  · rintro ⟨left, right, -, -, isPart, meet⟩
    exact ⟨left ++ right, isPart, meet.together⟩

/-- Either nothing was cut out, or what is left is shorter. -/
theorem eq_or_shorter (leaves : excision.Leaves text stretches) :
    stretches = [text] ∨ stretches.flatten.length < text.length := by
  induction leaves with
  | done => exact .inl rfl
  | @kept point rest stretch stretches uncut onRest ih =>
      rcases ih with isAll | shorter
      · cases isAll
        exact .inl rfl
      · exact .inr (Nat.succ_lt_succ shorter)
  | @cut text after stretches isCut onRest ih =>
      have lost := excision.shortens text after isCut
      have leftLength : stretches.flatten.length ≤ after.length := by
        rcases ih with rfl | shorter
        · simp
        · exact Nat.le_of_lt shorter
      exact .inr (Nat.lt_of_le_of_lt leftLength lost)

theorem eq_of_not_occurs (leaves : excision.Leaves text stretches)
    (free : ¬excision.Occurs text) : stretches = [text] := by
  induction leaves with
  | done => rfl
  | @kept point rest stretch stretches uncut onRest ih =>
      have onRest := ih fun ⟨part, isPart, occurs⟩ =>
        free ⟨part, isPart, List.infix_cons occurs⟩
      cases onRest
      rfl
  | @cut text after stretches isCut onRest ih =>
      obtain ⟨part, following, isPart, rfl⟩ := (excision.finds text).mp (by simp [isCut])
      exact absurd ⟨part, isPart, (List.prefix_append part following).isInfix⟩ free

/-- A text is left as it is exactly if no part occurs in it. -/
theorem flatten_eq_iff (leaves : excision.Leaves text stretches) :
    stretches.flatten = text ↔ ¬excision.Occurs text := by
  constructor
  · rintro same occurs
    have isAll : stretches = [text] := by
      rcases leaves.eq_or_shorter with isAll | shorter
      · exact isAll
      · rw [same] at shorter
        exact absurd shorter (Nat.lt_irrefl _)
    rw [← same, leaves.occurs_iff, isAll] at occurs
    obtain ⟨left, right, started, ended, -, meet⟩ := occurs
    exact Meet.not_single started ended meet
  · intro free
    rw [leaves.eq_of_not_occurs free, List.flatten_singleton]

end Leaves

end Excision

end ComponentInliner
