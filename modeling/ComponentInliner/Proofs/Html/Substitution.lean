import ComponentInliner.Html.Substitution
import Mathlib.Data.List.Infix
import Mathlib.Tactic.Tauto

/-!
# What substitutions leave alone

A block of a document is kept if each of its code points stays. If the tags that begin before the
block end before it too, the block is kept exactly if no tag is replaced that begins in it, and the
new document holds the block at the place where the old one held it.
-/

namespace ComponentInliner.Html

/-- A property holds of some end of a part of a document, read together with what follows. -/
def BeginsIn (begins : Text → Prop) (part following : Text) : Prop :=
  ∃ rest, rest <:+ part ∧ rest ≠ [] ∧ begins (rest ++ following)

namespace BeginsIn

variable {begins : Text → Prop} {following : Text}

theorem not_nil : ¬BeginsIn begins [] following := by
  rintro ⟨rest, isEnd, ordinary, -⟩
  exact ordinary (List.suffix_nil.mp isEnd)

theorem cons_iff {point : CodePoint} {part : Text} :
    BeginsIn begins (point :: part) following ↔
      begins (point :: part ++ following) ∨ BeginsIn begins part following := by
  constructor
  · rintro ⟨rest, isEnd, ordinary, holds⟩
    rcases List.suffix_cons_iff.mp isEnd with rfl | isEnd
    · exact .inl holds
    · exact .inr ⟨rest, isEnd, ordinary, holds⟩
  · rintro (holds | ⟨rest, isEnd, ordinary, holds⟩)
    · exact ⟨point :: part, List.suffix_rfl, List.cons_ne_nil _ _, holds⟩
    · exact ⟨rest, List.suffix_cons_iff.mpr (.inr isEnd), ordinary, holds⟩

theorem congr {other : Text → Prop} (same : ∀ text, begins text ↔ other text) {part : Text} :
    BeginsIn begins part following ↔ BeginsIn other part following := by
  have equal : begins = other := funext fun text => propext (same text)
  rw [equal]

/-- To find out whether a property holds of some end of a part, it is tried on every end. -/
theorem iff_tails {part : Text} :
    BeginsIn begins part following ↔
      ∃ rest ∈ part.tails, rest ≠ [] ∧ begins (rest ++ following) := by
  simp only [BeginsIn, List.mem_tails]

instance [DecidablePred begins] (part : Text) : Decidable (BeginsIn begins part following) :=
  decidable_of_iff _ iff_tails.symm

end BeginsIn

theorem leftover_append {fates later : List Fate} {front text : Text}
    (same : fates.length = front.length) :
    leftover (fates ++ later) (front ++ text) = leftover fates front ++ leftover later text := by
  simp [leftover, List.zipWith_append same]

theorem leftover_kept (text : Text) : leftover (List.replicate text.length .kept) text = text := by
  induction text with
  | nil => rfl
  | cons point rest ih =>
      have onRest : (List.zipWith Fate.leaves (List.replicate rest.length .kept) rest).flatten =
          rest := ih
      simp [leftover, List.replicate_succ, Fate.leaves, onRest]

theorem leftover_dropped (text : Text) :
    leftover (List.replicate text.length .dropped) text = [] := by
  induction text with
  | nil => rfl
  | cons point rest ih => simpa [leftover, List.replicate_succ, Fate.leaves] using ih

namespace Substitution

variable {substitution : Substitution}

/-- There is a tag at the beginning of a text. -/
def Finds (substitution : Substitution) (text : Text) : Prop :=
  (substitution.tag? text).isSome

instance (text : Text) : Decidable (substitution.Finds text) :=
  inferInstanceAs (Decidable (_ = true))

/-- The tags that begin in a part of a document end in it too. -/
def EndsIn (substitution : Substitution) (part following : Text) : Prop :=
  ∀ rest tag, rest <:+ part → rest ≠ [] → substitution.tag? (rest ++ following) = some tag →
    following.length ≤ tag.after.length

theorem EndsIn.tail {point : CodePoint} {part following : Text}
    (ends : substitution.EndsIn (point :: part) following) : substitution.EndsIn part following :=
  fun rest tag isEnd => ends rest tag (List.suffix_cons_iff.mpr (.inr isEnd))

theorem length_fates (searching : Bool) (covered : Nat) (text : Text) :
    (substitution.fates searching covered text).length = text.length := by
  fun_induction fates substitution searching covered text with
  | case1 => rfl
  | case2 | case3 | case4 => simp [*]

theorem fates_idle (text : Text) :
    substitution.fates false 0 text = List.replicate text.length .kept := by
  induction text with
  | nil => rfl
  | cons point rest ih => simp [fates, ih, List.replicate_succ]

/-- Without tags, a document stays as it is. -/
theorem apply_nothing (document : Text) : nothing.apply document = document := by
  have stays : nothing.fates true 0 document = List.replicate document.length .kept := by
    induction document with
    | nil => rfl
    | cons point rest ih => simp [fates, nothing, List.replicate_succ] at ih ⊢; exact ih
  rw [apply, stays, leftover_kept]

section Front

variable {front following : Text} {covered : Nat}

/-- With no more tags to look for, a part of a document leaves what follows alone. -/
theorem fates_append_idle (within : covered ≤ front.length) :
    substitution.fates false covered (front ++ following) =
      substitution.fates false covered front ++ substitution.fates false 0 following := by
  induction front generalizing covered with
  | nil =>
      cases Nat.le_zero.mp within
      rfl
  | cons point rest ih =>
      cases covered with
      | zero => simp [fates, ih]
      | succ covered => simp [fates, ih (Nat.le_of_succ_le_succ within)]

/-- Behind a part of a document that its tags end in, tags are looked for as at the beginning,
unless only one tag is replaced and begins in the part. -/
theorem fates_append (ends : substitution.EndsIn front following) (within : covered ≤ front.length)
    (uncovered : substitution.once = true → covered = 0) :
    ∃ (before : List Fate) (searching : Bool), before.length = front.length ∧
      substitution.fates true covered (front ++ following) =
        before ++ substitution.fates searching 0 following ∧
      (searching = true ↔
        ¬(substitution.once = true ∧ BeginsIn substitution.Finds front following)) := by
  induction front generalizing covered with
  | nil =>
      cases Nat.le_zero.mp within
      exact ⟨[], true, rfl, rfl, by simp [BeginsIn.not_nil]⟩
  | cons point rest ih =>
      cases covered with
      | succ covered =>
          have repeated : substitution.once = false := by
            cases isOnce : substitution.once with
            | false => rfl
            | true => cases uncovered isOnce
          obtain ⟨before, searching, same, split, isSearching⟩ :=
            ih ends.tail (Nat.le_of_succ_le_succ within) (by simp [repeated])
          refine ⟨.dropped :: before, searching, by simp [same], by simp [fates, split], ?_⟩
          simp only [repeated] at isSearching ⊢
          simpa using isSearching
      | zero =>
          cases found : substitution.tag? (point :: (rest ++ following)) with
          | none =>
              obtain ⟨before, searching, same, split, isSearching⟩ :=
                ih ends.tail (Nat.zero_le _) (fun _ => rfl)
              have noTag : ¬substitution.Finds (point :: rest ++ following) := by
                simp [Finds, found]
              refine ⟨.kept :: before, searching, by simp [same], by simp [fates, found, split], ?_⟩
              rw [isSearching, BeginsIn.cons_iff]
              simp only [noTag, false_or]
          | some tag =>
              have begins : BeginsIn substitution.Finds (point :: rest) following :=
                BeginsIn.cons_iff.mpr (.inl (by simp [Finds, found]))
              have enough : following.length ≤ tag.after.length :=
                ends (point :: rest) tag List.suffix_rfl (List.cons_ne_nil _ _) found
              have ahead : (rest ++ following).length - tag.after.length ≤ rest.length := by
                rw [List.length_append]
                omega
              cases isOnce : substitution.once with
              | true =>
                  let covered := (rest ++ following).length - tag.after.length
                  refine ⟨.replaced tag.replacement :: substitution.fates false covered rest, false,
                    by simp [length_fates], ?_, by simp [begins]⟩
                  simp only [List.cons_append, fates, if_true, found, isOnce, Bool.not_true]
                  rw [fates_append_idle ahead]
              | false =>
                  obtain ⟨before, searching, same, split, isSearching⟩ :=
                    ih ends.tail ahead (by simp [isOnce])
                  refine ⟨.replaced tag.replacement :: before, searching, by simp [same], ?_, ?_⟩
                  · simp only [List.cons_append, fates, if_true, found, isOnce, Bool.not_false,
                      split]
                  · simpa [isOnce] using isSearching

end Front

section Steps

/-- What belongs to a tag that begins before a text is dropped. -/
theorem fates_covered {searching : Bool} (front following : Text) :
    substitution.fates searching front.length (front ++ following) =
      List.replicate front.length .dropped ++ substitution.fates searching 0 following := by
  induction front with
  | nil => rfl
  | cons point front ih => simp [fates, ih, List.replicate_succ]

theorem apply_of_none {point : CodePoint} {rest : Text}
    (noTag : substitution.tag? (point :: rest) = none) :
    substitution.apply (point :: rest) = point :: substitution.apply rest := by
  simp [apply, fates, noTag, leftover, Fate.leaves]

/-- If all tags are replaced, a tag at the beginning leaves its replacement, and the text after it
is treated as a document of its own. -/
theorem apply_of_some {point : CodePoint} {rest : Text} {tag : Tag}
    (repeated : substitution.once = false)
    (found : substitution.tag? (point :: rest) = some tag) (isEnd : tag.after <:+ rest) :
    substitution.apply (point :: rest) = tag.replacement ++ substitution.apply tag.after := by
  rcases isEnd with ⟨front, isRest⟩
  have covered : rest.length - tag.after.length = front.length := by simp [← isRest]
  have fatesOf : substitution.fates true 0 (point :: rest) = .replaced tag.replacement ::
      (List.replicate front.length .dropped ++ substitution.fates true 0 tag.after) := by
    simp only [fates, if_true, found, repeated, Bool.not_false, covered]
    rw [← isRest, fates_covered]
  have onRest : leftover (List.replicate front.length .dropped ++
      substitution.fates true 0 tag.after) rest = substitution.apply tag.after := by
    rw [← isRest, leftover_append List.length_replicate, leftover_dropped]
    rfl
  rw [apply, fatesOf, ← onRest]
  rfl

/-- If only one tag is replaced, a tag at the beginning leaves its replacement, and the text after
it stays. -/
theorem apply_of_first {point : CodePoint} {rest : Text} {tag : Tag}
    (isOnce : substitution.once = true)
    (found : substitution.tag? (point :: rest) = some tag) (isEnd : tag.after <:+ rest) :
    substitution.apply (point :: rest) = tag.replacement ++ tag.after := by
  rcases isEnd with ⟨front, isRest⟩
  have covered : rest.length - tag.after.length = front.length := by simp [← isRest]
  have fatesOf : substitution.fates true 0 (point :: rest) = .replaced tag.replacement ::
      (List.replicate front.length .dropped ++ List.replicate tag.after.length .kept) := by
    simp only [fates, if_true, found, isOnce, Bool.not_true, covered]
    rw [← isRest, fates_covered, fates_idle]
  have onRest : leftover (List.replicate front.length .dropped ++
      List.replicate tag.after.length .kept) rest = tag.after := by
    rw [← isRest, leftover_append List.length_replicate, leftover_dropped, leftover_kept]
    rfl
  rw [apply, fatesOf]
  exact congrArg (tag.replacement ++ ·) onRest

/-- A part of a document in which no tag begins stays, and the text after it is treated as a
document of its own. -/
theorem apply_append_of_none {part following : Text}
    (noTag : ¬BeginsIn substitution.Finds part following) :
    substitution.apply (part ++ following) = part ++ substitution.apply following := by
  induction part with
  | nil => rfl
  | cons point part ih =>
      rw [BeginsIn.cons_iff, not_or] at noTag
      have noneHere : substitution.tag? (point :: (part ++ following)) = none :=
        Option.not_isSome_iff_eq_none.mp noTag.1
      rw [List.cons_append, apply_of_none noneHere, ih noTag.2]
      rfl

end Steps

section Blocks

variable {left block right : Text}

/-- Each code point of a block of a document stays. -/
def Keeps (substitution : Substitution) (left block right : Text) : Prop :=
  ∀ index, index < block.length →
    (substitution.fates true 0 (left ++ block ++ right))[left.length + index]? = some .kept

/-- What becomes of the part of a document before a point. -/
def leftOf (substitution : Substitution) (left right : Text) : Text :=
  leftover ((substitution.fates true 0 (left ++ right)).take left.length) left

/-- What becomes of the part of a document from a point on. -/
def rightOf (substitution : Substitution) (left right : Text) : Text :=
  leftover ((substitution.fates true 0 (left ++ right)).drop left.length) right

theorem apply_append (left right : Text) :
    substitution.apply (left ++ right) =
      substitution.leftOf left right ++ substitution.rightOf left right := by
  unfold leftOf rightOf apply
  rw [← leftover_append (by simp [length_fates]), List.take_append_drop]

/-- A block whose code points stay is found in the new document between what becomes of the rest. -/
theorem apply_of_keeps (keeps : substitution.Keeps left block right) :
    substitution.apply (left ++ block ++ right) =
      substitution.leftOf left (block ++ right) ++ block ++
        substitution.rightOf (left ++ block) right := by
  have stay : ((substitution.fates true 0 (left ++ block ++ right)).drop left.length).take
      block.length = List.replicate block.length .kept := by
    apply List.ext_getElem?
    intro index
    by_cases inside : index < block.length
    · rw [List.getElem?_take_of_lt inside, List.getElem?_drop, keeps index inside,
        List.getElem?_replicate_of_lt inside]
    · have beyond : block.length ≤ index := Nat.le_of_not_lt inside
      simp [length_fates, beyond]
  have middle : substitution.leftOf (left ++ block) right =
      substitution.leftOf left (block ++ right) ++ block := by
    unfold leftOf
    rw [List.length_append, List.take_add, leftover_append (by simp [length_fates]), stay,
      leftover_kept, ← List.append_assoc]
  rw [apply_append, middle]

/-- From its beginning on, a block is kept if no tag begins in it or none is looked for. -/
theorem fates_kept_iff {searching : Bool} :
    (∀ index, index < block.length →
        (substitution.fates searching 0 (block ++ right))[index]? = some .kept) ↔
      (searching = true → ¬BeginsIn substitution.Finds block right) := by
  cases searching with
  | false =>
      refine ⟨fun _ => nofun, fun _ index inside => ?_⟩
      rw [fates_idle, List.getElem?_replicate_of_lt (by simp; omega)]
  | true =>
      simp only [true_implies]
      induction block with
      | nil =>
          exact ⟨fun _ => BeginsIn.not_nil, fun _ _ inside => absurd inside (Nat.not_lt_zero _)⟩
      | cons point rest ih =>
          rw [BeginsIn.cons_iff, not_or, ← ih]
          cases found : substitution.tag? (point :: (rest ++ right)) with
          | some tag =>
              have begins : substitution.Finds (point :: rest ++ right) := by simp [Finds, found]
              refine ⟨fun stays => ?_, fun none => absurd begins none.1⟩
              have first := stays 0 (Nat.zero_lt_succ _)
              simp [fates, found] at first
          | none =>
              have noTag : ¬substitution.Finds (point :: rest ++ right) := by simp [Finds, found]
              refine ⟨fun stays => ⟨noTag, fun index inside => ?_⟩, fun none index inside => ?_⟩
              · simpa [fates, found] using stays (index + 1) (Nat.succ_lt_succ inside)
              · cases index with
                | zero => simp [fates, found]
                | succ index =>
                    simpa [fates, found] using none.2 index (Nat.lt_of_succ_lt_succ inside)

/-- A block that the tags before it do not reach is kept exactly if no tag is replaced that begins
in it. -/
theorem keeps_iff (ends : substitution.EndsIn left (block ++ right)) :
    substitution.Keeps left block right ↔
      (substitution.once = true ∧ BeginsIn substitution.Finds left (block ++ right)) ∨
        ¬BeginsIn substitution.Finds block right := by
  obtain ⟨before, searching, same, split, isSearching⟩ :=
    fates_append ends (Nat.zero_le _) (fun _ => rfl)
  have stays (index : Nat) :
      (substitution.fates true 0 (left ++ block ++ right))[left.length + index]? =
        (substitution.fates searching 0 (block ++ right))[index]? := by
    rw [List.append_assoc, split, ← same, List.getElem?_append_right (Nat.le_add_right _ _),
      Nat.add_sub_cancel_left]
  unfold Keeps
  simp only [stays]
  rw [fates_kept_iff, isSearching]
  tauto

end Blocks

end Substitution

end ComponentInliner.Html
