import ComponentInliner.Text.Basic
import Mathlib.Data.List.DropRight

/-!
# Trimming

What is cut off at both ends of a text is of the class that is dropped (`exists_trimBoth`), what is
left neither begins nor ends in it (`head?_trimBoth`, `getLast?_trimBoth`), and a part of a text
that neither begins nor ends in it stays, with what is left of the text around it
(`trimBoth_append`, `trimBoth_around`).
-/

namespace ComponentInliner.Text

variable {drop : CodePoint → Bool} {text before core after : Text}

theorem trimBoth_eq (drop : CodePoint → Bool) (text : Text) :
    text.trimBoth drop = (text.dropWhile drop).rdropWhile drop :=
  rfl

theorem exists_trimBoth (drop : CodePoint → Bool) (text : Text) : ∃ before after,
    text = before ++ text.trimBoth drop ++ after ∧ (∀ point ∈ before, drop point = true) ∧
      ∀ point ∈ after, drop point = true := by
  refine ⟨text.takeWhile drop, (text.dropWhile drop).rtakeWhile drop, ?_, ?_, ?_⟩
  · rw [trimBoth_eq, List.append_assoc, List.rdropWhile_append_rtakeWhile,
      List.takeWhile_append_dropWhile]
  · exact fun point mem => List.mem_takeWhile_imp mem
  · exact fun point mem => List.mem_rtakeWhile_imp mem

theorem getLast?_trimBoth : ∀ point ∈ (text.trimBoth drop).getLast?, drop point = false := by
  intro point isLast
  have nonempty : text.trimBoth drop ≠ [] := by
    intro empty
    rw [empty] at isLast
    cases isLast
  rw [List.getLast?_eq_some_getLast nonempty] at isLast
  cases isLast
  exact Bool.eq_false_iff.mpr (List.rdropWhile_last_not drop _ nonempty)

theorem head?_trimBoth : ∀ point ∈ (text.trimBoth drop).head?, drop point = false := by
  intro point isHead
  obtain ⟨after, isWhole⟩ := List.rdropWhile_prefix drop (text.dropWhile drop)
  have isFirst : (text.dropWhile drop).head? = some point := by
    rw [← isWhole, List.head?_append, ← trimBoth_eq, isHead]
    rfl
  have stops := List.head?_dropWhile_not drop text
  rw [isFirst] at stops
  exact stops

theorem rdropWhile_append (dropped : ∀ point ∈ after, drop point = true) :
    (text ++ after).rdropWhile drop = text.rdropWhile drop := by
  induction after using List.reverseRecOn with
  | nil => rw [List.append_nil]
  | append_singleton after point ih =>
      have isDropped := dropped point (List.mem_append_right _ (List.mem_singleton_self _))
      rw [← List.append_assoc, List.rdropWhile_concat_pos drop _ _ isDropped]
      exact ih fun other mem => dropped other (List.mem_append_left _ mem)

theorem trimBoth_append_left (dropped : ∀ point ∈ before, drop point = true) :
    (before ++ text).trimBoth drop = text.trimBoth drop := by
  rw [trimBoth_eq, List.dropWhile_append_of_pos dropped, ← trimBoth_eq]

theorem trimBoth_append_right (dropped : ∀ point ∈ after, drop point = true) :
    (text ++ after).trimBoth drop = text.trimBoth drop := by
  rw [trimBoth_eq, List.dropWhile_append, trimBoth_eq]
  split
  · next empty => rw [List.isEmpty_iff.mp empty, List.dropWhile_eq_nil_iff.mpr dropped]
  · exact rdropWhile_append dropped

theorem trimBoth_eq_self (first : ∀ point ∈ text.head?, drop point = false)
    (last : ∀ point ∈ text.getLast?, drop point = false) : text.trimBoth drop = text := by
  cases text with
  | nil => rfl
  | cons point rest =>
      rw [trimBoth_eq, List.dropWhile_cons_of_neg (Bool.eq_false_iff.mp (first point rfl)),
        List.rdropWhile_eq_self_iff]
      intro nonempty
      exact Bool.eq_false_iff.mp (last _ (List.getLast?_eq_some_getLast nonempty))

theorem trimBoth_append (droppedBefore : ∀ point ∈ before, drop point = true)
    (droppedAfter : ∀ point ∈ after, drop point = true)
    (first : ∀ point ∈ core.head?, drop point = false)
    (last : ∀ point ∈ core.getLast?, drop point = false) :
    (before ++ core ++ after).trimBoth drop = core := by
  rw [trimBoth_append_right droppedAfter, trimBoth_append_left droppedBefore,
    trimBoth_eq_self first last]

/-- Trimming leaves what stands around a part of a text that neither begins nor ends in what is
dropped, up to the ends of the text. -/
theorem trimBoth_around (several : core ≠ []) (first : ∀ point ∈ core.head?, drop point = false)
    (last : ∀ point ∈ core.getLast?, drop point = false) :
    (before ++ core ++ after).trimBoth drop =
      before.dropWhile drop ++ core ++ after.rdropWhile drop := by
  have cutLeft : (before ++ (core ++ after)).dropWhile drop =
      before.dropWhile drop ++ (core ++ after) := by
    rw [List.dropWhile_append]
    split
    · next empty =>
        rw [List.isEmpty_iff.mp empty]
        cases core with
        | nil => exact absurd rfl several
        | cons point core => exact List.dropWhile_cons_of_neg (by simp [first point rfl])
    · rfl
  have lastReversed : ∀ point ∈ core.reverse.head?, drop point = false := by
    rwa [List.head?_reverse]
  rw [List.append_assoc, trimBoth_eq, cutLeft, ← List.append_assoc, List.rdropWhile,
    List.reverse_append, List.dropWhile_append]
  split
  · next empty =>
      rw [List.rdropWhile, List.isEmpty_iff.mp empty]
      cases isCore : core.reverse with
      | nil => exact absurd (List.reverse_eq_nil_iff.mp isCore) several
      | cons point rest =>
          rw [isCore] at lastReversed
          rw [List.reverse_append, isCore, List.cons_append,
            List.dropWhile_cons_of_neg (by simp [lastReversed point rfl])]
          have isReversed : core = (point :: rest).reverse := by rw [← isCore, List.reverse_reverse]
          simp [isReversed]
  · rw [List.rdropWhile, List.reverse_append, List.reverse_reverse]

end ComponentInliner.Text
