import ComponentInliner.Text.LineEnding
import ComponentInliner.Text.Utf8
import Mathlib.Data.List.Infix

/-!
# Texts of scalar values

A text without surrogates consists of Unicode scalar values, and it is these texts that have an
encoding. They are closed under cutting and joining, so only what is read or written down anew has
to be looked at: strings, numerals and files consist of scalar values.
-/

namespace ComponentInliner

theorem CodePoint.isSurrogate_ofChar (character : Char) :
    (CodePoint.ofChar character).isSurrogate = false := by
  have valid : character.toNat < 0xD800 ∨
      0xDFFF < character.toNat ∧ character.toNat < 0x110000 := character.valid
  have number : (CodePoint.ofChar character).val = character.toNat := rfl
  rw [isSurrogate, number, Bool.and_eq_false_iff, decide_eq_false_iff_not, decide_eq_false_iff_not]
  omega

theorem CodePoint.ofChar_injective : Function.Injective CodePoint.ofChar := by
  intro first second same
  have sameNumber : first.val.toNat = second.val.toNat :=
    congrArg (fun point : CodePoint => point.val) same
  exact Char.ext (UInt32.toNat_inj.mp sameNumber)

namespace Text

/-- A text consists of Unicode scalar values. -/
def IsScalar (text : Text) : Prop :=
  ∀ point ∈ text, point.isSurrogate = false

section Texts

variable {text other : Text}

/-- The texts of scalar values are those that have an encoding. -/
theorem isScalar_iff_encode?_isSome : text.IsScalar ↔ (encode? text).isSome := by
  unfold IsScalar encode? hasSurrogate
  cases found : text.any CodePoint.isSurrogate with
  | true =>
      rcases List.any_eq_true.mp found with ⟨point, mem, isSurrogate⟩
      refine iff_of_false (fun isScalar => ?_) nofun
      exact Bool.noConfusion (isSurrogate.symm.trans (isScalar point mem))
  | false =>
      refine iff_of_true (fun point mem => ?_) rfl
      exact Bool.eq_false_iff.mpr (List.any_eq_false.mp found point mem)

instance (text : Text) : Decidable text.IsScalar :=
  decidable_of_iff _ isScalar_iff_encode?_isSome.symm

@[simp]
theorem isScalar_nil : IsScalar [] :=
  fun _ mem => nomatch mem

@[simp]
theorem isScalar_cons {point : CodePoint} :
    IsScalar (point :: text) ↔ point.isSurrogate = false ∧ text.IsScalar :=
  List.forall_mem_cons

@[simp]
theorem isScalar_append : (text ++ other).IsScalar ↔ text.IsScalar ∧ other.IsScalar :=
  List.forall_mem_append

theorem isScalar_characters (characters : List Char) :
    IsScalar (characters.map CodePoint.ofChar) := by
  intro point mem
  rcases List.mem_map.mp mem with ⟨character, -, rfl⟩
  exact CodePoint.isSurrogate_ofChar character

@[simp]
theorem isScalar_ofString (string : String) : (ofString string).IsScalar :=
  isScalar_characters _

@[simp]
theorem isScalar_ofNat (number : Nat) : (ofNat number).IsScalar :=
  isScalar_ofString _

namespace IsScalar

theorem subset (isScalar : text.IsScalar) (within : other ⊆ text) : other.IsScalar :=
  fun point mem => isScalar point (within mem)

theorem trimBoth (isScalar : text.IsScalar) (drop : CodePoint → Bool) :
    (text.trimBoth drop).IsScalar := by
  apply isScalar.subset
  intro point mem
  have inReversed := (List.dropWhile_suffix drop).subset (List.mem_reverse.mp mem)
  exact (List.dropWhile_suffix drop).subset (List.mem_reverse.mp inReversed)

theorem joinWith {separator : Text} {texts : List Text} (between : separator.IsScalar)
    (areScalar : ∀ text ∈ texts, text.IsScalar) : (Text.joinWith separator texts).IsScalar := by
  induction texts with
  | nil => exact isScalar_nil
  | cons text rest ih =>
      have onText := areScalar text (List.mem_cons_self ..)
      have onRest := ih fun later mem => areScalar later (List.mem_cons_of_mem _ mem)
      cases rest with
      | nil =>
          rw [Text.joinWith, List.intercalate_singleton]
          exact onText
      | cons next rest =>
          rw [Text.joinWith, List.intercalate_cons_cons, isScalar_append, isScalar_append]
          exact ⟨⟨onText, between⟩, onRest⟩

theorem unifyLineEndings (isScalar : text.IsScalar) : (Text.unifyLineEndings text).IsScalar := by
  fun_induction Text.unifyLineEndings text with
  | case1 => exact isScalar_nil
  | case2 => exact isScalar_ofString _
  | case3 => exact isScalar
  | case4 rest ih =>
      simp only [isScalar_cons] at isScalar
      exact isScalar_cons.mpr ⟨CodePoint.isSurrogate_ofChar _, ih isScalar.2.2⟩
  | case5 next rest _ ih =>
      exact isScalar_cons.mpr ⟨CodePoint.isSurrogate_ofChar _, ih (isScalar_cons.mp isScalar).2⟩
  | case6 point next rest _ ih =>
      rw [isScalar_cons] at isScalar
      exact isScalar_cons.mpr ⟨isScalar.1, ih isScalar.2⟩

end IsScalar

end Texts

section Octets

theorem isSurrogate_of_completed? {number least : Nat} {point : CodePoint}
    (completed : completed? number least = some point) : point.isSurrogate = false := by
  unfold completed? at completed
  split at completed
  · split at completed
    · cases completed
    · next proper =>
        cases completed
        exact Bool.eq_false_iff.mpr fun isSurrogate => proper (.inr isSurrogate)
  · cases completed

theorem isSurrogate_of_ascii {number : Nat} {point : CodePoint}
    (found : CodePoint.ofNat? number = some point) (small : number < 0x80) :
    point.isSurrogate = false := by
  unfold CodePoint.ofNat? at found
  split at found
  · cases found
    have early : ¬0xD800 ≤ number := by omega
    rw [CodePoint.isSurrogate, Bool.and_eq_false_iff, decide_eq_false_iff_not]
    exact .inl early
  · cases found

/-- No octets encode a surrogate. -/
theorem isScalar_of_decodeFrom {current : Option Partial} {octets : Bytes} {text : Text}
    (decoded : decodeFrom current octets = some text) : text.IsScalar := by
  fun_induction decodeFrom current octets generalizing text with
  | case1 =>
      cases decoded
      exact isScalar_nil
  | case2 | case5 | case8 => cases decoded
  | case3 octet rest point found small ih =>
      rcases Option.map_eq_some_iff.mp decoded with ⟨later, onRest, rfl⟩
      exact isScalar_cons.mpr ⟨isSurrogate_of_ascii found small, ih onRest⟩
  | case4 octet rest point found large ih =>
      rcases Option.bind_eq_some_iff.mp decoded with ⟨started, -, onRest⟩
      exact ih started onRest
  | case6 =>
      next ih =>
        rcases Option.bind_eq_some_iff.mp decoded with ⟨point, completed, goesOn⟩
        rcases Option.map_eq_some_iff.mp goesOn with ⟨later, onRest, rfl⟩
        exact isScalar_cons.mpr ⟨isSurrogate_of_completed? completed, ih onRest⟩
  | case7 =>
      next ih => exact ih decoded

end Octets

end Text

end ComponentInliner
