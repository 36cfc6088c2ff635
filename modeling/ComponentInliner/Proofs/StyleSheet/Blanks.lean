import ComponentInliner.Html.StyleSheet
import ComponentInliner.Proofs.Text.Trimming
import Mathlib.Data.List.Chain

/-!
# White space in compact style sheets

A text is tidy if its white space consists of single spaces between other code points. Tidying makes
every text tidy and leaves tidy texts alone (`tidied_eq_self_iff`). It goes through a text from left
to right and only needs to know whether white space came before, so it can be followed piece by
piece; code points that are no white space stay and stay next to each other.
-/

namespace ComponentInliner

namespace StyleSheet

/-- A text with one space for each run of white space and none at its ends. -/
def tidied (text : Text) : Text :=
  (collapseBlanks false text).trimBoth CodePoint.isBlank

theorem compact_eq (style : Text) : compact style = tidied (dropComments false style) :=
  rfl

/-- The white space of a text is single spaces between other code points. -/
structure IsTidy (text : Text) : Prop where
  spaces : ∀ point ∈ text, point.isBlank → point = ' '
  single : text.IsChain fun left right => ¬(left.isBlank ∧ right.isBlank)
  start : ∀ point ∈ text.head?, ¬point.isBlank
  stop : ∀ point ∈ text.getLast?, ¬point.isBlank

section Collapsing

variable {afterBlank : Bool} {text : Text} {point : CodePoint}

/-- Whether white space came before what follows a text. -/
def endsBlank (afterBlank : Bool) (text : Text) : Bool :=
  text.foldl (fun _ point => point.isBlank) afterBlank

theorem collapseBlanks_append (afterBlank : Bool) (text other : Text) :
    collapseBlanks afterBlank (text ++ other) =
      collapseBlanks afterBlank text ++ collapseBlanks (endsBlank afterBlank text) other := by
  induction text generalizing afterBlank with
  | nil => rfl
  | cons point text ih =>
      cases isBlank : point.isBlank <;> cases afterBlank <;>
        simp [collapseBlanks, endsBlank, isBlank, ih]

theorem collapseBlanks_of_not_blank (ordinary : ¬point.isBlank) :
    collapseBlanks afterBlank (point :: text) = point :: collapseBlanks false text := by
  simp [collapseBlanks, ordinary]

/-- A run of white space counts as one space. -/
theorem collapseBlanks_run {run : Text} (several : run ≠ [])
    (areBlank : ∀ point ∈ run, point.isBlank) (afterBlank : Bool) (following : Text) :
    collapseBlanks afterBlank (run ++ following) =
      (if afterBlank then [] else [CodePoint.ofChar ' ']) ++ collapseBlanks true following := by
  have goesOn (rest : Text) (restBlank : ∀ point ∈ rest, point.isBlank) :
      collapseBlanks true (rest ++ following) = collapseBlanks true following := by
    induction rest with
    | nil => rfl
    | cons point rest ih =>
        rw [List.forall_mem_cons] at restBlank
        simp [collapseBlanks, restBlank.1, ih restBlank.2]
  cases run with
  | nil => exact absurd rfl several
  | cons point rest =>
      rw [List.forall_mem_cons] at areBlank
      cases afterBlank <;> simp [collapseBlanks, areBlank.1, goesOn rest areBlank.2]

theorem length_collapseBlanks_le (afterBlank : Bool) (text : Text) :
    (collapseBlanks afterBlank text).length ≤ text.length := by
  fun_induction collapseBlanks afterBlank text with
  | case1 => exact Nat.le_refl _
  | case2 point rest isBlank ih => exact Nat.le_succ_of_le ih
  | case3 | case4 => simp only [List.length_cons]; omega

/-- Only spaces are left, none next to another one. -/
theorem collapseBlanks_spaces (afterBlank : Bool) (text : Text) :
    ∀ point ∈ collapseBlanks afterBlank text, point.isBlank → point = ' ' := by
  fun_induction collapseBlanks afterBlank text with
  | case1 => exact fun point mem => nomatch mem
  | case2 point rest isBlank ih => exact ih
  | case3 afterBlank point rest isBlank notAfter ih =>
      exact List.forall_mem_cons.mpr ⟨fun _ => rfl, ih⟩
  | case4 afterBlank point rest ordinary ih =>
      exact List.forall_mem_cons.mpr ⟨fun isBlank => absurd isBlank ordinary, ih⟩

theorem collapseBlanks_single (afterBlank : Bool) (text : Text) :
    (collapseBlanks afterBlank text).IsChain (fun left right => ¬(left.isBlank ∧ right.isBlank)) ∧
      (afterBlank = true → ∀ point ∈ (collapseBlanks afterBlank text).head?, ¬point.isBlank) := by
  fun_induction collapseBlanks afterBlank text with
  | case1 => exact ⟨.nil, fun _ point isHead => nomatch isHead⟩
  | case2 point rest isBlank ih => exact ih
  | case3 afterBlank point rest isBlank notAfter ih =>
      refine ⟨List.isChain_cons.mpr ⟨fun next isHead both => ?_, ih.1⟩, fun after => ?_⟩
      · exact ih.2 rfl next isHead both.2
      · exact absurd after notAfter
  | case4 afterBlank point rest ordinary ih =>
      refine ⟨List.isChain_cons.mpr ⟨fun next isHead both => ordinary both.1, ih.1⟩, ?_⟩
      rintro - next isHead
      cases isHead
      exact ordinary

/-- A text whose white space is single spaces is collapsed already. -/
theorem collapseBlanks_eq_self (spaces : ∀ point ∈ text, point.isBlank → point = ' ')
    (single : text.IsChain fun left right => ¬(left.isBlank ∧ right.isBlank))
    (start : afterBlank = true → ∀ point ∈ text.head?, ¬point.isBlank) :
    collapseBlanks afterBlank text = text := by
  induction text generalizing afterBlank with
  | nil => rfl
  | cons point rest ih =>
      rw [List.forall_mem_cons] at spaces
      rw [List.isChain_cons] at single
      cases isBlank : point.isBlank with
      | false =>
          have onRest : collapseBlanks false rest = rest := ih spaces.2 single.2 nofun
          rw [collapseBlanks_of_not_blank (by simp [isBlank]), onRest]
      | true =>
          have notAfter : afterBlank = false := by
            cases afterBlank with
            | false => rfl
            | true => exact absurd isBlank (start rfl point rfl)
          have onRest : collapseBlanks true rest = rest :=
            ih spaces.2 single.2 fun _ next isHead nextBlank =>
              single.1 next isHead ⟨isBlank, nextBlank⟩
          rw [notAfter, collapseBlanks, if_pos isBlank, onRest, spaces.1 isBlank]
          rfl

/-- A code point that is no white space comes from the same code point of the text. -/
theorem exists_of_collapseBlanks {left right : Text} (ordinary : ¬point.isBlank)
    (read : collapseBlanks afterBlank text = left ++ point :: right) :
    ∃ before after, text = before ++ point :: after ∧ collapseBlanks afterBlank before = left ∧
      collapseBlanks false after = right := by
  fun_induction collapseBlanks afterBlank text generalizing left with
  | case1 => simp at read
  | case2 blank rest isBlank ih =>
      obtain ⟨before, after, rfl, isLeft, isRight⟩ := ih read
      exact ⟨blank :: before, after, rfl, by simp [collapseBlanks, isBlank, isLeft], isRight⟩
  | case3 afterBlank blank rest isBlank notAfter ih =>
      cases left with
      | nil =>
          have isSpace : CodePoint.ofChar ' ' = point := (List.cons.inj read).1
          exact absurd (isSpace ▸ by decide) ordinary
      | cons first left =>
          obtain ⟨before, after, rfl, isLeft, isRight⟩ := ih (List.cons.inj read).2
          refine ⟨blank :: before, after, rfl, ?_, isRight⟩
          simp [collapseBlanks, isBlank, notAfter, isLeft, ← (List.cons.inj read).1]
  | case4 afterBlank other rest stays ih =>
      cases left with
      | nil =>
          obtain ⟨rfl, isRight⟩ := List.cons.inj read
          exact ⟨[], rest, rfl, rfl, isRight⟩
      | cons first left =>
          obtain ⟨rfl, onRest⟩ := List.cons.inj read
          obtain ⟨before, after, rfl, isLeft, isRight⟩ := ih onRest
          exact ⟨other :: before, after, rfl, by simp [collapseBlanks, stays, isLeft], isRight⟩

theorem collapseBlanks_eq_nil_iff : collapseBlanks false text = [] ↔ text = [] := by
  cases text with
  | nil => simp [collapseBlanks]
  | cons point text => cases isBlank : point.isBlank <;> simp [collapseBlanks, isBlank]

end Collapsing

section Tidying

variable {text : Text}

theorem length_tidied_le (text : Text) : (tidied text).length ≤ text.length := by
  obtain ⟨before, after, isWhole, -, -⟩ :=
    Text.exists_trimBoth CodePoint.isBlank (collapseBlanks false text)
  have collapsed := congrArg List.length isWhole
  have shorter := length_collapseBlanks_le false text
  simp only [List.length_append] at collapsed
  rw [tidied]
  omega

theorem isTidy_tidied (text : Text) : IsTidy (tidied text) := by
  obtain ⟨before, after, isWhole, -, -⟩ :=
    Text.exists_trimBoth CodePoint.isBlank (collapseBlanks false text)
  have single := (collapseBlanks_single false text).1
  rw [isWhole] at single
  refine ⟨fun point mem => ?_, single.left_of_append.right_of_append, ?_, ?_⟩
  · have within : tidied text <:+: collapseBlanks false text := ⟨before, after, isWhole.symm⟩
    exact collapseBlanks_spaces false text point (within.mem mem)
  · intro point isHead
    simp [Text.head?_trimBoth point isHead]
  · intro point isLast
    simp [Text.getLast?_trimBoth point isLast]

/-- Tidying leaves tidy texts alone, and only those. -/
theorem tidied_eq_self_iff : tidied text = text ↔ IsTidy text := by
  constructor
  · intro same
    exact same ▸ isTidy_tidied text
  · rintro ⟨spaces, single, start, stop⟩
    have collapsed : collapseBlanks false text = text := collapseBlanks_eq_self spaces single nofun
    rw [tidied, collapsed]
    exact Text.trimBoth_eq_self (by simpa using start) (by simpa using stop)

instance (text : Text) : Decidable (IsTidy text) :=
  decidable_of_iff _ tidied_eq_self_iff

end Tidying

end StyleSheet

end ComponentInliner
