import ComponentInliner.Proofs.Html.Triplets
import ComponentInliner.Proofs.Text.Scalars

/-!
# Documents of scalar values

No step on the way to a document makes surrogates: references and style sheets are written with what
is in the texts, triplets put the texts between strings, and a substitution leaves what is in the
document and in the text that takes the place of a tag.
-/

namespace ComponentInliner

open Text

/-- The texts of a component that go into documents consist of scalar values. -/
structure ComponentRecord.IsScalar (record : ComponentRecord) : Prop where
  name : record.name.IsScalar
  style : record.style.IsScalar
  template : record.template.IsScalar
  logicSource : record.logicSource.IsScalar

namespace StyleSheet

theorem dropComments_sublist (inside : Bool) (style : Text) :
    (dropComments inside style).Sublist style := by
  fun_induction dropComments inside style with
  | case1 => exact .slnil
  | case2 point => exact List.nil_sublist _
  | case3 inside point => exact .refl _
  | case4 _ _ _ _ ih | case6 _ _ _ _ _ _ ih => exact (ih.cons _).cons _
  | case5 _ _ _ _ ih => exact ih.cons _
  | case7 _ _ _ _ _ _ ih => exact ih.cons_cons _

theorem isScalar_collapseBlanks (afterBlank : Bool) {style : Text} (isScalar : style.IsScalar) :
    (collapseBlanks afterBlank style).IsScalar := by
  fun_induction collapseBlanks afterBlank style with
  | case1 => exact isScalar_nil
  | case2 point rest _ ih => exact ih (isScalar_cons.mp isScalar).2
  | case3 afterBlank point rest _ _ ih =>
      exact isScalar_cons.mpr ⟨CodePoint.isSurrogate_ofChar _, ih (isScalar_cons.mp isScalar).2⟩
  | case4 afterBlank point rest _ ih =>
      rw [isScalar_cons] at isScalar
      exact isScalar_cons.mpr ⟨isScalar.1, ih isScalar.2⟩

theorem isScalar_compact {style : Text} (isScalar : style.IsScalar) : (compact style).IsScalar := by
  have uncommented := isScalar.subset (dropComments_sublist false style).subset
  exact (isScalar_collapseBlanks false uncommented).trimBoth _

end StyleSheet

namespace Html

theorem isScalar_escape {text : Text} (isScalar : text.IsScalar) : (escape text).IsScalar := by
  intro point mem
  rcases List.mem_flatMap.mp mem with ⟨escaped, escapedMem, pointMem⟩
  unfold escapePoint at pointMem
  split at pointMem
  · exact isScalar_ofString _ point pointMem
  · rw [List.mem_singleton.mp pointMem]
    exact isScalar escaped escapedMem

theorem isScalar_renderTriplet (compactStyles : Bool) {record : ComponentRecord}
    (isScalar : record.IsScalar) : (renderTriplet compactStyles record).IsScalar := by
  have name := isScalar_escape isScalar.name
  have style : (if compactStyles then StyleSheet.compact record.style
      else record.style).IsScalar := by
    split
    · exact StyleSheet.isScalar_compact isScalar.style
    · exact isScalar.style
  simp [renderTriplet, element, scriptText, name, style, isScalar.template, isScalar.logicSource]

theorem isScalar_renderTriplets (compactStyles : Bool) {records : List ComponentRecord}
    (areScalar : ∀ record ∈ records, record.IsScalar) :
    (renderTriplets compactStyles records).IsScalar := by
  apply IsScalar.joinWith (isScalar_ofString _)
  intro text mem
  rcases List.mem_map.mp mem with ⟨record, recordMem, rfl⟩
  exact isScalar_renderTriplet compactStyles (areScalar record recordMem)

theorem isScalar_insertBeforeBodyClose {document markup written : Text}
    (documentIsScalar : document.IsScalar) (markupIsScalar : markup.IsScalar)
    (inserted : insertBeforeBodyClose document markup = some written) : written.IsScalar := by
  rcases Option.map_eq_some_iff.mp inserted with ⟨⟨before, close⟩, split, rfl⟩
  rw [splitLast?_eq_some split, isScalar_append] at documentIsScalar
  simp [documentIsScalar, markupIsScalar]

section Substitutions

variable {substitution : Substitution}
  (replaces : ∀ text tag, text.IsScalar → substitution.tag? text = some tag →
    tag.replacement.IsScalar)

include replaces

theorem Substitution.isScalar_leftover {document : Text} (searching : Bool) (covered : Nat)
    (isScalar : document.IsScalar) :
    (leftover (substitution.fates searching covered document) document).IsScalar := by
  fun_induction fates substitution searching covered document with
  | case1 => exact isScalar_nil
  | case2 searching covered point rest ih => exact ih (isScalar_cons.mp isScalar).2
  | case3 searching point rest tag found ih =>
      have isTag : substitution.tag? (point :: rest) = some tag := by
        split at found
        · exact found
        · cases found
      exact isScalar_append.mpr
        ⟨replaces _ tag isScalar isTag, ih (isScalar_cons.mp isScalar).2⟩
  | case4 searching point rest _ ih =>
      rw [isScalar_cons] at isScalar
      exact isScalar_cons.mpr ⟨isScalar.1, ih isScalar.2⟩

theorem Substitution.isScalar_apply {document : Text} (isScalar : document.IsScalar) :
    (substitution.apply document).IsScalar :=
  isScalar_leftover replaces true 0 isScalar

end Substitutions

theorem isScalar_inlineRuntime {code document : Text} (filename : Text)
    (codeIsScalar : code.IsScalar) (isScalar : document.IsScalar) :
    (inlineRuntime code filename document).IsScalar := by
  apply Substitution.isScalar_apply _ isScalar
  intro text tag textIsScalar isTag
  rcases Option.map_eq_some_iff.mp isTag with ⟨⟨attributes, after⟩, found, rfl⟩
  rcases runtimeTag?_sound found with ⟨source, -, -, rfl⟩
  have attributesAreScalar : attributes.IsScalar := by
    simp only [isScalar_append] at textIsScalar
    exact textIsScalar.1.1.2
  simp [inlineScript, attributesAreScalar, codeIsScalar]

theorem isScalar_removeBootstrap {document : Text} (filename : Text)
    (isScalar : document.IsScalar) : (removeBootstrap filename document).IsScalar := by
  apply Substitution.isScalar_apply _ isScalar
  intro text tag _ isTag
  rcases Option.map_eq_some_iff.mp isTag with ⟨after, -, rfl⟩
  exact isScalar_nil

end Html

end ComponentInliner
