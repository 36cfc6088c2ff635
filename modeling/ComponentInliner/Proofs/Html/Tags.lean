import ComponentInliner.Html.Document
import ComponentInliner.Proofs.Html.Substitution
import Mathlib.Data.List.TakeWhile

/-!
# The script tags of a document

What the tags are that documents are rid of, said without the search that finds them. A tag is read
from its first code point on, up to the end of its element and as far into the rest of the document
as that takes.
-/

namespace ComponentInliner

theorem Text.dropPrefix?_eq_some {start text rest : Text} :
    Text.dropPrefix? start text = some rest ↔ text = start ++ rest := by
  fun_induction Text.dropPrefix? start text with
  | case1 text => simp [eq_comm]
  | case2 | case4 => simp_all [eq_comm]
  | case3 start point text ih => simp [ih]

namespace Html

section Attributes

variable {Result : Type} {ending : Text} {finish : Text → Option Result} {text : Text}

/-- The end of an attribute is found where a quotation mark comes for the first time or, if the
ending itself has some, after it. -/
theorem afterAttribute?_sound {result : Result}
    (found : afterAttribute? ending finish text = some result) :
    ∃ source rest, CodePoint.ofChar '"' ∉ source ∧ text = source ++ ending ++ "\"" ++ rest ∧
      finish rest = some result := by
  induction text with
  | nil =>
      rcases Option.bind_eq_some_iff.mp found with ⟨rest, dropped, finished⟩
      exact ⟨[], rest, List.not_mem_nil, Text.dropPrefix?_eq_some.mp dropped, finished⟩
  | cons point text ih =>
      rcases Option.or_eq_some_iff.mp found with later | ⟨-, here⟩
      · split at later
        · cases later
        · next ordinary =>
            rcases ih later with ⟨source, rest, unquoted, rfl, finished⟩
            refine ⟨point :: source, rest, ?_, rfl, finished⟩
            rw [List.mem_cons, not_or]
            exact ⟨Ne.symm ordinary, unquoted⟩
      · rcases Option.bind_eq_some_iff.mp here with ⟨rest, dropped, finished⟩
        exact ⟨[], rest, List.not_mem_nil, Text.dropPrefix?_eq_some.mp dropped, finished⟩

theorem afterAttribute?_complete {source rest : Text} (unquoted : CodePoint.ofChar '"' ∉ source)
    (finishes : (finish rest).isSome) :
    (afterAttribute? ending finish (source ++ ending ++ "\"" ++ rest)).isSome := by
  have here :
      ((Text.dropPrefix? (ending ++ "\"") (ending ++ "\"" ++ rest)).bind finish).isSome := by
    rw [Text.dropPrefix?_eq_some.mpr rfl]
    exact finishes
  induction source with
  | nil =>
      cases split : ending ++ "\"" ++ rest with
      | nil =>
          rw [split] at here
          simpa [split, afterAttribute?] using here
      | cons point text =>
          rw [split] at here
          simp only [List.nil_append, split, afterAttribute?, Option.isSome_or, here, Bool.or_true]
  | cons point source ih =>
      rw [List.mem_cons, not_or] at unquoted
      have later := ih unquoted.2
      simp only [List.append_assoc] at later
      simp [afterAttribute?, Ne.symm unquoted.1, later]

end Attributes

/-- A script tag for a runtime file begins a text. -/
def IsRuntimeTag (filename text : Text) : Prop :=
  ∃ source attributes after, CodePoint.ofChar '"' ∉ source ∧
    CodePoint.ofChar '>' ∉ attributes ∧
    text = "<script src=\"" ++ source ++ filename ++ "\"" ++ attributes ++ "></script>" ++ after

/-- A script tag that starts components begins a text. -/
def IsBootstrapTag (filename text : Text) : Prop :=
  ∃ source after, CodePoint.ofChar '"' ∉ source ∧
    text = "<script type=\"module\" src=\"" ++ source ++ filename ++ "\"></script>" ++ after

theorem attributesAndEnd?_eq_some {text attributes after : Text} :
    attributesAndEnd? text = some (attributes, after) ↔
      CodePoint.ofChar '>' ∉ attributes ∧ text = attributes ++ "></script>" ++ after := by
  unfold attributesAndEnd?
  constructor
  · intro found
    rcases Option.map_eq_some_iff.mp found with ⟨rest, dropped, same⟩
    cases same
    refine ⟨fun mem => ?_, ?_⟩
    · simpa using List.mem_takeWhile_imp mem
    · rw [List.append_assoc, ← Text.dropPrefix?_eq_some.mp dropped]
      exact (List.prefix_iff_eq_append.mp (List.takeWhile_prefix _)).symm
  · rintro ⟨unclosed, rfl⟩
    have read : (attributes ++ "></script>" ++ after).takeWhile
        (fun point : CodePoint => point ≠ '>') = attributes := by
      rw [List.append_assoc, List.takeWhile_append_of_pos]
      · exact List.append_nil _
      · intro point mem
        simp only [ne_eq, decide_eq_true_eq]
        rintro rfl
        exact unclosed mem
    rw [read]
    dsimp only
    rw [List.append_assoc, List.drop_left, Text.dropPrefix?_eq_some.mpr rfl]
    rfl

theorem runtimeTag?_sound {filename text attributes after : Text}
    (found : runtimeTag? filename text = some (attributes, after)) :
    ∃ source, CodePoint.ofChar '"' ∉ source ∧ CodePoint.ofChar '>' ∉ attributes ∧
      text = "<script src=\"" ++ source ++ filename ++ "\"" ++ attributes ++ "></script>" ++
        after := by
  rcases Option.bind_eq_some_iff.mp found with ⟨rest, opened, closed⟩
  rcases afterAttribute?_sound closed with ⟨source, following, unquoted, rfl, finished⟩
  rcases attributesAndEnd?_eq_some.mp finished with ⟨unclosed, rfl⟩
  refine ⟨source, unquoted, unclosed, ?_⟩
  rw [Text.dropPrefix?_eq_some.mp opened]
  simp only [List.append_assoc]

theorem afterBootstrapTag?_sound {filename text after : Text}
    (found : afterBootstrapTag? filename text = some after) :
    ∃ source behind, CodePoint.ofChar '"' ∉ source ∧
      text = "<script type=\"module\" src=\"" ++ source ++ filename ++ "\"></script>" ++ behind ∧
      after = behind.dropWhile CodePoint.isBlank := by
  rcases Option.bind_eq_some_iff.mp found with ⟨rest, opened, closed⟩
  rcases afterAttribute?_sound closed with ⟨source, following, unquoted, rfl, finished⟩
  rcases Option.map_eq_some_iff.mp finished with ⟨behind, ended, rfl⟩
  refine ⟨source, behind, unquoted, ?_, rfl⟩
  rw [Text.dropPrefix?_eq_some.mp opened, Text.dropPrefix?_eq_some.mp ended]
  simp only [List.append_assoc]
  rfl

/-- The tags for a runtime file are those that it is put in the place of. -/
theorem finds_runtimeInlining {code filename text : Text} :
    (runtimeInlining code filename).Finds text ↔ IsRuntimeTag filename text := by
  unfold Substitution.Finds runtimeInlining
  rw [Option.isSome_map]
  constructor
  · intro found
    rcases Option.isSome_iff_exists.mp found with ⟨⟨attributes, after⟩, found⟩
    rcases runtimeTag?_sound found with ⟨source, unquoted, unclosed, read⟩
    exact ⟨source, attributes, after, unquoted, unclosed, read⟩
  · rintro ⟨source, attributes, after, unquoted, unclosed, rfl⟩
    have opened : Text.dropPrefix? "<script src=\"" ("<script src=\"" ++ source ++ filename ++
        "\"" ++ attributes ++ "></script>" ++ after) =
          some (source ++ filename ++ "\"" ++ (attributes ++ "></script>" ++ after)) :=
      Text.dropPrefix?_eq_some.mpr (by simp only [List.append_assoc])
    rw [runtimeTag?, opened]
    refine afterAttribute?_complete unquoted ?_
    rw [attributesAndEnd?_eq_some.mpr ⟨unclosed, rfl⟩]
    rfl

/-- The tags that start components are those that are removed. -/
theorem finds_bootstrapRemoval {filename text : Text} :
    (bootstrapRemoval filename).Finds text ↔ IsBootstrapTag filename text := by
  unfold Substitution.Finds bootstrapRemoval
  rw [Option.isSome_map]
  constructor
  · intro found
    rcases Option.isSome_iff_exists.mp found with ⟨after, found⟩
    rcases afterBootstrapTag?_sound found with ⟨source, behind, unquoted, read, -⟩
    exact ⟨source, behind, unquoted, read⟩
  · rintro ⟨source, behind, unquoted, rfl⟩
    have opened : Text.dropPrefix? "<script type=\"module\" src=\""
        ("<script type=\"module\" src=\"" ++ source ++ filename ++ "\"></script>" ++ behind) =
          some (source ++ filename ++ "\"" ++ ("></script>" ++ behind)) :=
      Text.dropPrefix?_eq_some.mpr (by simp only [List.append_assoc]; rfl)
    rw [afterBootstrapTag?, opened]
    refine afterAttribute?_complete unquoted ?_
    rw [Text.dropPrefix?_eq_some.mpr rfl]
    rfl

instance (filename text : Text) : Decidable (IsRuntimeTag filename text) :=
  have same : (runtimeInlining [] filename).Finds text ↔ IsRuntimeTag filename text :=
    finds_runtimeInlining
  decidable_of_iff _ same

instance (filename text : Text) : Decidable (IsBootstrapTag filename text) :=
  decidable_of_iff _ finds_bootstrapRemoval

/-- A text begins as triplets do: with a comment that holds no quotation mark and, on the next line,
a start tag with a quoted attribute at its end. -/
def BeginsTriplets (text : Text) : Prop :=
  ∃ comment element quoted rest, CodePoint.ofChar '"' ∉ comment ∧ CodePoint.ofChar '>' ∉ comment ∧
    CodePoint.ofChar '"' ∉ element ∧ CodePoint.ofChar '>' ∉ quoted ∧
    text = "<!" ++ comment ++ ">\n" ++ element ++ "\"" ++ quoted ++ ">\n" ++ rest

section Reach

/-- A text can be split in only one way at the first occurrence of a code point. -/
theorem eq_of_first {point : CodePoint} {first second after other : Text}
    (firstFree : point ∉ first) (secondFree : point ∉ second)
    (same : first ++ point :: after = second ++ point :: other) :
    first = second ∧ after = other := by
  induction first generalizing second with
  | nil =>
      cases second with
      | nil => exact ⟨rfl, (List.cons.inj same).2⟩
      | cons head second =>
          exact absurd (List.cons.inj same).1 fun isHead => secondFree (by simp [isHead])
  | cons head first ih =>
      rw [List.mem_cons, not_or] at firstFree
      cases second with
      | nil => exact absurd (List.cons.inj same).1.symm firstFree.1
      | cons other second =>
          rcases List.cons.inj same with ⟨isHead, onRest⟩
          rw [List.mem_cons, not_or] at secondFree
          rcases ih firstFree.2 secondFree.2 onRest with ⟨isFirst, isAfter⟩
          exact ⟨by rw [isHead, isFirst], isAfter⟩

/-- A text that begins with a start sign does not begin in the opening of a tag before it. -/
theorem suffix_of_opening {start opening rest following : Text}
    (head : following.head? = some (CodePoint.ofChar '<')) (started : start ≠ [])
    (opensOnce : CodePoint.ofChar '<' ∉ opening.tail)
    (read : start ++ following = opening ++ rest) : following <:+ rest := by
  rcases List.append_eq_append_iff.mp read with ⟨inner, isOpening, reads⟩ | ⟨left, -, reads⟩
  · cases inner with
    | nil => exact ⟨[], by simpa using reads⟩
    | cons point inner =>
        rw [reads] at head
        cases head
        cases start with
        | nil => exact absurd rfl started
        | cons first start => exact absurd (by simp [isOpening]) opensOnce
  · exact ⟨left, reads.symm⟩

/-- An end of two parts that does not begin in the first one is an end of the second one. -/
theorem suffix_of_not_in {part rest following : Text} (isEnd : following <:+ part ++ rest)
    (outside : ∀ inner, inner <:+ part → following = inner ++ rest → inner = []) :
    following <:+ rest := by
  rcases isEnd with ⟨left, reads⟩
  rcases List.append_eq_append_iff.mp reads with ⟨inner, isPart, read⟩ | ⟨between, -, read⟩
  · have isEmpty := outside inner ⟨left, isPart.symm⟩ read
    exact ⟨[], by simpa [isEmpty] using read⟩
  · exact ⟨between, read.symm⟩

/-- A text whose first code point is not removed stays an end. -/
theorem suffix_dropWhile {drops : CodePoint → Bool} {following text : Text} {point : CodePoint}
    (head : following.head? = some point) (stays : drops point = false)
    (isEnd : following <:+ text) : following <:+ text.dropWhile drops := by
  rcases isEnd with ⟨between, rfl⟩
  cases following with
  | nil => cases head
  | cons first rest =>
      cases head
      rw [List.dropWhile_append]
      split
      · rw [List.dropWhile_cons_of_neg (by simp [stays])]
      · exact List.suffix_append _ _

/-- A start tag or a comment does not begin in the end of a script element. -/
theorem eq_nil_of_starts {inner after following : Text}
    (head : following.head? = some (CodePoint.ofChar '<'))
    (starts : following[1]? ≠ some (CodePoint.ofChar '/')) (read : following = inner ++ after)
    (isEnd : inner <:+ "\"></script>") : inner = [] := by
  have tails : ∀ tail ∈ (Text.ofString "\"></script>").tails, tail = [] ∨
      tail[0]? ≠ some (CodePoint.ofChar '<') ∨ tail[1]? = some (CodePoint.ofChar '/') := by decide
  rcases tails inner ((List.mem_tails inner _).mpr isEnd) with isEmpty | atHead | atSecond
  · exact isEmpty
  · cases inner with
    | nil => rfl
    | cons point inner =>
        rw [read] at head
        exact absurd head atHead
  · rcases List.getElem?_eq_some_iff.mp atSecond with ⟨inside, -⟩
    rw [read, List.getElem?_append_left inside] at starts
    exact absurd atSecond starts

variable {following inner attributes after : Text} (begins : BeginsTriplets following)

include begins

/-- Triplets do not begin among the attributes of a script element: their first tag is not followed
by an end tag at once. -/
theorem BeginsTriplets.not_in_attributes (unclosed : CodePoint.ofChar '>' ∉ inner)
    (read : following = inner ++ "></script>" ++ after) : False := by
  rcases begins with ⟨comment, element, quoted, rest, -, commentUnclosed, -, -, rfl⟩
  have commentFree : CodePoint.ofChar '>' ∉ Text.ofString "<!" ++ comment :=
    List.not_mem_append (by decide) commentUnclosed
  have split : inner ++ CodePoint.ofChar '>' :: ("</script>" ++ after) =
      Text.ofString "<!" ++ comment ++
        CodePoint.ofChar '>' :: ("\n" ++ element ++ "\"" ++ quoted ++ ">\n" ++ rest) := by
    simpa [Text.ofString] using read.symm
  have behind := (eq_of_first unclosed commentFree split).2
  exact absurd (List.cons.inj behind).1 (by decide)

/-- Triplets do not begin in the source of a script element: the attribute that their first
quotation mark opens is not followed by an end tag at once. -/
theorem BeginsTriplets.not_in_source (unquoted : CodePoint.ofChar '"' ∉ inner)
    (unclosed : CodePoint.ofChar '>' ∉ attributes)
    (read : following = inner ++ "\"" ++ attributes ++ "></script>" ++ after) : False := by
  rcases begins with
    ⟨comment, element, quoted, rest, commentUnquoted, -, elementUnquoted, quotedUnclosed, rfl⟩
  have frontFree : CodePoint.ofChar '"' ∉ Text.ofString "<!" ++ comment ++ ">\n" ++ element := by
    simp only [List.mem_append, not_or]
    exact ⟨⟨⟨by decide, commentUnquoted⟩, by decide⟩, elementUnquoted⟩
  have atQuote : inner ++ CodePoint.ofChar '"' :: (attributes ++ "></script>" ++ after) =
      Text.ofString "<!" ++ comment ++ ">\n" ++ element ++
        CodePoint.ofChar '"' :: (quoted ++ ">\n" ++ rest) := by
    simpa [Text.ofString] using read.symm
  have behindQuote := (eq_of_first unquoted frontFree atQuote).2
  have atEnd : attributes ++ CodePoint.ofChar '>' :: ("</script>" ++ after) =
      quoted ++ CodePoint.ofChar '>' :: ("\n" ++ rest) := by
    simpa [Text.ofString] using behindQuote
  have behind := (eq_of_first unclosed quotedUnclosed atEnd).2
  exact absurd (List.cons.inj behind).1 (by decide)

/-- A script element that begins before triplets ends before them too. -/
theorem BeginsTriplets.tag_ends_before {opening source start : Text} (started : start ≠ [])
    (opensOnce : CodePoint.ofChar '<' ∉ opening.tail) (unquoted : CodePoint.ofChar '"' ∉ source)
    (unclosed : CodePoint.ofChar '>' ∉ attributes)
    (read : start ++ following = opening ++ source ++ "\"" ++ attributes ++ "></script>" ++ after) :
    following <:+ after := by
  have head : following.head? = some (CodePoint.ofChar '<') := by
    rcases begins with ⟨comment, element, quoted, rest, -, -, -, -, rfl⟩
    rfl
  have starts : following[1]? ≠ some (CodePoint.ofChar '/') := by
    rcases begins with ⟨comment, element, quoted, rest, -, -, -, -, rfl⟩
    exact ne_of_beq_false rfl
  simp only [List.append_assoc] at read
  -- The part before the triplets reaches past the opening, the source, the attributes and the end.
  have pastOpening := suffix_of_opening head started opensOnce read
  have pastSource := suffix_of_not_in pastOpening fun inner isEnd reads =>
    (begins.not_in_source (fun mem => unquoted (isEnd.mem mem)) unclosed
      (by simpa using reads)).elim
  have quotedUnclosed : CodePoint.ofChar '>' ∉ Text.ofString "\"" ++ attributes :=
    List.not_mem_append (by decide) unclosed
  rw [← List.append_assoc] at pastSource
  have pastAttributes := suffix_of_not_in pastSource fun inner isEnd reads =>
    (begins.not_in_attributes (fun mem => quotedUnclosed (isEnd.mem mem))
      (by simpa using reads)).elim
  exact suffix_of_not_in pastAttributes fun inner isEnd reads =>
    eq_nil_of_starts head starts reads (isEnd.trans ⟨"\"", rfl⟩)

end Reach

section Tags

variable {filename left following : Text} (unquoted : CodePoint.ofChar '"' ∉ filename)
  (begins : BeginsTriplets following)

include unquoted begins

/-- No tag for a runtime file reaches into triplets behind it. -/
theorem runtimeInlining_endsIn {code : Text} :
    (runtimeInlining code filename).EndsIn left following := by
  intro rest tag _ ordinary isTag
  rcases Option.map_eq_some_iff.mp isTag with ⟨⟨attributes, after⟩, found, rfl⟩
  rcases runtimeTag?_sound found with ⟨source, sourceUnquoted, unclosed, read⟩
  have wholeUnquoted : CodePoint.ofChar '"' ∉ source ++ filename :=
    List.not_mem_append sourceUnquoted unquoted
  have opensOnce : CodePoint.ofChar '<' ∉ (Text.ofString "<script src=\"").tail := by decide
  have ends := begins.tag_ends_before ordinary opensOnce wholeUnquoted unclosed
    (by simpa only [List.append_assoc] using read)
  exact ends.length_le

/-- No tag that starts components reaches into triplets behind it, nor does the white space that is
removed with the tag. -/
theorem bootstrapRemoval_endsIn : (bootstrapRemoval filename).EndsIn left following := by
  intro rest tag _ ordinary isTag
  rcases Option.map_eq_some_iff.mp isTag with ⟨after, found, rfl⟩
  rcases afterBootstrapTag?_sound found with ⟨source, behind, sourceUnquoted, read, rfl⟩
  have wholeUnquoted : CodePoint.ofChar '"' ∉ source ++ filename :=
    List.not_mem_append sourceUnquoted unquoted
  have opensOnce : CodePoint.ofChar '<' ∉
      (Text.ofString "<script type=\"module\" src=\"").tail := by decide
  have noAttributes : CodePoint.ofChar '>' ∉ ([] : Text) := List.not_mem_nil
  have ends := begins.tag_ends_before ordinary opensOnce wholeUnquoted noAttributes
    (by simpa [Text.ofString] using read)
  rcases begins with ⟨comment, element, quoted, rest, -, -, -, -, rfl⟩
  exact (suffix_dropWhile rfl (by decide) ends).length_le

end Tags

end Html

end ComponentInliner
