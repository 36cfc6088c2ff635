import ComponentInliner.Html.Triplet
import ComponentInliner.Proofs.Html.Tags

/-!
# Triplets in a document

The triplets of components go in front of the last end tag of the body. White space at their
beginning aside, they begin with a comment and a tag in which only the name of a component varies,
and that is written without quotation marks and angle brackets.
-/

namespace ComponentInliner.Html

/-- A text is written without quotation marks and closing brackets. -/
def IsInert (text : Text) : Prop :=
  CodePoint.ofChar '"' ∉ text ∧ CodePoint.ofChar '>' ∉ text

instance (text : Text) : Decidable (IsInert text) :=
  inferInstanceAs (Decidable (_ ∧ _))

/-- No mark that could end a quoted value, a comment or a tag stands in an escaped text, nor one
that could begin a tag. -/
theorem not_mem_escape {mark : Char} (isMark : mark ∈ ['"', '\'', '<', '>']) (text : Text) :
    CodePoint.ofChar mark ∉ escape text := by
  intro mem
  rcases List.mem_flatMap.mp mem with ⟨point, -, inPoint⟩
  unfold escapePoint at inPoint
  split at inPoint
  · next found =>
      have inReference : (references.all fun entry => ['"', '\'', '<', '>'].all fun other =>
          CodePoint.ofChar other ∉ Text.ofString entry.2) = true := by
        decide
      have apart := List.all_eq_true.mp inReference _ (List.mem_of_find?_eq_some found)
      exact of_decide_eq_true (List.all_eq_true.mp apart mark isMark) inPoint
  · next missing =>
      have isReferenced : (['"', '\'', '<', '>'].all fun other =>
          (references.find? fun entry => CodePoint.ofChar other = entry.1) ≠ none) = true := by
        decide
      rw [← List.mem_singleton.mp inPoint] at missing
      exact of_decide_eq_true (List.all_eq_true.mp isReferenced mark isMark) missing

/-- An escaped text can neither end the attribute it is in nor the tag or comment. -/
theorem isInert_escape (text : Text) : IsInert (escape text) :=
  ⟨not_mem_escape (by decide) text, not_mem_escape (by decide) text⟩

theorem renderTriplets_cons (compactStyles : Bool) (record : ComponentRecord)
    (records : List ComponentRecord) :
    ∃ later, renderTriplets compactStyles (record :: records) =
      renderTriplet compactStyles record ++ later := by
  cases records with
  | nil => exact ⟨[], by simp [renderTriplets, Text.joinWith, List.intercalate]⟩
  | cons next records =>
      refine ⟨"\n" ++ renderTriplets compactStyles (next :: records), ?_⟩
      simp [renderTriplets, Text.joinWith, List.intercalate]

/-- The triplets of components, white space at their beginning aside. -/
def tripletBlock (compactStyles : Bool) (records : List ComponentRecord) : Text :=
  (renderTriplets compactStyles records).dropWhile CodePoint.isBlank

theorem renderTriplet_begins (compactStyles : Bool) (record : ComponentRecord) :
    ∃ rest, renderTriplet compactStyles record = "\n  " ++ ("<!" ++
      ("-- Component: " ++ escape record.name ++ " --") ++ ">\n" ++ "  <style data-component=" ++
        "\"" ++ (escape record.name ++ "\"") ++ ">\n" ++ rest) := by
  let style := if compactStyles then StyleSheet.compact record.style else record.style
  let named : Text := nameAttribute ++ "=\"" ++ escape record.name ++ "\""
  let typed := Text.ofString ("type=\"" ++ scriptType ++ "\" ")
  let template := element "template" named record.template
  let script := element "script" (typed ++ named) (scriptText record.logicSource)
  refine ⟨"    " ++ style ++ "\n  </style>" ++ "\n  \n" ++ template ++ "\n  \n" ++ script, ?_⟩
  have first : element "style" named style = "  <style data-component=" ++ "\"" ++
      (escape record.name ++ "\"") ++ ">\n" ++ ("    " ++ style ++ "\n  </style>") := by
    simp [element, named, nameAttribute, Text.ofString]
  have whole : renderTriplet compactStyles record = "\n  <!-- Component: " ++ escape record.name ++
      " -->\n" ++ element "style" named style ++ "\n  \n" ++ template ++ "\n  \n" ++ script := rfl
  rw [whole, first]
  simp [Text.ofString]

theorem beginsTriplets_tripletBlock (compactStyles : Bool) (record : ComponentRecord)
    (records : List ComponentRecord) (following : Text) :
    BeginsTriplets (tripletBlock compactStyles (record :: records) ++ following) := by
  rcases renderTriplets_cons compactStyles record records with ⟨later, split⟩
  rcases renderTriplet_begins compactStyles record with ⟨rest, shape⟩
  rcases isInert_escape record.name with ⟨nameUnquoted, nameUnclosed⟩
  refine ⟨"-- Component: " ++ escape record.name ++ " --", "  <style data-component=",
    escape record.name ++ "\"", rest ++ later ++ following, ?_, ?_, by decide, ?_, ?_⟩
  · simp only [List.mem_append, not_or]
    exact ⟨⟨by decide, nameUnquoted⟩, by decide⟩
  · simp only [List.mem_append, not_or]
    exact ⟨⟨by decide, nameUnclosed⟩, by decide⟩
  · exact List.not_mem_append nameUnclosed (by decide)
  · unfold tripletBlock
    rw [split, shape]
    have trimmed (text : Text) :
        (Text.ofString "\n  " ++ ("<!" ++ text)).dropWhile CodePoint.isBlank = "<!" ++ text := rfl
    simp only [List.append_assoc] at trimmed ⊢
    rw [trimmed]
    simp only [List.append_assoc]

theorem splitLast?_eq_some {needle text before close : Text}
    (found : splitLast? needle text = some (before, close)) : text = before ++ close := by
  induction text generalizing before with
  | nil =>
      simp only [splitLast?] at found
      split at found <;> cases found
      rfl
  | cons point rest ih =>
      simp only [splitLast?] at found
      split at found
      · next later split =>
          cases found
          rw [ih split, List.cons_append]
      · split at found <;> cases found
        rfl

theorem exists_splitLast? {needle text : Text} (occurs : needle <:+: text) :
    ∃ before close, splitLast? needle text = some (before, close) := by
  induction text with
  | nil =>
      have isEmpty := List.infix_nil.mp occurs
      exact ⟨[], [], by simp [splitLast?, isEmpty]⟩
  | cons point rest ih =>
      cases split : splitLast? needle rest with
      | some parts => exact ⟨point :: parts.1, parts.2, by simp [splitLast?, split]⟩
      | none =>
          have begins : Text.startsWith (point :: rest) needle = true := by
            rcases List.infix_cons_iff.mp occurs with ⟨later, same⟩ | later
            · rw [Text.startsWith, Text.dropPrefix?_eq_some.mpr same.symm]
              rfl
            · rcases ih later with ⟨before, close, found⟩
              cases split.symm.trans found
          exact ⟨[], point :: rest, by simp [splitLast?, split, begins]⟩

/-- The triplets of components are put into every document that holds the end tag of a body. -/
theorem insertBeforeBodyClose_triplets {document : Text}
    (hasBody : Text.ofString bodyClose <:+: document) (compactStyles : Bool)
    (records : List ComponentRecord) :
    let markup := renderTriplets compactStyles records
    ∃ before close, splitLast? bodyClose document = some (before, close) ∧
      document = before ++ close ∧
      insertBeforeBodyClose document markup = some (before ++ markup.takeWhile CodePoint.isBlank ++
        tripletBlock compactStyles records ++ close) := by
  intro markup
  rcases exists_splitLast? hasBody with ⟨before, close, split⟩
  refine ⟨before, close, split, splitLast?_eq_some split, ?_⟩
  have parts : markup.takeWhile CodePoint.isBlank ++ tripletBlock compactStyles records = markup :=
    List.takeWhile_append_dropWhile
  rw [insertBeforeBodyClose, split, Option.map_some, List.append_assoc before, parts]

end ComponentInliner.Html
