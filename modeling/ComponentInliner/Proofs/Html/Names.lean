import ComponentInliner.Proofs.Html.RoundTrip

/-!
# Names in triplets

The name of a component stands in four places of its triplet: in the comment, and in an attribute of
each of the three elements. It is written there with character references, so that the comment and
the attributes end where they are meant to end, and a reader gets the name back, whatever it is.
-/

namespace ComponentInliner.Html

/-- A text takes a reader from the inside of something to the end of it, and not before its last
code point. -/
structure Ends (inside : Mode → Prop) (reader : Reader) (text : Text) (last : Reader) : Prop where
  reads : Reads reader text [] last
  stays : ∀ front, front <+: text → front ≠ text → inside (reader.read front).2.mode
  leaves : ¬inside last.mode

def Mode.IsComment (mode : Mode) : Prop :=
  ∃ part, mode = .comment part

/-- A value of the attribute with the name of a component is being read. -/
def Mode.IsNameValue (tag : MarkupTag) (mode : Mode) : Prop :=
  ∃ value, mode = .tag tag (.quoted '"' nameAttribute value)

/-- The start tags of a triplet up to the attribute with the name, and what a reader has of them. -/
def nameTags : List (String × MarkupTag) :=
  [("<style ", ⟨false, "style", []⟩), ("<template ", ⟨false, "template", []⟩),
    ("<script type=\"text/boredom\" ", ⟨false, "script", [typeOfScript]⟩)]

section Ends

variable {inside : Mode → Prop} {reader last : Reader} {text : Text} {mark : CodePoint}
  {depth : Nat}

/-- A reader that stays inside up to a mark and leaves with it is at the end. -/
theorem Ends.of_mark (stays : ∀ front, front <+: text → inside (reader.read front).2.mode)
    (reads : Reads reader (text ++ [mark]) [] last) (leaves : ¬inside last.mode) :
    Ends inside reader (text ++ [mark]) last where
  reads := reads
  stays front isPrefix proper :=
    stays front ((List.prefix_concat_iff.mp isPrefix).resolve_left proper)
  leaves := leaves

/-- The comment of a triplet ends with its own end, and not in the name. -/
theorem ends_marker (name : Text) :
    Ends Mode.IsComment ⟨.comment .start, depth⟩ (" Component: " ++ escape name ++ " -->")
      ⟨.text, depth⟩ := by
  have body : Text.ofString " Component: " ++ escape name ++ " -->" =
      CodePoint.ofChar ' ' :: ("Component: " ++ escape name ++ " --") ++
        [CodePoint.ofChar '>'] := by
    simp [Text.ofString]
  have unclosed : CodePoint.ofChar '>' ∉ Text.ofString "Component: " ++ escape name ++ " --" := by
    simp only [List.mem_append, not_or]
    exact ⟨⟨by decide, (isInert_escape name).2⟩, by decide⟩
  have reads := @Reads.markerBody depth name
  have leaves : ¬Mode.IsComment .text := by
    rintro ⟨part, isComment⟩
    cases isComment
  rw [body] at reads ⊢
  refine .of_mark ?_ reads leaves
  intro front isPrefix
  rcases List.prefix_cons_iff.mp isPrefix with rfl | ⟨rest, rfl, inBody⟩
  · exact ⟨.start, rfl⟩
  · have opened : Reads ⟨.comment .start, depth⟩ [CodePoint.ofChar ' '] []
        ⟨.comment .inside, depth⟩ := rfl
    have begun : CommentPart.inside ≠ .start ∧ CommentPart.inside ≠ .startDash := by decide
    rcases Reads.inComment begun (unclosed <| inBody.subset ·) with ⟨part, -, goesOn⟩
    exact ⟨part, congrArg (·.2.mode) (opened.andThen goesOn)⟩

/-- The value of an attribute with a name ends with its own quotation mark, and not in the name. -/
theorem ends_nameValue {tag : MarkupTag} (name : Text)
    (fresh : tag.attributes.any (·.name = Text.ofString nameAttribute) = false) :
    Ends (Mode.IsNameValue tag) ⟨.tag tag (.quoted '"' nameAttribute []), depth⟩
      (escape name ++ "\"")
      ⟨.tag { tag with attributes := tag.attributes ++ [⟨nameAttribute, name⟩] } .space,
        depth⟩ := by
  have leaves (tag' : MarkupTag) : ¬Mode.IsNameValue tag (.tag tag' .space) := by
    rintro ⟨value, isQuoted⟩
    cases (Mode.tag.inj isQuoted).2
  refine .of_mark ?_ (.nameValue name fresh) (leaves _)
  intro front isPrefix
  have goesOn : Reads ⟨.tag tag (.quoted '"' nameAttribute []), depth⟩ front []
      ⟨.tag tag (.quoted '"' nameAttribute front), depth⟩ :=
    Reads.quoted fun mem => (isInert_escape name).1 (isPrefix.subset mem)
  exact ⟨front, congrArg (·.2.mode) goesOn⟩

end Ends

theorem escape_injective : Function.Injective escape :=
  Function.LeftInverse.injective decode_escape

set_option maxRecDepth 2000 in
/-- The four places of a triplet in which the name stands. -/
theorem renderTriplet_places (compactStyles : Bool) (record : ComponentRecord) :
    let written := escape record.name
    ∃ style, renderTriplet compactStyles record =
      "\n  " ++ ("<!--" ++ (" Component: " ++ written ++ " -->")) ++
      "\n  " ++ ("<style " ++ nameAttribute ++ "=\"" ++ (written ++ "\"")) ++ ">\n    " ++ style ++
      "\n  </style>\n  \n  " ++ ("<template " ++ nameAttribute ++ "=\"" ++ (written ++ "\"")) ++
      ">\n    " ++ record.template ++ "\n  </template>\n  \n  " ++
      ("<script type=\"text/boredom\" " ++ nameAttribute ++ "=\"" ++ (written ++ "\"")) ++
      ">\n    " ++ scriptText record.logicSource ++ "\n  </script>" := by
  refine ⟨if compactStyles then StyleSheet.compact record.style else record.style, ?_⟩
  simp [renderTriplet, element, nameAttribute, scriptType, Text.ofString]

/-- The name of a component in its triplet. It is written in the same way in all four places,
without quotation marks and angle brackets; a reader of the references gets the name back, and
components with different names are written differently. The comment ends with the end that is
written for it, and each attribute at its own quotation mark, with the name as its value. -/
theorem renderTriplet_names (compactStyles : Bool) (record other : ComponentRecord) :
    let written := escape record.name
    (∃ style, renderTriplet compactStyles record =
      "\n  " ++ ("<!--" ++ (" Component: " ++ written ++ " -->")) ++
      "\n  " ++ ("<style " ++ nameAttribute ++ "=\"" ++ (written ++ "\"")) ++ ">\n    " ++ style ++
      "\n  </style>\n  \n  " ++ ("<template " ++ nameAttribute ++ "=\"" ++ (written ++ "\"")) ++
      ">\n    " ++ record.template ++ "\n  </template>\n  \n  " ++
      ("<script type=\"text/boredom\" " ++ nameAttribute ++ "=\"" ++ (written ++ "\"")) ++
      ">\n    " ++ scriptText record.logicSource ++ "\n  </script>") ∧
    (∀ mark ∈ ['"', '\'', '<', '>'], CodePoint.ofChar mark ∉ written) ∧
    decode written = record.name ∧
    (escape other.name = written ↔ other.name = record.name) ∧
    (∀ depth, Reads ⟨.text, depth⟩ "<!--" [] ⟨.comment .start, depth⟩ ∧
      Ends Mode.IsComment ⟨.comment .start, depth⟩ (" Component: " ++ written ++ " -->")
        ⟨.text, depth⟩) ∧
    ∀ start tag, (start, tag) ∈ nameTags → ∀ depth,
      Reads ⟨.text, depth⟩ (start ++ nameAttribute ++ "=\"") []
        ⟨.tag tag (.quoted '"' nameAttribute []), depth⟩ ∧
      Ends (Mode.IsNameValue tag) ⟨.tag tag (.quoted '"' nameAttribute []), depth⟩
        (written ++ "\"")
        ⟨.tag { tag with attributes := tag.attributes ++ [nameOf record] } .space, depth⟩ := by
  intro written
  refine ⟨renderTriplet_places compactStyles record,
    fun mark isMark => not_mem_escape isMark record.name, decode_escape record.name,
    escape_injective.eq_iff, fun depth => ⟨rfl, ends_marker record.name⟩, ?_⟩
  intro start tag isTag depth
  have fresh : ∀ entry ∈ nameTags,
      entry.2.attributes.any (·.name = Text.ofString nameAttribute) = false := by
    decide
  refine ⟨?_, ends_nameValue record.name (fresh _ isTag)⟩
  simp only [nameTags, List.mem_cons, Prod.mk.injEq, List.not_mem_nil, or_false] at isTag
  rcases isTag with ⟨rfl, rfl⟩ | ⟨rfl, rfl⟩ | ⟨rfl, rfl⟩
  all_goals rfl

end ComponentInliner.Html
