import ComponentInliner.Html.Triplet
import ComponentInliner.Proofs.Html.Reader
import ComponentInliner.Proofs.Html.Triplets

/-!
# Reading triplets

What a reader finds in a triplet. The name of the component always comes back, since it is written
with character references. Style and logic are written as they are. They come back exactly if they
do not hold the beginning of the end tag of their element: otherwise the reader takes what stands
before for the whole, and the rest for markup.
-/

namespace ComponentInliner.Html

/-- A text on a line of its own in an element. -/
def padded (content : Text) : Text :=
  "\n    " ++ content ++ "\n  "

/-- A template leaves a reader where it was, inside the template element, and brings no element into
the document. -/
def SelfContained (template : Text) : Prop :=
  Reads ⟨.text, 1⟩ template [] ⟨.text, 1⟩

instance (template : Text) : Decidable (SelfContained template) :=
  inferInstanceAs (Decidable (Reads ..))

def nameOf (record : ComponentRecord) : Attribute :=
  ⟨nameAttribute, record.name⟩

def typeOfScript : Attribute :=
  ⟨"type", scriptType⟩

/-- The beginning of a document, before all markup. -/
def Reader.begin : Reader :=
  ⟨.text, 0⟩

section Closing

variable {name content : Text}

/-- The end tag of an element begins without blanks and without capital letters. -/
structure PlainClosing (name : Text) : Prop where
  isLower : lowered (closing name) = closing name
  noBlank : (closing name).all (!isMarkupBlank ·)

theorem plainClosing_style : PlainClosing "style" :=
  ⟨by decide, by decide⟩

theorem plainClosing_script : PlainClosing "script" :=
  ⟨by decide, by decide⟩

theorem PlainClosing.not_mem (plain : PlainClosing name) {blank : CodePoint}
    (isBlank : isMarkupBlank blank) : blank ∉ closing name := by
  intro mem
  have notBlank := List.all_eq_true.mp plain.noBlank blank mem
  simp [isBlank] at notBlank

theorem closes_between_blanks {left right : Text} (plain : PlainClosing name)
    (blank : (lowered left ++ lowered right).all isMarkupBlank) :
    Closes name (left ++ content ++ right) ↔ Closes name content :=
  closes_between fun point mem => plain.not_mem (List.all_eq_true.mp blank point mem)

theorem closes_padded (plain : PlainClosing name) :
    Closes name (padded content) ↔ Closes name content :=
  closes_between_blanks plain (by decide)

theorem closes_scriptText : Closes "script" (scriptText content) ↔ Closes "script" content := by
  have split : lowered (scriptText content) =
      lowered "export default" ++ CodePoint.ofChar ' ' :: lowered (content ++ ";") := by
    simp only [scriptText, lowered, List.map_append]
    rfl
  have unended : Closes "script" ([] ++ content ++ Text.ofString ";") ↔ Closes "script" content :=
    closes_between fun point mem => by
      rw [List.mem_singleton.mp mem]
      decide
  rw [← unended, List.nil_append, Closes, Closes, split]
  constructor
  · intro occurs
    rcases infix_around (by decide) occurs with inKeywords | inSource
    · exact absurd inKeywords (by decide)
    · exact inSource
  · intro occurs
    exact occurs.trans ((List.suffix_cons ..).trans (List.suffix_append ..)).isInfix

end Closing

namespace Reads

variable {depth : Nat} {tag : MarkupTag} {content : Text}

/-- The value that an escaped name is read as is the name. -/
theorem nameValue (name : Text)
    (fresh : tag.attributes.any (·.name = Text.ofString nameAttribute) = false) :
    Reads ⟨.tag tag (.quoted '"' nameAttribute []), depth⟩ (escape name ++ "\"") []
      ⟨.tag { tag with attributes := tag.attributes ++ [⟨nameAttribute, name⟩] } .space,
        depth⟩ := by
  have value : Reads ⟨.tag tag (.quoted '"' nameAttribute []), depth⟩ (escape name) []
      ⟨.tag tag (.quoted '"' nameAttribute (escape name)), depth⟩ :=
    quoted (isInert_escape name).1
  have closed : Reads ⟨.tag tag (.quoted '"' nameAttribute (escape name)), depth⟩ "\"" []
      ⟨.tag (tag.add nameAttribute (escape name)) .space, depth⟩ := rfl
  rw [MarkupTag.add, fresh, decode_escape] at closed
  exact value.andThen closed

/-- The attribute with the name of a component ends its start tag. -/
theorem named (name : Text)
    (fresh : tag.attributes.any (·.name = Text.ofString nameAttribute) = false) :
    Reads ⟨.tag tag .space, depth⟩ (nameAttribute ++ "=\"" ++ escape name ++ "\">") []
      (.afterTag { tag with attributes := tag.attributes ++ [⟨nameAttribute, name⟩] } depth) := by
  have opened : Reads ⟨.tag tag .space, depth⟩ (nameAttribute ++ "=\"") []
      ⟨.tag tag (.quoted '"' nameAttribute []), depth⟩ := rfl
  have closed (tag : MarkupTag) : Reads ⟨.tag tag .space, depth⟩ ">" [] (.afterTag tag depth) := rfl
  have whole := (opened.andThen (nameValue name fresh)).andThen (closed _)
  simpa [Text.ofString] using whole

/-- The marker comment goes on up to the end that is written for it. -/
theorem markerBody (name : Text) :
    Reads ⟨.comment .start, depth⟩ (" Component: " ++ escape name ++ " -->") []
      ⟨.text, depth⟩ := by
  have opened : Reads ⟨.comment .start, depth⟩ " Component: " [] ⟨.comment .inside, depth⟩ := rfl
  have begun : CommentPart.inside ≠ .start ∧ CommentPart.inside ≠ .startDash := ⟨nofun, nofun⟩
  rcases inComment begun (isInert_escape name).2 with ⟨part, begun, inside⟩
  have closed : Reads ⟨.comment part, depth⟩ " -->" [] ⟨.text, depth⟩ := by
    cases part with
    | start => exact absurd rfl begun.1
    | startDash => exact absurd rfl begun.2
    | inside | dash | twoDashes | bang => rfl
  exact (opened.andThen inside).andThen closed

theorem comment (name : Text) :
    Reads ⟨.text, depth⟩ ("<!-- Component: " ++ escape name ++ " -->") [] ⟨.text, depth⟩ := by
  have opened : Reads ⟨.text, depth⟩ "<!--" [] ⟨.comment .start, depth⟩ := rfl
  exact opened.andThen (markerBody name)

/-- Content without the end tag of its element is read as it is. -/
theorem raw_padded (tag : MarkupTag) (depth : Nat) (plain : PlainClosing tag.name)
    (open' : ¬Closes tag.name content) :
    Reads ⟨.raw tag [], depth⟩ (padded content ++ closing tag.name ++ ">")
      (listed depth ⟨tag.name, tag.attributes, padded content⟩)
      (.afterTag ⟨true, tag.name, []⟩ depth) := by
  have inside : Reads ⟨.raw tag [], depth⟩ (padded content) []
      ⟨.raw tag (padded content), depth⟩ :=
    raw_content (by rwa [List.nil_append, closes_padded plain])
  have ended : Reads ⟨.raw tag (padded content), depth⟩ (closing tag.name)
      (listed depth ⟨tag.name, tag.attributes, padded content⟩)
      ⟨.tag ⟨true, tag.name, []⟩ .space, depth⟩ := by
    have line : padded content = "\n    " ++ content ++ "\n " ++ " " := by
      simp [padded, Text.ofString]
    have stillOpen : ¬Closes tag.name ("\n    " ++ content ++ "\n ") := by
      rwa [closes_between_blanks plain (by decide)]
    rw [line]
    exact raw_end plain.isLower (plain.not_mem rfl) stillOpen
  have closed : Reads ⟨.tag ⟨true, tag.name, []⟩ .space, depth⟩ ">" []
      (.afterTag ⟨true, tag.name, []⟩ depth) := rfl
  have whole := (inside.andThen ended).append closed
  rwa [List.append_nil] at whole

/-- Content with the end tag of its element is not read as it is. -/
theorem raw_broken (tag : MarkupTag) (depth : Nat) (plain : PlainClosing tag.name)
    (following : Text) (closes : Closes tag.name content) :
    ∃ shorter more last, shorter ≠ padded content ∧
      Reads ⟨.raw tag [], depth⟩ (padded content ++ following)
        (listed depth ⟨tag.name, tag.attributes, shorter⟩ ++ more) last := by
  have nothing : ¬Closes tag.name [] := by
    intro occurs
    cases List.infix_nil.mp occurs
  have early : Closes tag.name ([] ++ padded content) := by
    rwa [List.nil_append, closes_padded plain]
  rcases raw_early nothing early with ⟨shorter, more, last, isShorter, reads⟩
  rcases later : last.read following with ⟨others, final⟩
  refine ⟨shorter, more ++ others, final, ?_, ?_⟩
  · rintro rfl
    exact absurd isShorter (lt_irrefl _)
  · rw [← List.append_assoc]
    exact reads.append later

end Reads

def styleTag (record : ComponentRecord) : MarkupTag :=
  ⟨false, "style", [nameOf record]⟩

def scriptTag (record : ComponentRecord) : MarkupTag :=
  ⟨false, "script", [typeOfScript, nameOf record]⟩

/-- A triplet up to the style. -/
def beforeStyle (record : ComponentRecord) : Text :=
  "\n  " ++ ("<!-- Component: " ++ escape record.name ++ " -->") ++ "\n  <style " ++
    (nameAttribute ++ "=\"" ++ escape record.name ++ "\">")

/-- A triplet between the style and the script. -/
def betweenStyleAndScript (record : ComponentRecord) : Text :=
  "\n  \n  <template " ++ (nameAttribute ++ "=\"" ++ escape record.name ++ "\">") ++ "\n    " ++
    record.template ++ "\n  </template>\n  \n  <script type=\"text/boredom\" " ++
    (nameAttribute ++ "=\"" ++ escape record.name ++ "\">")

set_option maxRecDepth 2000 in
theorem renderTriplet_parts (record : ComponentRecord) :
    renderTriplet false record = beforeStyle record ++
      (padded record.style ++ closing "style" ++ ">") ++ betweenStyleAndScript record ++
      (padded (scriptText record.logicSource) ++ closing "script" ++ ">") := by
  simp [renderTriplet, element, beforeStyle, betweenStyleAndScript, padded, closing, nameAttribute,
    scriptType, Text.ofString]

theorem reads_beforeStyle (record : ComponentRecord) :
    Reads .begin (beforeStyle record) [] ⟨.raw (styleTag record) [], 0⟩ := by
  have opened : Reads ⟨.text, 0⟩ "\n  <style " [] ⟨.tag ⟨false, "style", []⟩ .space, 0⟩ := by
    decide
  have blank : Reads .begin "\n  " [] ⟨.text, 0⟩ := by decide
  exact ((blank.andThen (.comment record.name)).andThen opened).andThen (.named record.name rfl)

theorem reads_betweenStyleAndScript {record : ComponentRecord}
    (selfContained : SelfContained record.template) :
    Reads ⟨.text, 0⟩ (betweenStyleAndScript record) [] ⟨.raw (scriptTag record) [], 0⟩ := by
  have template : Reads ⟨.text, 0⟩ "\n  \n  <template " []
      ⟨.tag ⟨false, "template", []⟩ .space, 0⟩ := by
    decide
  have blank : Reads ⟨.text, 1⟩ "\n    " [] ⟨.text, 1⟩ := by decide
  have script : Reads ⟨.text, 1⟩
      "\n  </template>\n  \n  <script type=\"text/boredom\" " []
      ⟨.tag ⟨false, "script", [typeOfScript]⟩ .space, 0⟩ := by
    decide
  have inTemplate := (template.andThen (.named record.name rfl)).andThen blank
  exact ((inTemplate.andThen selfContained).andThen script).andThen (.named record.name rfl)

/-- What has been listed stays at the front. -/
theorem Reads.begins {reader middle : Reader} {first : Text} {found : List RawElement}
    (reads : Reads reader first found middle) (second : Text) :
    ∃ more, (reader.read (first ++ second)).1 = found ++ more := by
  rcases later : middle.read second with ⟨more, last⟩
  exact ⟨more, congrArg Prod.fst (reads.append later)⟩

theorem reads_style {record : ComponentRecord} (open' : ¬Closes "style" record.style) :
    Reads .begin (beforeStyle record ++ (padded record.style ++ closing "style" ++ ">"))
      [⟨"style", [nameOf record], padded record.style⟩] ⟨.text, 0⟩ :=
  (reads_beforeStyle record).andThen
    (.raw_padded (styleTag record) 0 plainClosing_style open')

theorem reads_script {record : ComponentRecord} (open' : ¬Closes "script" record.logicSource) :
    Reads ⟨.raw (scriptTag record) [], 0⟩
      (padded (scriptText record.logicSource) ++ closing "script" ++ ">")
      [⟨"script", [typeOfScript, nameOf record], padded (scriptText record.logicSource)⟩]
      ⟨.text, 0⟩ :=
  .raw_padded (scriptTag record) 0 plainClosing_script (mt closes_scriptText.mp open')

/-- What a reader finds in a triplet. The first element is the style with the name of the component,
and its content is the style exactly if the style does not hold its own end tag. If so and if the
template is self-contained, the second element is the script with the name of the component, its
content is the logic exactly if the logic does not hold the end tag of a script, and then there is
nothing else. -/
theorem reads_triplet (record : ComponentRecord) :
    let found := (Reader.begin.read (renderTriplet false record)).1
    (∃ content more, found = ⟨"style", [nameOf record], content⟩ :: more ∧
      (content = padded record.style ↔ ¬Closes "style" record.style)) ∧
    (¬Closes "style" record.style → SelfContained record.template →
      ∃ content more, found = ⟨"style", [nameOf record], padded record.style⟩ ::
          ⟨"script", [typeOfScript, nameOf record], content⟩ :: more ∧
        (content = padded (scriptText record.logicSource) ↔
          ¬Closes "script" record.logicSource) ∧
        (¬Closes "script" record.logicSource → more = [])) := by
  intro found
  have isFound : found = (Reader.begin.read (beforeStyle record ++
      (padded record.style ++ closing "style" ++ ">") ++ betweenStyleAndScript record ++
      (padded (scriptText record.logicSource) ++ closing "script" ++ ">"))).1 := by
    rw [← renderTriplet_parts]
  constructor
  · by_cases closes : Closes "style" record.style
    · rcases Reads.raw_broken (styleTag record) 0 plainClosing_style
        (closing "style" ++ ">" ++ betweenStyleAndScript record ++
          (padded (scriptText record.logicSource) ++ closing "script" ++ ">")) closes with
        ⟨shorter, more, last, different, reads⟩
      refine ⟨shorter, more, ?_, iff_of_false different (not_not_intro closes)⟩
      have whole := (reads_beforeStyle record).andThen reads
      rw [isFound]
      simp only [List.append_assoc] at whole ⊢
      exact congrArg Prod.fst whole
    · rcases (reads_style closes).begins (betweenStyleAndScript record ++
        (padded (scriptText record.logicSource) ++ closing "script" ++ ">")) with ⟨more, listed⟩
      refine ⟨padded record.style, more, ?_, iff_of_true rfl closes⟩
      rw [isFound]
      simp only [List.append_assoc] at listed ⊢
      exact listed
  · intro openStyle selfContained
    have upToScript := (reads_style openStyle).append (reads_betweenStyleAndScript selfContained)
    by_cases closes : Closes "script" record.logicSource
    · rcases Reads.raw_broken (scriptTag record) 0 plainClosing_script
        (closing "script" ++ ">") (closes_scriptText.mpr closes) with
        ⟨shorter, more, last, different, reads⟩
      refine ⟨shorter, more, ?_, iff_of_false different (not_not_intro closes),
        fun open' => absurd closes open'⟩
      have whole := upToScript.append reads
      rw [isFound]
      simp only [List.append_assoc] at whole ⊢
      exact congrArg Prod.fst whole
    · refine ⟨padded (scriptText record.logicSource), [], ?_, iff_of_true rfl closes, fun _ => rfl⟩
      have whole := upToScript.append (reads_script closes)
      rw [isFound]
      exact congrArg Prod.fst whole

/-- A component that comes back as a whole: its name needs references, and its template has an
element with content of its own. -/
theorem reads_triplet_whole :
    let record : ComponentRecord := ⟨⟨"<x-a> & \"b\"", none, [], [], []⟩, "p > a::after { }",
      "<p title='</template>'>a < b</p><!-- c --><style>i { }</style>", "() => 1 < 2 && '</style>'"⟩
    ¬Closes "style" record.style ∧ SelfContained record.template ∧
      ¬Closes "script" record.logicSource ∧
      ∃ content more, (Reader.begin.read (renderTriplet false record)).1 =
          ⟨"style", [nameOf record], padded record.style⟩ ::
            ⟨"script", [typeOfScript, nameOf record], content⟩ :: more ∧
        content = padded (scriptText record.logicSource) ∧ more = [] := by
  intro record
  have openStyle : ¬Closes "style" record.style := by decide
  have selfContained : SelfContained record.template := by decide
  have openScript : ¬Closes "script" record.logicSource := by decide
  rcases (reads_triplet record).2 openStyle selfContained with ⟨content, more, found, whole, rest⟩
  exact ⟨openStyle, selfContained, openScript, content, more, found, whole.mpr openScript,
    rest openScript⟩

/-- Components that do not come back: the end tag of a script in the logic, and that of a style in
the style. -/
theorem reads_triplet_broken :
    let scripted : ComponentRecord := ⟨⟨"x-a", none, [], [], []⟩, "", "", "() => '</script>'"⟩
    let styled : ComponentRecord := ⟨⟨"x-a", none, [], [], []⟩,
      "a::after \x7b content: '</STYLE>' \x7d", "", "() => 1"⟩
    let found (record : ComponentRecord) := (Reader.begin.read (renderTriplet false record)).1
    found scripted = [⟨"style", [nameOf scripted], padded ""⟩,
        ⟨"script", [typeOfScript, nameOf scripted], "\n    export default () => '"⟩] ∧
      padded (scriptText scripted.logicSource) ≠ "\n    export default () => '" ∧
      (found styled).head? = some ⟨"style", [nameOf styled], "\n    a::after \x7b content: '"⟩ ∧
      padded styled.style ≠ "\n    a::after \x7b content: '" := by
  decide +kernel

end ComponentInliner.Html
