import ComponentInliner.Html.Escape
import Mathlib.Data.List.Induction
import Mathlib.Data.List.Infix

/-!
# Reading a document

A reader of HTML as a machine that takes one code point after the other. It follows the tags,
attributes and comments of a document and lists the elements whose content is read as it is written,
such as styles and scripts. Their content ends where their end tag first begins, in upper or lower
case. What stands in a template element does not belong to the document and is not listed.

The reader does not know foreign content (`svg`, `math`), and of the character references it knows
the decimal ones and those of the characters that have a meaning in markup.
-/

namespace ComponentInliner.Html

section References

/-- The character references that have a name. -/
def namedReferences : List (String × Char) :=
  [("amp", '&'), ("lt", '<'), ("gt", '>'), ("quot", '"'), ("apos", '\'')]

/-- What is meant by a reference, given without the signs around it. -/
def referenced? (body : Text) : Option CodePoint :=
  if body.head? = some '#' ∧ body.tail ≠ [] ∧ body.tail.all CodePoint.isAsciiDigit then
    CodePoint.ofNat? (body.tail.foldl (fun number digit => 10 * number + (digit.val - 48)) 0)
  else
    (namedReferences.find? fun entry => body = Text.ofString entry.1).map fun entry => entry.2

/-- Puts characters for their references. The beginning of a reference may have been read before. -/
def decodeFrom : Option Text → Text → Text
  | none, [] => []
  | some body, [] => CodePoint.ofChar '&' :: body
  | none, point :: rest =>
      if point = '&' then decodeFrom (some []) rest else point :: decodeFrom none rest
  | some body, point :: rest =>
      if point = ';' then
        match referenced? body with
        | some meant => meant :: decodeFrom none rest
        | none => "&" ++ body ++ ";" ++ decodeFrom none rest
      else if point = '&' then
        "&" ++ body ++ decodeFrom (some []) rest
      else
        decodeFrom (some (body ++ [point])) rest

def decode (text : Text) : Text :=
  decodeFrom none text

theorem decodeFrom_escapePoint (point : CodePoint) (rest : Text) :
    decodeFrom none (escapePoint point ++ rest) = point :: decodeFrom none rest := by
  cases found : references.find? fun entry => point = entry.1 with
  | some entry =>
      have isPoint : point = entry.1 := by simpa using List.find?_some found
      have decodes : ∀ entry ∈ references, ∀ rest,
          decodeFrom none (Text.ofString entry.2 ++ rest) =
            CodePoint.ofChar entry.1 :: decodeFrom none rest := by
        simp only [references, List.forall_mem_cons]
        exact ⟨fun _ => rfl, fun _ => rfl, fun _ => rfl, fun _ => rfl, fun _ => rfl, nofun⟩
      rw [escapePoint, found, isPoint]
      exact decodes entry (List.mem_of_find?_eq_some found) rest
  | none =>
      have plain : point ≠ '&' := by
        rintro rfl
        exact absurd found (by decide)
      rw [escapePoint, found]
      exact if_neg plain

/-- Escaping is undone by reading. -/
theorem decode_escape (text : Text) : decode (escape text) = text := by
  unfold decode escape
  induction text with
  | nil => rfl
  | cons point rest ih => rw [List.flatMap_cons, decodeFrom_escapePoint, ih]

end References

structure Attribute where
  name : Text
  value : Text
  deriving DecidableEq

/-- A tag as far as it has been read. -/
structure MarkupTag where
  isEnd : Bool
  name : Text
  attributes : List Attribute
  deriving DecidableEq

/-- What part of a tag comes next. -/
inductive TagPart where
  | name
  | space
  | attributeName (name : Text)
  | afterAttribute (name : Text)
  | beforeValue (name : Text)
  | quoted (quote : CodePoint) (name value : Text)
  | unquoted (name value : Text)
  deriving DecidableEq

/-- How far the end of a comment has been read. -/
inductive CommentPart where
  | start
  | startDash
  | inside
  | dash
  | twoDashes
  | bang
  deriving DecidableEq

inductive Mode where
  | text
  | tagOpen
  | endTagOpen
  | markup (afterDash : Bool)
  | comment (part : CommentPart)
  | bogus
  | tag (tag : MarkupTag) (part : TagPart)
  | raw (tag : MarkupTag) (content : Text)
  | plain
  deriving DecidableEq

/-- A reader, inside a number of template elements. -/
structure Reader where
  mode : Mode
  depth : Nat
  deriving DecidableEq

/-- An element whose content is read as it is written. -/
structure RawElement where
  name : Text
  attributes : List Attribute
  content : Text
  deriving DecidableEq

def isMarkupBlank (point : CodePoint) : Bool :=
  point = '\t' || point = '\n' || point.val = 12 || point = '\r' || point = ' '

/-- Of several attributes with one name the first counts. -/
def MarkupTag.add (tag : MarkupTag) (name value : Text) : MarkupTag :=
  if tag.attributes.any (·.name = name) then tag
  else { tag with attributes := tag.attributes ++ [⟨name, decode value⟩] }

/-- Reads a tag on; there is no next part where it ends. -/
def MarkupTag.step (tag : MarkupTag) (part : TagPart) (point : CodePoint) :
    MarkupTag × Option TagPart :=
  match part with
  | .name =>
      if point = '>' then (tag, none)
      else if isMarkupBlank point || point = '/' then (tag, some .space)
      else ({ tag with name := tag.name ++ [point.asciiLower] }, some .name)
  | .space =>
      if point = '>' then (tag, none)
      else if isMarkupBlank point || point = '/' then (tag, some .space)
      else (tag, some (.attributeName [point.asciiLower]))
  | .attributeName name =>
      if point = '>' then (tag.add name [], none)
      else if isMarkupBlank point then (tag, some (.afterAttribute name))
      else if point = '/' then (tag.add name [], some .space)
      else if point = '=' then (tag, some (.beforeValue name))
      else (tag, some (.attributeName (name ++ [point.asciiLower])))
  | .afterAttribute name =>
      if point = '>' then (tag.add name [], none)
      else if isMarkupBlank point then (tag, some (.afterAttribute name))
      else if point = '/' then (tag.add name [], some .space)
      else if point = '=' then (tag, some (.beforeValue name))
      else (tag.add name [], some (.attributeName [point.asciiLower]))
  | .beforeValue name =>
      if point = '>' then (tag.add name [], none)
      else if isMarkupBlank point then (tag, some (.beforeValue name))
      else if point = '"' || point = '\'' then (tag, some (.quoted point name []))
      else (tag, some (.unquoted name [point]))
  | .quoted quote name value =>
      if point = quote then (tag.add name value, some .space)
      else (tag, some (.quoted quote name (value ++ [point])))
  | .unquoted name value =>
      if point = '>' then (tag.add name value, none)
      else if isMarkupBlank point then (tag.add name value, some .space)
      else (tag, some (.unquoted name (value ++ [point])))

/-- Reads a comment on; there is no next part where it ends. -/
def CommentPart.step (part : CommentPart) (point : CodePoint) : Option CommentPart :=
  match part with
  | .start => if point = '>' then none else if point = '-' then some .startDash else some .inside
  | .startDash =>
      if point = '>' then none else if point = '-' then some .twoDashes else some .inside
  | .inside => if point = '-' then some .dash else some .inside
  | .dash => if point = '-' then some .twoDashes else some .inside
  | .twoDashes =>
      if point = '>' then none
      else if point = '-' then some .twoDashes
      else if point = '!' then some .bang
      else some .inside
  | .bang => if point = '>' then none else if point = '-' then some .dash else some .inside

/-- The elements whose content holds no tags. -/
def rawElements : List String :=
  ["style", "script", "textarea", "title", "xmp", "iframe", "noembed", "noframes", "noscript"]

/-- What a reader does after a tag. -/
def Reader.afterTag (tag : MarkupTag) (depth : Nat) : Reader :=
  if tag.name = "template" then ⟨.text, if tag.isEnd then depth - 1 else depth + 1⟩
  else if tag.isEnd then ⟨.text, depth⟩
  else if tag.name = "plaintext" then ⟨.plain, depth⟩
  else if rawElements.any fun name => tag.name = Text.ofString name then ⟨.raw tag [], depth⟩
  else ⟨.text, depth⟩

/-- The beginning of the end tag of an element. -/
def closing (name : Text) : Text :=
  "</" ++ name

def lowered (text : Text) : Text :=
  text.map CodePoint.asciiLower

/-- The content that stands before the end tag that a text ends with. -/
def beforeClosing (name written : Text) : Text :=
  written.take (written.length - (closing name).length)

/-- An element is listed unless it stands in a template element. -/
def listed (depth : Nat) (element : RawElement) : List RawElement :=
  if depth = 0 then [element] else []

/-- Reads one code point, and lists the element that ends there. -/
def Reader.step (reader : Reader) (point : CodePoint) : List RawElement × Reader :=
  match reader.mode with
  | .text => if point = '<' then ([], ⟨.tagOpen, reader.depth⟩) else ([], reader)
  | .tagOpen =>
      if point = '!' then ([], ⟨.markup false, reader.depth⟩)
      else if point = '/' then ([], ⟨.endTagOpen, reader.depth⟩)
      else if point = '?' then ([], ⟨.bogus, reader.depth⟩)
      else if point = '<' then ([], reader)
      else if point.isAsciiLetter then
        ([], ⟨.tag ⟨false, [point.asciiLower], []⟩ .name, reader.depth⟩)
      else ([], ⟨.text, reader.depth⟩)
  | .endTagOpen =>
      if point = '>' then ([], ⟨.text, reader.depth⟩)
      else if point.isAsciiLetter then
        ([], ⟨.tag ⟨true, [point.asciiLower], []⟩ .name, reader.depth⟩)
      else ([], ⟨.bogus, reader.depth⟩)
  | .markup afterDash =>
      if point = '-' then
        ([], ⟨if afterDash then .comment .start else .markup true, reader.depth⟩)
      else if point = '>' then ([], ⟨.text, reader.depth⟩)
      else ([], ⟨.bogus, reader.depth⟩)
  | .comment part =>
      match part.step point with
      | some next => ([], ⟨.comment next, reader.depth⟩)
      | none => ([], ⟨.text, reader.depth⟩)
  | .bogus => if point = '>' then ([], ⟨.text, reader.depth⟩) else ([], reader)
  | .tag tag part =>
      match tag.step part point with
      | (tag, some next) => ([], ⟨.tag tag next, reader.depth⟩)
      | (tag, none) => ([], .afterTag tag reader.depth)
  | .raw tag content =>
      let written := content ++ [point]
      if closing tag.name <:+ lowered written then
        (listed reader.depth ⟨tag.name, tag.attributes, beforeClosing tag.name written⟩,
          ⟨.tag ⟨true, tag.name, []⟩ .space, reader.depth⟩)
      else ([], ⟨.raw tag written, reader.depth⟩)
  | .plain => ([], reader)

/-- Reads a text and lists the elements that end in it. -/
def Reader.read (reader : Reader) : Text → List RawElement × Reader
  | [] => ([], reader)
  | point :: rest =>
      let (found, next) := reader.step point
      let (more, last) := next.read rest
      (found ++ more, last)

/-- Reading a text lists some elements and ends in a state. -/
def Reads (reader : Reader) (text : Text) (found : List RawElement) (last : Reader) : Prop :=
  reader.read text = (found, last)

instance (reader : Reader) (text : Text) (found : List RawElement) (last : Reader) :
    Decidable (Reads reader text found last) :=
  inferInstanceAs (Decidable (_ = _))

/-- The end tag of an element begins somewhere in a text. -/
def Closes (name text : Text) : Prop :=
  closing name <:+: lowered text

instance (name text : Text) : Decidable (Closes name text) :=
  inferInstanceAs (Decidable (_ <:+: _))

/-- What holds no blank occurs around a blank only before or after it. -/
theorem infix_around {pattern before after : Text} {blank : CodePoint} (absent : blank ∉ pattern)
    (occurs : pattern <:+: before ++ blank :: after) :
    pattern <:+: before ∨ pattern <:+: after := by
  rcases occurs with ⟨left, right, split⟩
  rcases List.append_eq_append_iff.mp split with ⟨between, whole, rest⟩ | ⟨between, whole, rest⟩
  · exact .inl ⟨left, between, whole.symm⟩
  · rcases List.cons_eq_append_iff.mp rest with ⟨rfl, -⟩ | ⟨later, rfl, rfl⟩
    · exact .inl ⟨left, [], by simpa using whole⟩
    · rcases List.append_eq_append_iff.mp whole with ⟨inner, -, isPattern⟩ | ⟨inner, -, isLater⟩
      · exact absurd (by simp [isPattern]) absent
      · rcases List.cons_eq_append_iff.mp isLater with ⟨-, isPattern⟩ | ⟨skipped, -, rfl⟩
        · exact absurd (by simp [isPattern]) absent
        · exact .inr ⟨skipped, right, by simp⟩

/-- What holds none of the points around a text occurs there only in the text. -/
theorem infix_between {pattern left text right : Text} (nonempty : pattern ≠ [])
    (apart : ∀ point ∈ left ++ right, point ∉ pattern)
    (occurs : pattern <:+: left ++ text ++ right) : pattern <:+: text := by
  induction left with
  | nil =>
      induction right using List.reverseRecOn with
      | nil => simpa using occurs
      | append_singleton right blank ih =>
          rw [List.nil_append, ← List.append_assoc] at occurs
          rcases infix_around (apart blank (by simp)) occurs with inside | inNothing
          · exact ih (fun point mem => apart point (by simp_all)) inside
          · exact absurd (List.infix_nil.mp inNothing) nonempty
  | cons blank left ih =>
      rw [List.cons_append, List.cons_append, ← List.nil_append (blank :: _)] at occurs
      rcases infix_around (apart blank (by simp)) occurs with inNothing | inside
      · exact absurd (List.infix_nil.mp inNothing) nonempty
      · exact ih (fun point mem => apart point (by simp_all)) inside

theorem closes_between {name left text right : Text}
    (apart : ∀ point ∈ lowered left ++ lowered right, point ∉ closing name) :
    Closes name (left ++ text ++ right) ↔ Closes name text := by
  have split : lowered (left ++ text ++ right) = lowered left ++ lowered text ++ lowered right := by
    simp [lowered]
  rw [Closes, Closes, split]
  constructor
  · intro occurs
    exact infix_between (by simp [closing, Text.ofString]) apart occurs
  · intro occurs
    exact List.infix_append_of_infix_left (List.infix_append_of_infix_right occurs)

namespace Reads

variable {reader middle last : Reader} {first second : Text} {found more : List RawElement}
  {depth : Nat} {tag : MarkupTag} {content : Text}

theorem append (reads : Reads reader first found middle) (goesOn : Reads middle second more last) :
    Reads reader (first ++ second) (found ++ more) last := by
  induction first generalizing reader found with
  | nil =>
      cases reads
      exact goesOn
  | cons point rest ih =>
      rcases step : reader.step point with ⟨here, next⟩
      rcases later : next.read rest with ⟨there, end'⟩
      have whole : reader.read (point :: rest) = (here ++ there, end') := by
        rw [Reader.read, step]
        dsimp only
        rw [later]
      cases whole.symm.trans reads
      have joined : next.read (rest ++ second) = (there ++ more, last) := ih later
      rw [Reads, List.cons_append, Reader.read, step]
      dsimp only
      rw [joined, List.append_assoc]

/-- A reader goes on after a text that lists nothing. -/
theorem andThen (reads : Reads reader first [] middle) (goesOn : Reads middle second found last) :
    Reads reader (first ++ second) found last :=
  reads.append goesOn

/-- A quoted value goes on up to the next quotation mark. -/
theorem quoted {name value text : Text} (unquoted : CodePoint.ofChar '"' ∉ text) :
    Reads ⟨.tag tag (.quoted '"' name value), depth⟩ text []
      ⟨.tag tag (.quoted '"' name (value ++ text)), depth⟩ := by
  induction text generalizing value with
  | nil =>
      rw [List.append_nil]
      rfl
  | cons point rest ih =>
      rw [List.mem_cons, not_or] at unquoted
      have here : Reads ⟨.tag tag (.quoted '"' name value), depth⟩ [point] []
          ⟨.tag tag (.quoted '"' name (value ++ [point])), depth⟩ := by
        simp [Reads, Reader.read, Reader.step, MarkupTag.step, Ne.symm unquoted.1]
      rw [List.append_cons]
      exact here.andThen (ih unquoted.2)

/-- A comment goes on up to the next closing bracket. -/
theorem inComment {part : CommentPart} (begun : part ≠ .start ∧ part ≠ .startDash) {text : Text}
    (unclosed : CodePoint.ofChar '>' ∉ text) :
    ∃ next, (next ≠ .start ∧ next ≠ .startDash) ∧
      Reads ⟨.comment part, depth⟩ text [] ⟨.comment next, depth⟩ := by
  induction text generalizing part with
  | nil => exact ⟨part, begun, rfl⟩
  | cons point rest ih =>
      rw [List.mem_cons, not_or] at unclosed
      have step : ∃ next, part.step point = some next ∧ next ≠ .start ∧ next ≠ .startDash := by
        have open' : point ≠ '>' := Ne.symm unclosed.1
        cases part with
        | start => exact absurd rfl begun.1
        | startDash => exact absurd rfl begun.2
        | inside | dash | twoDashes | bang =>
            unfold CommentPart.step
            simp only [open', if_false]
            split_ifs
            all_goals exact ⟨_, rfl, nofun, nofun⟩
      rcases step with ⟨between, step, goesOn⟩
      rcases ih goesOn unclosed.2 with ⟨next, still, reads⟩
      refine ⟨next, still, ?_⟩
      have here : Reads ⟨.comment part, depth⟩ [point] [] ⟨.comment between, depth⟩ := by
        simp [Reads, Reader.read, Reader.step, step]
      exact here.andThen reads

theorem raw_open {point : CodePoint} (open' : ¬closing tag.name <:+ lowered (content ++ [point])) :
    Reads ⟨.raw tag content, depth⟩ [point] [] ⟨.raw tag (content ++ [point]), depth⟩ := by
  simp [Reads, Reader.read, Reader.step, open']

theorem raw_closed {point : CodePoint} (ends : closing tag.name <:+ lowered (content ++ [point])) :
    Reads ⟨.raw tag content, depth⟩ [point]
      (listed depth ⟨tag.name, tag.attributes, beforeClosing tag.name (content ++ [point])⟩)
      ⟨.tag ⟨true, tag.name, []⟩ .space, depth⟩ := by
  simp [Reads, Reader.read, Reader.step, ends]

/-- The content of an element goes on as long as its end tag has not begun. -/
theorem raw_content {text : Text} (open' : ¬Closes tag.name (content ++ text)) :
    Reads ⟨.raw tag content, depth⟩ text [] ⟨.raw tag (content ++ text), depth⟩ := by
  induction text generalizing content with
  | nil =>
      rw [List.append_nil]
      rfl
  | cons point rest ih =>
      rw [List.append_cons] at open' ⊢
      have notHere : ¬closing tag.name <:+ lowered (content ++ [point]) := by
        intro ends
        apply open'
        rw [Closes, lowered, List.map_append]
        exact List.infix_append_of_infix_left ends.isInfix
      exact (raw_open notHere).andThen (ih open')

/-- The content of an element ends where its end tag begins. -/
theorem raw_end {before : Text} (isLower : lowered (closing tag.name) = closing tag.name)
    (noBlank : CodePoint.ofChar ' ' ∉ closing tag.name) (open' : ¬Closes tag.name before) :
    Reads ⟨.raw tag (before ++ " "), depth⟩ (closing tag.name)
      (listed depth ⟨tag.name, tag.attributes, before ++ " "⟩)
      ⟨.tag ⟨true, tag.name, []⟩ .space, depth⟩ := by
  rcases List.eq_nil_or_concat (closing tag.name) with isEmpty | ⟨start, final, split⟩
  · cases isEmpty
  · rw [List.concat_eq_append] at split
    have stillOpen : ¬Closes tag.name (before ++ " " ++ start) := by
      intro closes
      have around : lowered (before ++ " " ++ start) =
          lowered before ++ CodePoint.ofChar ' ' :: lowered start := by
        rw [List.append_assoc, lowered, List.map_append]
        rfl
      rw [Closes, around] at closes
      rcases infix_around noBlank closes with inBefore | inStart
      · exact open' inBefore
      · have tooLong := inStart.length_le
        simp only [split, lowered, List.length_map, List.length_append,
          List.length_singleton] at tooLong
        omega
    have ends : closing tag.name <:+ lowered (before ++ " " ++ start ++ [final]) := by
      rw [List.append_assoc, ← split, lowered, List.map_append]
      exact ⟨_, congrArg _ isLower.symm⟩
    have closed : Reads ⟨.raw tag (before ++ " " ++ start), depth⟩ [final] _ _ := raw_closed ends
    have content : beforeClosing tag.name (before ++ " " ++ start ++ [final]) = before ++ " " := by
      rw [List.append_assoc, ← split, beforeClosing, List.length_append, Nat.add_sub_cancel,
        List.take_left]
    rw [content] at closed
    rw [split]
    exact (raw_content stillOpen).andThen closed

/-- If the end tag of an element begins in its content, only the part before is read. -/
theorem raw_early {text : Text} (open' : ¬Closes tag.name content)
    (closes : Closes tag.name (content ++ text)) :
    ∃ shorter more last, shorter.length < (content ++ text).length ∧
      Reads ⟨.raw tag content, depth⟩ text
        (listed depth ⟨tag.name, tag.attributes, shorter⟩ ++ more) last := by
  induction text generalizing content with
  | nil =>
      rw [List.append_nil] at closes
      exact absurd closes open'
  | cons point rest ih =>
      rw [List.append_cons] at closes ⊢
      by_cases ends : closing tag.name <:+ lowered (content ++ [point])
      · rcases later : Reader.read ⟨.tag ⟨true, tag.name, []⟩ .space, depth⟩ rest with ⟨more, last⟩
        refine ⟨beforeClosing tag.name (content ++ [point]), more, last, ?_, ?_⟩
        · have shorter : (closing tag.name).length = tag.name.length + 2 := by
            simp [closing, Text.ofString]
          simp only [beforeClosing, List.length_take, List.length_append, shorter]
          simp
          omega
        · exact (raw_closed ends).append later
      · have stillOpen : ¬Closes tag.name (content ++ [point]) := by
          rw [Closes, lowered, List.map_append, List.map_singleton, List.infix_concat_iff, not_or]
          exact ⟨by simpa [lowered] using ends, open'⟩
        rcases ih stillOpen closes with ⟨shorter, more, last, isShorter, reads⟩
        exact ⟨shorter, more, last, isShorter, (raw_open ends).append reads⟩

end Reads

end ComponentInliner.Html
