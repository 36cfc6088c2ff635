import ComponentInliner.Proofs.Fold.Semantics
import ComponentInliner.Proofs.OrderedMap
import ComponentInliner.Proofs.Text.Scalars

/-!
# What the strings of a value are made of

The strings in a value and the names of its properties come from what is spelled in an expression,
and in what its value needs: the texts of literals and templates, and the names of properties. Three
kinds of strings are new. Numerals and the names of types consist of scalar values, spreads and
indices take single code points from a string, and `+`, templates and the texts of arrays put
strings together.

So a property of texts holds of all strings of a value if it holds of what is spelled and if putting
strings together keeps it (`DerivedWithin.consists`). For most properties the commas between the
elements of an array cannot break it, so that `+` and templates are all that has to be looked at
(`PutsTogether`).
-/

namespace ComponentInliner

open Text

namespace Number

theorem isScalar_layout {digits : Text} (point : Int) (isScalar : digits.IsScalar) :
    (layout digits point).IsScalar := by
  have zerosAreScalar (count : Nat) : (zeros count).IsScalar := by
    intro other mem
    rw [List.eq_of_mem_replicate mem]
    exact CodePoint.isSurrogate_ofChar _
  have front (count : Nat) : IsScalar (digits.take count) :=
    isScalar.subset (List.take_subset _ _)
  have back (count : Nat) : IsScalar (digits.drop count) :=
    isScalar.subset (List.drop_subset _ _)
  simp only [layout]
  split
  · exact isScalar_append.mpr ⟨isScalar, zerosAreScalar _⟩
  split
  · simp only [isScalar_append, front, back, isScalar_ofString, and_self]
  split
  · simp only [isScalar_append, isScalar, zerosAreScalar, isScalar_ofString, and_self]
  have head : IsScalar (if (digits.length : Int) > 1 then
      digits.take 1 ++ "." ++ digits.drop 1 else digits) := by
    split
    · simp only [isScalar_append, front, back, isScalar_ofString, and_self]
    · exact isScalar
  simp only [isScalar_append, head, isScalar_ofString, isScalar_ofNat, and_self]

theorem isScalar_toText (number : Float) : (toText number).IsScalar := by
  have digitsAreScalar (parts : Parts) : (shortestDigits number.abs parts).1.IsScalar := by
    refine (isScalar_ofNat (shortest number.abs parts).digits).subset fun point mem => ?_
    have kept := (List.dropWhile_suffix _).subset (List.mem_reverse.mp mem)
    exact List.mem_reverse.mp kept
  unfold toText
  split
  · split_ifs
    all_goals exact isScalar_ofString _
  · next parts found =>
      split_ifs
      all_goals simp [isScalar_layout, digitsAreScalar]

end Number

/-- A property of strings, and one of the names of properties, that only `+` and templates can take
away: what is written down anew has it, and so have array elements with commas between them and the
single code points of a string. -/
structure Durable (onText onKey : Text → Prop) : Prop where
  scalar : ∀ {text : Text}, text.IsScalar → onText text
  separated : ∀ {left right : Text}, onText left → onText right → onText (left ++ "," ++ right)
  point : ∀ {text : Text} {point : CodePoint}, onText text → point ∈ text → onText [point]
  key : ∀ {text : Text}, onText text → onKey text

namespace Value

/-- All strings in a value have one property, and all names of properties another one. -/
inductive Consists (onText onKey : Text → Prop) : Value → Prop
  | undefined : Consists onText onKey .undefined
  | null : Consists onText onKey .null
  | boolean (flag : Bool) : Consists onText onKey (.boolean flag)
  | number (double : Float) : Consists onText onKey (.number double)
  | string {text : Text} (holds : onText text) : Consists onText onKey (.string text)
  | array {elements : List Value} (origin : Span)
      (consist : ∀ element ∈ elements, Consists onText onKey element) :
      Consists onText onKey (.array origin elements)
  | record {properties : OrderedMap Text Value} (origin : Span)
      (named : ∀ entry ∈ properties.entries, onKey entry.1)
      (consist : ∀ entry ∈ properties.entries, Consists onText onKey entry.2) :
      Consists onText onKey (.record origin properties)

theorem toText_toPrimitive (value : Value) : value.toPrimitive.toText = value.toText := by
  cases value with
  | array | record => rw [toPrimitive, toText]
  | _ => rfl

/-- Addition puts two texts together unless it adds two numbers. -/
theorem add_cases (left right : Value) :
    left.add right = .string (left.toText ++ right.toText) ∨
      ∃ number, left.add right = .number number := by
  rw [← toText_toPrimitive left, ← toText_toPrimitive right]
  unfold add
  generalize left.toPrimitive = leftPrimitive
  generalize right.toPrimitive = rightPrimitive
  split
  · exact .inl (by rw [toText])
  · exact .inl (by rw [toText])
  · exact .inr ⟨_, rfl⟩

section Operations

variable {onText onKey : Text → Prop} {value other : Value}

theorem onText_elementTexts (durable : Durable onText onKey) {elements : List Value}
    (hold : ∀ element ∈ elements, onText element.toText) : onText (elementTexts elements) := by
  induction elements with
  | nil => exact durable.scalar isScalar_nil
  | cons element rest ih =>
      have onElement := hold element (List.mem_cons_self ..)
      have onRest := ih fun later mem => hold later (List.mem_cons_of_mem _ mem)
      have written : onText (if element.isNullish then [] else element.toText) := by
        split
        · exact durable.scalar isScalar_nil
        · exact onElement
      cases rest with
      | nil => exact written
      | cons next rest => exact durable.separated written onRest

/-- What is read from an array or a string is its length or stands at an index. -/
theorem indexedProperty_cases {type : TypeName} {size : Nat}
    {read : Nat → Except ValueFault Value} {name : Text}
    (found : indexedProperty type size read name = .ok value) :
    (∃ double, value = .number double) ∨ ∃ index, read index = .ok value := by
  unfold indexedProperty at found
  split at found
  · cases found
    exact .inl ⟨_, rfl⟩
  · split at found
    · split at found
      · cases found
      · exact .inr ⟨_, found⟩
    · cases found

namespace Consists

theorem toText (durable : Durable onText onKey) (consists : value.Consists onText onKey) :
    onText value.toText := by
  induction consists with
  | string holds => exact holds
  | number double => exact durable.scalar (Number.isScalar_toText double)
  | boolean flag => cases flag <;> exact durable.scalar (isScalar_ofString _)
  | array origin _ ih => exact onText_elementTexts durable ih
  | undefined | null | record => exact durable.scalar (isScalar_ofString _)

theorem toPropertyKey (durable : Durable onText onKey) (consists : value.Consists onText onKey)
    {name : Text} (converted : value.toPropertyKey = .ok name) : onKey name := by
  cases consists with
  | string holds =>
      cases converted
      exact durable.key holds
  | number double =>
      cases converted
      exact durable.key (durable.scalar (Number.isScalar_toText double))
  | undefined | null | boolean | array | record => cases converted

/-- What stands at an index of a string is a code unit and not half of a surrogate pair. -/
theorem of_unitAt (durable : Durable onText onKey) {text : Text} {index : Nat}
    (read : unitAt text index = .ok value) : value.Consists onText onKey := by
  unfold unitAt at read
  split at read
  · dsimp only at read
    split at read
    · cases read
    · next whole =>
        cases read
        have isScalar := isScalar_cons.mpr ⟨Bool.eq_false_iff.mpr whole, isScalar_nil⟩
        exact .string (durable.scalar isScalar)
  · cases read
    exact .undefined

theorem getProperty (durable : Durable onText onKey) (consists : value.Consists onText onKey)
    {key found : Value} (read : value.getProperty key = .ok found) :
    found.Consists onText onKey := by
  unfold Value.getProperty at read
  cases named : key.toPropertyKey with
  | error fault =>
      rw [named] at read
      cases read
  | ok name =>
      rw [named] at read
      simp only [bind, Except.bind] at read
      cases consists with
      | @record properties origin _ consist =>
          dsimp only at read
          split at read
          · next own =>
              cases read
              exact OrderedMap.All.get? consist own
          · split at read
            · cases read
            · cases read
              exact .undefined
      | @array elements origin consist =>
          rcases indexedProperty_cases read with ⟨double, rfl⟩ | ⟨index, read⟩
          · exact .number double
          cases read
          unfold elementAt
          cases atIndex : elements[index]? with
          | none => simpa [List.getD, atIndex] using undefined
          | some element =>
              simpa [List.getD, atIndex] using consist element (List.mem_of_getElem? atIndex)
      | string =>
          rcases indexedProperty_cases read with ⟨double, rfl⟩ | ⟨index, read⟩
          · exact .number double
          · exact of_unitAt durable read
      | undefined | null | boolean | number => cases read

end Consists

theorem consists_unaryResult (durable : Durable onText onKey) {operator : UnaryOperator}
    {operand : Value} (computed : operator.result? operand = some value) :
    value.Consists onText onKey := by
  cases operator with
  | delete => cases computed
  | plus | minus | complement =>
      cases computed
      exact .number _
  | not =>
      cases computed
      exact .boolean _
  | void =>
      cases computed
      exact .undefined
  | typeof =>
      cases computed
      exact .string (durable.scalar (isScalar_ofString _))

theorem consists_binaryResult {operator : BinaryOperator} {left right : Value}
    (onSum : operator = .add → (left.add right).Consists onText onKey)
    (computed : operator.result? left right = some value) : value.Consists onText onKey := by
  cases operator with
  | add =>
      cases computed
      exact onSum rfl
  | member | instanceOf => cases computed
  | looselyEqual | looselyUnequal | strictlyEqual | strictlyUnequal | less | lessOrEqual | greater
  | greaterOrEqual =>
      cases computed
      exact .boolean _
  | subtract | multiply | divide | remainder | power | bitOr | bitXor | bitAnd | shiftLeft
  | shiftRight | shiftRightUnsigned =>
      cases computed
      exact .number _

/-- The code points of a string as strings of their own. -/
theorem consists_of_mem_points (durable : Durable onText onKey) {text : Text} (holds : onText text)
    (mem : value ∈ text.map fun point => Value.string [point]) : value.Consists onText onKey := by
  rcases List.mem_map.mp mem with ⟨point, pointMem, rfl⟩
  exact .string (durable.point holds pointMem)

end Operations

end Value

/-- The names and the values of a map of properties have properties. -/
def OrderedMap.Consists (onText onKey : Text → Prop) (properties : OrderedMap Text Value) : Prop :=
  ∀ entry ∈ properties.entries, onKey entry.1 ∧ entry.2.Consists onText onKey

namespace OrderedMap.Consists

variable {onText onKey : Text → Prop} {properties added : OrderedMap Text Value}

theorem empty : (empty : OrderedMap Text Value).Consists onText onKey :=
  fun _ mem => nomatch mem

theorem insert (consists : properties.Consists onText onKey) {name : Text} {value : Value}
    (named : onKey name) (onValue : value.Consists onText onKey) :
    (properties.insert name value).Consists onText onKey := by
  intro entry mem
  rcases mem_of_mem_setEntry mem with rfl | mem
  · exact ⟨named, onValue⟩
  · exact consists entry mem

theorem insertAll (consists : properties.Consists onText onKey)
    (addedConsists : added.Consists onText onKey) :
    (properties.insertAll added).Consists onText onKey := by
  intro entry mem
  rcases mem_of_mem_insertAll mem with mem | mem
  · exact consists entry mem
  · exact addedConsists entry mem

theorem record (consists : properties.Consists onText onKey) (origin : Span) :
    (Value.record origin properties).Consists onText onKey :=
  .record origin (fun entry mem => (consists entry mem).1) fun entry mem => (consists entry mem).2

/-- The properties of a value that is an object. -/
theorem ofValue {value : Value} (consists : value.Consists onText onKey) :
    (ConstantCall.ownProperties value).Consists onText onKey := by
  cases consists with
  | record origin named consist => exact fun entry mem => ⟨named entry mem, consist entry mem⟩
  | _ => exact .empty

end OrderedMap.Consists

theorem Value.consists_callResult {onText onKey : Text → Prop} (durable : Durable onText onKey)
    {call : ConstantCall} {origin : Span} {arguments : List Value} {value : Value}
    (consist : ∀ argument ∈ arguments, argument.Consists onText onKey)
    (computed : call.result origin arguments = .ok value) : value.Consists onText onKey := by
  have first : (arguments.headD .undefined).Consists onText onKey := by
    cases arguments with
    | nil => exact .undefined
    | cons argument rest => exact consist argument (List.mem_cons_self ..)
  cases call with
  | objectAssign =>
      cases computed
      have merges (sources : List Value)
          (sourcesConsist : ∀ source ∈ sources, source.Consists onText onKey)
          (merged : OrderedMap Text Value) (mergedConsists : merged.Consists onText onKey) :
          (sources.foldl (fun merged source =>
            merged.insertAll (ConstantCall.ownProperties source)) merged).Consists onText
              onKey := by
        induction sources generalizing merged with
        | nil => exact mergedConsists
        | cons source rest ih =>
            apply ih fun later mem => sourcesConsist later (List.mem_cons_of_mem _ mem)
            have onSource := sourcesConsist source (List.mem_cons_self ..)
            exact mergedConsists.insertAll (.ofValue onSource)
      exact (merges _ (fun source mem => consist source (List.mem_of_mem_tail mem))
        _ (.ofValue first)).record origin
  | objectFreeze =>
      cases computed
      exact first
  | arrayFrom =>
      simp only [ConstantCall.result] at computed
      generalize arguments.headD .undefined = given at first computed
      cases first with
      | array _ elementsConsist =>
          cases computed
          exact .array origin elementsConsist
      | string holds =>
          cases computed
          exact .array origin fun _ => consists_of_mem_points durable holds
      | _ => cases computed
  | string =>
      cases computed
      refine .string ?_
      split
      · exact durable.scalar isScalar_nil
      · exact first.toText durable
  | number =>
      cases computed
      exact .number _
  | boolean =>
      cases computed
      exact .boolean _

/-- The texts that are spelled in an expression itself: that of a string, or those of a template. -/
def Node.spelledTexts : Node → List Text
  | .literal _ (.string text) _ => [text]
  | .template _ head parts => templateTexts head parts
  | _ => []

namespace Fold

/-- The name of a property as it is written, unless it is computed. -/
def spelledName? : Property → Option Text
  | .pair _ key false _ => (writtenKey? key).bind fun key => key.toPropertyKey.toOption
  | .shorthand _ name => some name
  | _ => none

end Fold

/-- The names of properties that are spelled in an expression itself. -/
def Node.spelledNames : Node → List Text
  | .object _ properties => properties.filterMap Fold.spelledName?
  | _ => []

namespace Fold

/-- The texts that follow the text before the substitutions of a template: that of each value, and
the one after it. -/
inductive TemplatePieces (has : Node → Value → Prop) : List (Node × Text) → List Text → Prop
  | nil : TemplatePieces has [] []
  | part {following : Text} {node : Node} {value : Value} {rest : List (Node × Text)}
      {pieces : List Text} (own : has node value) (next : TemplatePieces has rest pieces) :
      TemplatePieces has ((node, following) :: rest) (substitutedText value :: following :: pieces)

theorem templateHas_iff {has : Node → Value → Prop} {before after : Text}
    {parts : List (Node × Text)} : TemplateHas has before parts after ↔
      ∃ pieces, TemplatePieces has parts pieces ∧ after = before ++ pieces.flatten := by
  constructor
  · intro derived
    induction derived with
    | nil => exact ⟨[], .nil, (List.append_nil _).symm⟩
    | part own _ ih =>
        rcases ih with ⟨pieces, filled, rfl⟩
        exact ⟨_, .part own filled, by simp⟩
  · rintro ⟨pieces, filled, rfl⟩
    induction filled generalizing before with
    | nil =>
        rw [List.flatten_nil, List.append_nil]
        exact .nil
    | @part following node value rest pieces own _ ih =>
        have next := @ih (before ++ substitutedText value ++ following)
        rw [List.append_assoc, List.append_assoc] at next
        exact .part own (by simpa using next)

theorem TemplatePieces.mono {has more : Node → Value → Prop}
    (weaken : ∀ {node value}, has node value → more node value) {parts : List (Node × Text)}
    {pieces : List Text} (filled : TemplatePieces has parts pieces) :
    TemplatePieces more parts pieces := by
  induction filled with
  | nil => exact .nil
  | part own _ ih => exact .part (weaken own) ih

/-- The value of an expression is a string that is put together from these texts. -/
inductive PutsTogether (bindings : BindingTable) : Node → List Text → Prop
  | sum {span : Span} {left right : Node} {leftValue rightValue : Value} {text : Text}
      (onLeft : Denotes bindings left leftValue) (onRight : Denotes bindings right rightValue)
      (isText : leftValue.add rightValue = .string text) :
      PutsTogether bindings (.binary span .add left right) [leftValue.toText, rightValue.toText]
  | template {span : Span} {head : Text} {parts : List (Node × Text)} {pieces : List Text}
      (filled : TemplatePieces (Denotes bindings) parts pieces) :
      PutsTogether bindings (.template span head parts) (head :: pieces)

/-- What is spelled in an expression, or in what its value needs, has a property, and putting
strings together there keeps it. -/
structure MadeOf (bindings : BindingTable) (onText onKey : Text → Prop) (node : Node) : Prop where
  texts : ∀ needed, Relation.ReflTransGen (Needs bindings) node needed →
    ∀ text ∈ needed.spelledTexts, onText text
  names : ∀ needed, Relation.ReflTransGen (Needs bindings) node needed →
    ∀ name ∈ needed.spelledNames, onKey name
  joins : ∀ needed, Relation.ReflTransGen (Needs bindings) node needed →
    ∀ pieces, PutsTogether bindings needed pieces → (∀ piece ∈ pieces, onText piece) →
      onText pieces.flatten

section Derivations

variable {bindings : BindingTable} {onText onKey : Text → Prop}

theorem MadeOf.child {node child : Node} (made : MadeOf bindings onText onKey node)
    (needs : Needs bindings node child) : MadeOf bindings onText onKey child where
  texts needed reaches := made.texts needed (.head needs reaches)
  names needed reaches := made.names needed (.head needs reaches)
  joins needed reaches := made.joins needed (.head needs reaches)

/-- Wherever an expression has a value by a relation, its strings have a property. -/
def HasMade (onText onKey : Text → Prop) (has : Node → Value → Prop) (node : Node) : Prop :=
  ∀ value, has node value → value.Consists onText onKey

variable {height : Nat}

theorem consists_literalValue {span : Span} {literal : Literal} {raw : Text} {value : Value}
    (written : literalValue? literal = some value)
    (hold : ∀ text ∈ (Node.literal span literal raw).spelledTexts, onText text) :
    value.Consists onText onKey := by
  cases literal with
  | bigInteger | regularExpression => cases written
  | null =>
      cases written
      exact .null
  | boolean flag =>
      cases written
      exact .boolean flag
  | number double =>
      cases written
      exact .number double
  | string text =>
      cases written
      exact .string (hold text (List.mem_singleton_self text))

theorem consists_globalConstant {name : Text} {value : Value}
    (known : globalConstant? name = some value) : value.Consists onText onKey := by
  unfold globalConstant? at known
  split_ifs at known
  all_goals
    cases known
    exact .number _

section Parts

variable (durable : Durable onText onKey)

include durable

theorem consists_elementValues {node : Node} {value : Value} {added : List Value}
    (consists : value.Consists onText onKey) (adds : elementValues? node value = some added) :
    ∀ element ∈ added, element.Consists onText onKey := by
  unfold elementValues? at adds
  split at adds
  · cases adds
    cases consists with
    | array _ consist => exact consist
  · cases adds
    cases consists with
    | string holds => exact fun _ => Value.consists_of_mem_points durable holds
  · cases adds
  · cases adds
    exact fun element mem => List.mem_singleton.mp mem ▸ consists

theorem ElementsHave.consist {elements : List (Option Node)} {values : List Value}
    (derived : ElementsHave (DerivedWithin bindings height) elements values)
    (made : ∀ child, ElementsDemand (Denotes bindings) elements child →
      HasMade onText onKey (DerivedWithin bindings height) child) :
    ∀ value ∈ values, value.Consists onText onKey := by
  induction derived with
  | nil => exact fun _ mem => nomatch mem
  | hole _ ih =>
      have onRest := ih fun child demanded => made child (.later (.hole .nil) demanded)
      exact List.forall_mem_cons.mpr ⟨.undefined, onRest⟩
  | @element node value added values rest own adds _ ih =>
      have passed : ElementsHave (Denotes bindings) [some node] (added ++ []) :=
        .element ⟨height, own⟩ adds .nil
      have onRest := ih fun child demanded => made child (.later passed demanded)
      exact List.forall_mem_append.mpr
        ⟨consists_elementValues durable (made _ .first _ own) adds, onRest⟩

/-- What the values of substitutions leave in a template, and the texts after them. -/
theorem TemplatePieces.hold {parts : List (Node × Text)} {pieces : List Text}
    (filled : TemplatePieces (DerivedWithin bindings height) parts pieces)
    (follow : ∀ part ∈ parts, onText part.2)
    (made : ∀ child, TemplateDemands (Denotes bindings) parts child →
      HasMade onText onKey (DerivedWithin bindings height) child) :
    ∀ piece ∈ pieces, onText piece := by
  induction filled with
  | nil => exact fun _ mem => nomatch mem
  | @part following node value rest pieces own _ ih =>
      have substituted : onText (substitutedText value) := by
        unfold substitutedText
        split
        · exact durable.scalar isScalar_nil
        · exact (made node .first value own).toText durable
      rcases List.forall_mem_cons.mp follow with ⟨onFollowing, followLater⟩
      have onRest := ih followLater fun child demanded => made child (.later ⟨height, own⟩ demanded)
      exact List.forall_mem_cons.mpr ⟨substituted, List.forall_mem_cons.mpr ⟨onFollowing, onRest⟩⟩

theorem KeyHas.holds {key : Node} {isComputed : Bool} {name : Text}
    (keyed : KeyHas (DerivedWithin bindings height) key isComputed name)
    (made : isComputed = true → HasMade onText onKey (DerivedWithin bindings height) key)
    (written : isComputed = false →
      ∀ value, writtenKey? key = some value → value.toPropertyKey = .ok name → onKey name) :
    onKey name := by
  cases keyed with
  | computed own converted => exact (made rfl _ own).toPropertyKey durable converted
  | written spelled converted => exact written rfl _ spelled converted

theorem PropertiesHave.consists {before after : OrderedMap Text Value} {properties : List Property}
    (derived : PropertiesHave (DerivedWithin bindings height) before properties after)
    (beforeConsists : before.Consists onText onKey)
    (names : ∀ name ∈ properties.filterMap spelledName?, onKey name)
    (made : ∀ child, PropertiesDemand (Denotes bindings) properties child →
      HasMade onText onKey (DerivedWithin bindings height) child) :
    after.Consists onText onKey := by
  have denotes {node : Node} {value : Value} (own : DerivedWithin bindings height node value) :
      Denotes bindings node value := ⟨height, own⟩
  induction derived with
  | nil => exact beforeConsists
  | @pair properties result span key node isComputed name value rest keyed own _ ih =>
      have keyed' := keyed.mono denotes
      have passed : PropertiesHave (Denotes bindings) properties [.pair span key isComputed node]
          (properties.insert name value) := .pair keyed' (denotes own) .nil
      have named : onKey name := by
        refine keyed.holds durable (fun computed => ?_) fun isWritten value spelled converted => ?_
        · subst computed
          exact made key .key
        · subst isWritten
          refine names name (List.mem_filterMap.mpr ⟨_, List.mem_cons_self .., ?_⟩)
          rw [spelledName?, spelled, Option.bind_some, converted]
          rfl
      apply ih (beforeConsists.insert named (made node (.value keyed') value own))
      · exact fun name mem => names name ((List.sublist_cons_self ..).filterMap _ |>.subset mem)
      · exact fun child demanded => made child (.later passed demanded)
  | @shorthand properties result span name value rest own _ ih =>
      have passed : PropertiesHave (Denotes bindings) properties [.shorthand span name]
          (properties.insert name value) := .shorthand (denotes own) .nil
      have named : onKey name :=
        names name (List.mem_filterMap.mpr ⟨_, List.mem_cons_self .., rfl⟩)
      apply ih (beforeConsists.insert named (made _ .shorthand value own))
      · exact fun name mem => names name ((List.sublist_cons_self ..).filterMap _ |>.subset mem)
      · exact fun child demanded => made child (.later passed demanded)
  | @spread properties added result span origin argument rest own _ ih =>
      have passed : PropertiesHave (Denotes bindings) properties [.spread span argument]
          (properties.insertAll added) := .spread (denotes own) .nil
      apply ih (beforeConsists.insertAll (.ofValue (made argument .spread _ own)))
      · exact fun name mem => names name ((List.sublist_cons_self ..).filterMap _ |>.subset mem)
      · exact fun child demanded => made child (.later passed demanded)

/-- A property of what is spelled, which putting together keeps, holds of all strings of a value. -/
theorem DerivedWithin.consists {node : Node} {value : Value}
    (derived : DerivedWithin bindings height node value)
    (made : MadeOf bindings onText onKey node) : value.Consists onText onKey := by
  induction height generalizing node value with
  | zero => exact derived.elim
  | succ height ih =>
      -- The parts have their values by lower derivations, and what they need, the whole needs too.
      have onChild {child : Node} (needs : Needs bindings node child) :
          HasMade onText onKey (DerivedWithin bindings height) child :=
        fun _ own => ih own (made.child needs)
      cases derived with
      | literal written => exact consists_literalValue written (made.texts _ .refl)
      | undefined => exact .undefined
      | definition ordinary found own => exact onChild (.definition ordinary found) _ own
      | global _ _ known => exact consists_globalConstant known
      | @template span head text parts filled =>
          rcases templateHas_iff.mp filled with ⟨pieces, ofParts, rfl⟩
          rcases List.forall_mem_cons.mp (made.texts _ .refl) with ⟨onHead, onFollowing⟩
          have follow : ∀ part ∈ parts, onText part.2 :=
            fun part mem => onFollowing part.2 (List.mem_map_of_mem mem)
          have onPieces := ofParts.hold durable follow
            fun child demanded => onChild (.substitution demanded)
          have together : PutsTogether bindings (.template span head parts) (head :: pieces) :=
            .template (ofParts.mono fun own => ⟨height, own⟩)
          exact .string (made.joins _ .refl _ together
            (List.forall_mem_cons.mpr ⟨onHead, onPieces⟩))
      | array filled =>
          exact .array _ (filled.consist durable fun child demanded => onChild (.element demanded))
      | object filled =>
          exact (filled.consists durable .empty (made.names _ .refl)
            fun child demanded => onChild (.property demanded)).record _
      | unary _ _ computed => exact Value.consists_unaryResult durable computed
      | @binary span operator left right leftValue rightValue _ constant onLeft onRight computed =>
          refine Value.consists_binaryResult (fun isSum => ?_) computed
          subst isSum
          rcases Value.add_cases leftValue rightValue with isText | ⟨number, isNumber⟩
          · have together : PutsTogether bindings (.binary span .add left right)
                [leftValue.toText, rightValue.toText] :=
              .sum ⟨height, onLeft⟩ ⟨height, onRight⟩ isText
            have onText := made.joins _ .refl _ together (by
              simp [(onChild (.binaryLeft constant) _ onLeft).toText durable,
                (onChild (.binaryRight constant) _ onRight).toText durable])
            rw [isText]
            exact .string (by simpa using onText)
          · rw [isNumber]
            exact .number number
      | decided onLeft => exact onChild .logicalLeft _ onLeft
      | undecided onLeft continues onRight =>
          exact onChild (.logicalRight ⟨height, onLeft⟩ continues) _ onRight
      | conditional onTest onBranch => exact onChild (.branch ⟨height, onTest⟩) _ onBranch
      | member onOwner _ _ read => exact (onChild .owner _ onOwner).getProperty durable read
      | call named given computed =>
          have onArguments := given.consist durable
            fun child demanded => onChild (.argument named demanded)
          exact Value.consists_callResult durable onArguments computed

end Parts

end Derivations

end Fold

end ComponentInliner
