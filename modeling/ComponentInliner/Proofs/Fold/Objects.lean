import ComponentInliner.Proofs.Fold.Learning
import ComponentInliner.Proofs.Fold.Shadowing
import ComponentInliner.Proofs.Fold.Strings

/-!
# Object literals and assignments

An object literal and `Object.assign` put an object together piece by piece, each in its own way: a
literal adds its properties one at a time and those of a spread all at once, a call adds the
properties of one object after another. Here both are brought to one form, in which a piece of a
literal adds a map (`Adds`) and a literal is all its maps put together (`propertiesHave_iff`). From
it follow what a literal has at a name (`get?_assembled`) and that a call assembles the same.

The object that a spread spreads may come from anywhere. So it is needed that objects never have a
key twice (`Denotes.keyed`); of two entries at one key, a spread would take the later one and a read
the earlier one.
-/

namespace ComponentInliner

open Fold FoldMemo

namespace Value

/-- Every object in a value has each of its keys once. -/
inductive Keyed : Value → Prop
  | primitive {value : Value} (simple : value.isObject = false) : Keyed value
  | array {elements : List Value} (origin : Span) (keyed : ∀ element ∈ elements, Keyed element) :
      Keyed (.array origin elements)
  | record {properties : OrderedMap Text Value} (origin : Span) (distinct : properties.Distinct)
      (keyed : ∀ entry ∈ properties.entries, Keyed entry.2) : Keyed (.record origin properties)

end Value

/-- Each key is there once, and so it is in every object among the values. -/
structure OrderedMap.Keyed (properties : OrderedMap Text Value) : Prop where
  distinct : properties.Distinct
  values : properties.All Value.Keyed

namespace OrderedMap.Keyed

variable {properties added : OrderedMap Text Value} {value : Value}

theorem empty : (empty : OrderedMap Text Value).Keyed :=
  ⟨distinct_empty, .empty⟩

theorem insert (keyed : properties.Keyed) (name : Text) (valueKeyed : value.Keyed) :
    (properties.insert name value).Keyed :=
  ⟨keyed.distinct.insert name value, keyed.values.insert name valueKeyed⟩

theorem insertAll (keyed : properties.Keyed) (addedKeyed : added.Keyed) :
    (properties.insertAll added).Keyed :=
  ⟨keyed.distinct.insertAll added, keyed.values.insertAll addedKeyed.values⟩

theorem record (keyed : properties.Keyed) (origin : Span) :
    (Value.record origin properties).Keyed :=
  .record origin keyed.distinct keyed.values

theorem ofRecord {origin : Span} (keyed : (Value.record origin properties).Keyed) :
    properties.Keyed := by
  cases keyed with
  | primitive simple => cases simple
  | record _ distinct keyed => exact ⟨distinct, keyed⟩

/-- The properties of a value that is an object. -/
theorem ofValue (keyed : value.Keyed) : (ConstantCall.ownProperties value).Keyed := by
  cases value with
  | record origin properties => exact .ofRecord keyed
  | _ => exact .empty

end OrderedMap.Keyed

namespace Value

variable {value : Value}

theorem Keyed.elements {origin : Span} {elements : List Value}
    (keyed : (Value.array origin elements).Keyed) : ∀ element ∈ elements, element.Keyed := by
  cases keyed with
  | primitive simple => cases simple
  | array _ keyed => exact keyed

/-- What stands at an index of a string is no object. -/
theorem isObject_unitAt {text : Text} {index : Nat} (read : unitAt text index = .ok value) :
    value.isObject = false := by
  unfold unitAt at read
  split at read
  · dsimp only at read
    split at read
    · cases read
    · cases read
      rfl
  · cases read
    rfl

theorem Keyed.getProperty (keyed : value.Keyed) {key found : Value}
    (read : value.getProperty key = .ok found) : found.Keyed := by
  unfold Value.getProperty at read
  cases named : key.toPropertyKey with
  | error fault =>
      rw [named] at read
      cases read
  | ok name =>
      rw [named] at read
      simp only [bind, Except.bind] at read
      cases value with
      | record origin properties =>
          dsimp only at read
          split at read
          · next own =>
              cases read
              exact (OrderedMap.Keyed.ofRecord keyed).values.get? own
          · split at read
            · cases read
            · cases read
              exact .primitive rfl
      | array origin elements =>
          rcases indexedProperty_cases read with ⟨double, rfl⟩ | ⟨index, read⟩
          · exact .primitive rfl
          cases read
          unfold elementAt
          cases atIndex : elements[index]? with
          | none => simpa [List.getD, atIndex] using primitive rfl
          | some element =>
              simpa [List.getD, atIndex] using keyed.elements element (List.mem_of_getElem? atIndex)
      | string =>
          rcases indexedProperty_cases read with ⟨double, rfl⟩ | ⟨index, read⟩
          · exact .primitive rfl
          · exact .primitive (isObject_unitAt read)
      | undefined | null | boolean | number => cases read

/-- A property of an object is its own; a name that it does not have is undefined, unless every
object inherits it. -/
theorem getProperty_record {origin : Span} {properties : OrderedMap Text Value} {key : Value}
    {name : Text} (converted : key.toPropertyKey = .ok name) :
    (Value.record origin properties).getProperty key =
      match properties.get? name with
      | some own => .ok own
      | none =>
          if inheritedNames.contains name then .error (.inheritedProperty name)
          else .ok .undefined := by
  unfold Value.getProperty
  rw [converted]
  rfl

/-- Operators make no objects. -/
theorem isObject_unaryResult {operator : UnaryOperator} {operand : Value}
    (computed : operator.result? operand = some value) : value.isObject = false := by
  cases operator <;> cases computed <;> rfl

theorem isObject_binaryResult {operator : BinaryOperator} {left right : Value}
    (computed : operator.result? left right = some value) : value.isObject = false := by
  cases operator with
  | add =>
      cases computed
      rcases add_cases left right with same | ⟨number, same⟩
      · rw [same]
        rfl
      · rw [same]
        rfl
  | _ => cases computed <;> rfl

theorem keyed_callResult {call : ConstantCall} {origin : Span} {arguments : List Value}
    (keyed : ∀ argument ∈ arguments, argument.Keyed)
    (computed : call.result origin arguments = .ok value) : value.Keyed := by
  have first : (arguments.headD .undefined).Keyed := by
    cases arguments with
    | nil => exact .primitive rfl
    | cons argument rest => exact keyed argument (List.mem_cons_self ..)
  cases call with
  | objectAssign =>
      cases computed
      have merges (sources : List Value) (sourcesKeyed : ∀ source ∈ sources, source.Keyed)
          (merged : OrderedMap Text Value) (mergedKeyed : merged.Keyed) :
          (sources.foldl (fun merged source =>
            merged.insertAll (ConstantCall.ownProperties source)) merged).Keyed := by
        induction sources generalizing merged with
        | nil => exact mergedKeyed
        | cons source rest ih =>
            rcases List.forall_mem_cons.mp sourcesKeyed with ⟨onSource, onRest⟩
            exact ih onRest _ (mergedKeyed.insertAll (.ofValue onSource))
      exact (merges _ (fun source mem => keyed source (List.mem_of_mem_tail mem))
        _ (.ofValue first)).record origin
  | objectFreeze =>
      cases computed
      exact first
  | arrayFrom =>
      simp only [ConstantCall.result] at computed
      generalize arguments.headD .undefined = given at first computed
      cases given with
      | array =>
          cases computed
          exact .array origin first.elements
      | string text =>
          cases computed
          refine .array origin fun element mem => ?_
          rcases List.mem_map.mp mem with ⟨point, -, rfl⟩
          exact .primitive rfl
      | _ => cases computed
  | string | number | boolean =>
      cases computed
      exact .primitive rfl

end Value

namespace Fold

section Keyed

variable {has : Node → Value → Prop} (sound : ∀ {node value}, has node value → value.Keyed)

include sound

theorem ElementsHave.keyed {elements : List (Option Node)} {values : List Value}
    (derived : ElementsHave has elements values) : ∀ value ∈ values, value.Keyed := by
  induction derived with
  | nil => exact fun _ mem => nomatch mem
  | hole _ ih => exact List.forall_mem_cons.mpr ⟨.primitive rfl, ih⟩
  | @element node value added _ _ own adds _ ih =>
      refine List.forall_mem_append.mpr ⟨?_, ih⟩
      have onValue := sound own
      unfold elementValues? at adds
      split at adds
      · cases adds
        exact onValue.elements
      · cases adds
        intro element mem
        rcases List.mem_map.mp mem with ⟨point, -, rfl⟩
        exact .primitive rfl
      · cases adds
      · cases adds
        exact List.forall_mem_singleton.mpr onValue

theorem PropertiesHave.keyed {before after : OrderedMap Text Value} {properties : List Property}
    (derived : PropertiesHave has before properties after) (beforeKeyed : before.Keyed) :
    after.Keyed := by
  induction derived with
  | nil => exact beforeKeyed
  | pair _ own _ ih | shorthand own _ ih => exact ih (beforeKeyed.insert _ (sound own))
  | spread own _ ih => exact ih (beforeKeyed.insertAll (.ofRecord (sound own)))

theorem Rule.keyed {bindings : BindingTable} {node : Node} {value : Value}
    (derived : Rule has bindings node value) : value.Keyed := by
  cases derived with
  | @literal _ literal _ _ written =>
      cases literal with
      | bigInteger | regularExpression => cases written
      | null | boolean | number | string =>
          cases written
          exact .primitive rfl
  | undefined | template => exact .primitive rfl
  | global _ _ known =>
      unfold globalConstant? at known
      split_ifs at known
      all_goals
        cases known
        exact .primitive rfl
  | definition _ _ own | decided own | undecided _ _ own | conditional _ own => exact sound own
  | array filled => exact .array _ (filled.keyed sound)
  | object filled => exact (filled.keyed sound .empty).record _
  | unary _ _ computed => exact .primitive (Value.isObject_unaryResult computed)
  | binary _ _ _ computed => exact .primitive (Value.isObject_binaryResult computed)
  | member onOwner _ _ read => exact (sound onOwner).getProperty read
  | call _ given computed => exact Value.keyed_callResult (given.keyed sound) computed

end Keyed

variable {bindings : BindingTable}

/-- The objects in the value of an expression have each of their keys once. -/
theorem Denotes.keyed {node : Node} {value : Value} (denotes : Denotes bindings node value) :
    value.Keyed := by
  rcases denotes with ⟨height, derived⟩
  induction height generalizing node value with
  | zero => exact derived.elim
  | succ height ih => exact Rule.keyed ih derived

section Pieces

/-- The properties that a piece of an object literal adds to those before it. -/
inductive Adds (bindings : BindingTable) : Property → OrderedMap Text Value → Prop
  | pair {span : Span} {key node : Node} {isComputed : Bool} {name : Text} {value : Value}
      (keyed : KeyHas (Denotes bindings) key isComputed name) (own : Denotes bindings node value) :
      Adds bindings (.pair span key isComputed node) ⟨[(name, value)]⟩
  | shorthand {span : Span} {name : Text} {value : Value}
      (own : Denotes bindings (.identifier span name) value) :
      Adds bindings (.shorthand span name) ⟨[(name, value)]⟩
  | spread {span origin : Span} {argument : Node} {added : OrderedMap Text Value}
      (own : Denotes bindings argument (.record origin added)) :
      Adds bindings (.spread span argument) added

/-- A piece of an object literal provides a value for a name. -/
def Provides (bindings : BindingTable) (piece : Property) (name : Text) (value : Value) : Prop :=
  ∃ added, Adds bindings piece added ∧ added.get? name = some value

/-- The last one of the pieces that provide anything for a name provides the value. -/
inductive LastProvides (bindings : BindingTable) (name : Text) (value : Value) :
    List Property → Prop
  | here {piece : Property} {rest : List Property} (own : Provides bindings piece name value)
      (silent : ∀ later ∈ rest, ∀ other, ¬Provides bindings later name other) :
      LastProvides bindings name value (piece :: rest)
  | later {piece : Property} {rest : List Property}
      (following : LastProvides bindings name value rest) :
      LastProvides bindings name value (piece :: rest)

variable {piece : Property} {pieces : List Property} {added : OrderedMap Text Value}
  {parts : List (OrderedMap Text Value)} {name : Text} {value : Value}

theorem Adds.unique {other : OrderedMap Text Value} (adds : Adds bindings piece added)
    (again : Adds bindings piece other) : added = other := by
  have functional (node : Node) (value other : Value) (first : Denotes bindings node value)
      (second : Denotes bindings node other) : value = other := first.unique second
  cases adds with
  | pair keyed own =>
      cases again with
      | pair keyed' own' => rw [keyed.unique functional keyed', own.unique own']
  | shorthand own =>
      cases again with
      | shorthand own' => rw [own.unique own']
  | spread own =>
      cases again with
      | spread own' =>
          cases own.unique own'
          rfl

theorem Adds.distinct (adds : Adds bindings piece added) : added.Distinct := by
  cases adds with
  | pair | shorthand => exact List.pairwise_singleton _ _
  | spread own => exact (OrderedMap.Keyed.ofRecord own.keyed).distinct

theorem Adds.provides_iff (adds : Adds bindings piece added) :
    Provides bindings piece name value ↔ added.get? name = some value := by
  constructor
  · rintro ⟨other, again, found⟩
    rw [adds.unique again]
    exact found
  · exact fun found => ⟨added, adds, found⟩

/-- The properties of an object literal are those of its pieces put together. -/
theorem propertiesHave_iff {before after : OrderedMap Text Value} :
    PropertiesHave (Denotes bindings) before pieces after ↔
      ∃ parts, List.Forall₂ (Adds bindings) pieces parts ∧
        after = parts.foldl OrderedMap.insertAll before := by
  constructor
  · intro derived
    induction derived with
    | nil => exact ⟨[], .nil, rfl⟩
    | pair keyed own _ ih =>
        rcases ih with ⟨parts, adds, rfl⟩
        exact ⟨_ :: parts, .cons (.pair keyed own) adds, rfl⟩
    | shorthand own _ ih =>
        rcases ih with ⟨parts, adds, rfl⟩
        exact ⟨_ :: parts, .cons (.shorthand own) adds, rfl⟩
    | spread own _ ih =>
        rcases ih with ⟨parts, adds, rfl⟩
        exact ⟨_ :: parts, .cons (.spread own) adds, rfl⟩
  · rintro ⟨parts, adds, rfl⟩
    induction adds generalizing before with
    | nil => exact .nil
    | cons first _ ih =>
        cases first with
        | pair keyed own => exact .pair keyed own ih
        | shorthand own => exact .shorthand own ih
        | spread own => exact .spread own ih

theorem lastProvides_cons_iff : LastProvides bindings name value (piece :: pieces) ↔
    LastProvides bindings name value pieces ∨ (Provides bindings piece name value ∧
      ∀ later ∈ pieces, ∀ other, ¬Provides bindings later name other) := by
  constructor
  · rintro (⟨own, silent⟩ | following)
    · exact .inr ⟨own, silent⟩
    · exact .inl following
  · rintro (following | ⟨own, silent⟩)
    · exact .later following
    · exact .here own silent

/-- What is found at a name is what the last piece provides that provides anything for the name, or
what was there before if none does. -/
theorem get?_assembled (adds : List.Forall₂ (Adds bindings) pieces parts)
    (before : OrderedMap Text Value) :
    (parts.foldl OrderedMap.insertAll before).get? name = some value ↔
      LastProvides bindings name value pieces ∨ (before.get? name = some value ∧
        ∀ piece ∈ pieces, ∀ other, ¬Provides bindings piece name other) := by
  induction adds generalizing before with
  | nil =>
      have nothing : ¬LastProvides bindings name value [] := fun last => nomatch last
      simp [nothing]
  | @cons piece added pieces parts first _ ih =>
      rw [List.foldl_cons, ih, lastProvides_cons_iff, List.forall_mem_cons, first.provides_iff,
        OrderedMap.get?_insertAll first.distinct, or_assoc]
      refine or_congr_right ?_
      simp only [first.provides_iff]
      cases added.get? name with
      | none => simp
      | some own => simp

theorem Denotes.exists_adds {span : Span} (denotes : Denotes bindings (.object span pieces) value)
    (mem : piece ∈ pieces) : ∃ added, Adds bindings piece added := by
  cases denotes_iff_rule.mp denotes with
  | object filled =>
      rcases propertiesHave_iff.mp filled with ⟨parts, adds, -⟩
      clear denotes filled
      induction adds with
      | nil => cases mem
      | cons first _ ih =>
          rcases List.mem_cons.mp mem with rfl | mem
          · exact ⟨_, first⟩
          · exact ih mem

/-- An object has at a name what the last piece provides that provides anything for the name. -/
theorem Denotes.get?_object {span : Span}
    (denotes : Denotes bindings (.object span pieces) value) :
    ∃ properties, value = .record span properties ∧ ∀ name own,
      properties.get? name = some own ↔ LastProvides bindings name own pieces := by
  cases denotes_iff_rule.mp denotes with
  | object filled =>
      rcases propertiesHave_iff.mp filled with ⟨parts, adds, rfl⟩
      refine ⟨_, rfl, fun name own => ?_⟩
      rw [get?_assembled adds]
      simp

end Pieces

section Operands

/-- What a call of `Object.assign` takes in the place of a piece of an object literal: what a spread
spreads, and else an object literal with the piece alone. -/
inductive IsOperand : Property → Node → Prop
  | spread {span : Span} {argument : Node} : IsOperand (.spread span argument) argument
  | alone {piece : Property} (own : Span) (lone : ∀ span argument, piece ≠ .spread span argument) :
      IsOperand piece (.object own [piece])

variable {piece : Property} {pieces : List Property} {added : OrderedMap Text Value}
  {parts : List (OrderedMap Text Value)} {operand : Node} {operands : List Node}

/-- An operand is an object with the properties that the piece adds. -/
theorem Adds.denotes (adds : Adds bindings piece added) (stands : IsOperand piece operand) :
    ∃ origin, Denotes bindings operand (.record origin added) := by
  cases stands with
  | spread =>
      cases adds with
      | spread own => exact ⟨_, own⟩
  | alone span lone =>
      cases adds with
      | pair keyed own => exact ⟨span, .of_rule (.object (.pair keyed own .nil))⟩
      | shorthand own => exact ⟨span, .of_rule (.object (.shorthand own .nil))⟩
      | spread => exact absurd rfl (lone _ _)

theorem elementOperand_of_ne {node : Node}
    (noSpread : ∀ span argument, node ≠ .spread span argument) :
    elementOperand node = node ∧ ∀ value, elementValues? node value = some [value] := by
  cases node with
  | spread => exact absurd rfl (noSpread _ _)
  | _ => exact ⟨rfl, fun _ => rfl⟩

/-- A spread is no expression and has no value. -/
theorem Denotes.ne_spread {node : Node} {value : Value} (denotes : Denotes bindings node value)
    (span : Span) (argument : Node) : node ≠ .spread span argument := by
  rintro rfl
  cases denotes_iff_rule.mp denotes

theorem ElementsHave.cons_of_denotes {node : Node} {value : Value} {rest : List (Option Node)}
    {values : List Value} (denotes : Denotes bindings node value)
    (following : ElementsHave (Denotes bindings) rest values) :
    ElementsHave (Denotes bindings) (some node :: rest) (value :: values) := by
  rcases elementOperand_of_ne denotes.ne_spread with ⟨same, adds⟩
  exact .element (same.symm ▸ denotes) (adds value) following

theorem exists_elementsHave_operands (adds : List.Forall₂ (Adds bindings) pieces parts)
    (stand : List.Forall₂ IsOperand pieces operands) :
    ∃ values, ElementsHave (Denotes bindings) (operands.map some) values ∧
      values.map ConstantCall.ownProperties = parts := by
  induction adds generalizing operands with
  | nil =>
      cases stand
      exact ⟨[], .nil, rfl⟩
  | cons first _ ih =>
      cases stand with
      | cons stands stand =>
          rcases ih stand with ⟨values, given, same⟩
          rcases first.denotes stands with ⟨origin, denotes⟩
          exact ⟨_ :: values, .cons_of_denotes denotes given, congrArg (_ :: ·) same⟩

/-- A call of `Object.assign` with an empty object and operands has all their properties, put
together. -/
theorem denotes_assign {callee : Node} {callSpan firstSpan : Span}
    (called : calledFunction? bindings callee = some .objectAssign)
    (adds : List.Forall₂ (Adds bindings) pieces parts)
    (stand : List.Forall₂ IsOperand pieces operands) :
    Denotes bindings (.call callSpan callee (.object firstSpan [] :: operands) false)
      (.record callSpan (parts.foldl OrderedMap.insertAll .empty)) := by
  rcases exists_elementsHave_operands adds stand with ⟨values, given, rfl⟩
  have onFirst : Denotes bindings (.object firstSpan []) (.record firstSpan .empty) :=
    .of_rule (.object .nil)
  refine .of_rule (.call called (.cons_of_denotes onFirst given) ?_)
  rw [List.foldl_map]
  rfl

end Operands

section Runs

variable {self : Node → FoldM (Option Value)} {limit larger : Nat} {resolving : List Text}
  {start result : OrderedMap Text Value} {piece : Property} {pieces : List Property}
  {operand : Node} {operands : List Node} {before after more : FoldMemo}

/-- The pieces of an object literal are folded one after another, and what a piece adds does not
depend on those before it. -/
theorem foldProperties_adds
    (ran : Runs (foldProperties self start (piece :: pieces)) before (some result) after) :
    ∃ added between,
      (∀ other, Runs (foldProperties self other [piece]) before (some (other.insertAll added))
        between) ∧
      Runs (foldProperties self (start.insertAll added) pieces) between (some result) after := by
  cases piece with
  | pair span key isComputed node =>
      rcases Runs.bind_iff.mp ran with ⟨_ | name, between, onKey, ran⟩
      · cases (Runs.pure_iff.mp ran).1
      rcases Runs.bind_iff.mp ran with ⟨_ | value, last, onValue, ran⟩
      · cases (Runs.pure_iff.mp ran).1
      exact ⟨⟨[(name, value)]⟩, last,
        fun other => Runs.andThen onKey (Runs.andThen onValue Runs.idle), ran⟩
  | shorthand span name =>
      rcases Runs.bind_iff.mp ran with ⟨_ | value, last, onValue, ran⟩
      · cases (Runs.pure_iff.mp ran).1
      exact ⟨⟨[(name, value)]⟩, last, fun other => Runs.andThen onValue Runs.idle, ran⟩
  | spread span argument =>
      rcases Runs.bind_iff.mp ran with ⟨_ | value, last, onValue, ran⟩
      · cases (Runs.pure_iff.mp ran).1
      cases value with
      | record origin added => exact ⟨added, last, fun other => Runs.andThen onValue Runs.idle, ran⟩
      | _ => cases (Runs.pure_iff.mp ran).1
  | method => cases (Runs.pure_iff.mp ran).1

/-- Where a piece is folded, its operand is folded by one who knows more and may nest deeper. -/
theorem IsOperand.exceeded (stands : IsOperand piece operand) (deep : limit ≤ larger)
    (sure : Sure bindings before) (sureMore : Sure bindings more) (below : before.Below more)
    (ran : Runs (foldProperties (fold bindings limit resolving) .empty [piece]) before (some result)
      after) :
    ∃ value beyond, Runs (fold bindings (larger + 1) resolving operand) more (some value) beyond ∧
      Sure bindings beyond ∧ after.Below beyond := by
  cases stands with
  | spread =>
      rcases Runs.bind_iff.mp ran with ⟨_ | value, last, onValue, ran⟩
      · cases (Runs.pure_iff.mp ran).1
      cases value with
      | record origin added =>
          cases (Runs.pure_iff.mp ran).2
          have deeper : limit ≤ larger + 1 := deep.trans (Nat.le_succ _)
          exact ⟨_, (fold_exceeded bindings deeper resolving _ _ _ _ onValue more sure sureMore
            below).2⟩
      | _ => cases (Runs.pure_iff.mp ran).1
  | alone own =>
      have handled : Runs (foldWith (fold bindings limit resolving) bindings
          (foldName (fold bindings limit) bindings resolving) (.object own [piece])) before
          (some (.record own result)) after :=
        Runs.andThen ran Runs.idle
      exact ⟨_, foldWith_exceeded nofun deep sure sureMore below handled⟩

/-- Where the pieces of an object literal are folded, so are their operands by one who knows more
and may nest deeper. -/
theorem operands_exceeded (stand : List.Forall₂ IsOperand pieces operands) (deep : limit ≤ larger)
    (sure : Sure bindings before) (sureMore : Sure bindings more) (below : before.Below more)
    (ran : Runs (foldProperties (fold bindings limit resolving) start pieces) before (some result)
      after) :
    ∃ values beyond, Runs (foldElements (fold bindings (larger + 1) resolving)
      (operands.map some)) more (some values) beyond := by
  have keeps (child : Node) : (exceeding bindings).Keeps (fold bindings limit resolving child)
      (fold bindings limit resolving child) := fold_exceeded bindings le_rfl resolving child
  induction stand generalizing start before more with
  | nil => exact ⟨[], more, Runs.idle⟩
  | @cons piece operand pieces operands stands _ ih =>
      rcases foldProperties_adds ran with ⟨added, between, onPiece, onRest⟩
      have sureBetween := (foldProperties_keeps keeps .empty [piece] _ _ _ (onPiece .empty) before
        sure sure (.refl _)).1
      rcases stands.exceeded deep sure sureMore below (onPiece .empty) with
        ⟨value, middle, along, sureMiddle, belowMiddle⟩
      rcases ih sureBetween sureMiddle belowMiddle onRest with ⟨values, beyond, alongRest⟩
      have denotes := (fold_learns bindings _ _ _ _ _ _ along sureMore).denotes
      rcases elementOperand_of_ne denotes.ne_spread with ⟨same, adds⟩
      have alongOperand : Runs (fold bindings (larger + 1) resolving
          (Fold.elementOperand operand)) more (some value) middle := same.symm ▸ along
      refine ⟨value :: values, beyond, Runs.andThen alongOperand ?_⟩
      rw [Option.bind_some, adds]
      exact Runs.andThen alongRest Runs.idle

/-- Where the pieces of an object literal are folded, a call of `Object.assign` with their operands
is folded by a folder that may nest deeper. -/
theorem assign_runs {callee : Node} {callSpan firstSpan : Span}
    (called : calledFunction? bindings callee = some .objectAssign)
    (stand : List.Forall₂ IsOperand pieces operands) (deep : limit ≤ larger)
    (ran : Runs (foldProperties (fold bindings limit []) .empty pieces) .empty (some result)
      after) :
    ∃ value beyond, Runs (fold bindings (larger + 2) []
      (.call callSpan callee (.object firstSpan [] :: operands) false)) .empty (some value)
        beyond := by
  have onFirst : Runs (foldWith (fold bindings larger []) bindings
      (foldName (fold bindings larger) bindings []) (.object firstSpan [])) .empty
      (some (.record firstSpan .empty)) .empty :=
    Runs.andThen Runs.idle Runs.idle
  have sure := Sure.empty bindings
  have unnamed : ∀ span text, Node.object firstSpan [] ≠ .identifier span text :=
    fun _ _ same => nomatch same
  rcases foldWith_exceeded unnamed le_rfl sure sure (.refl _) onFirst with
    ⟨between, alongFirst, sureBetween, below⟩
  rcases operands_exceeded stand deep sure sureBetween below ran with ⟨values, beyond, alongRest⟩
  have given : Runs (foldElements (fold bindings (larger + 1) [])
      ((Node.object firstSpan [] :: operands).map some)) .empty
      (some ([.record firstSpan .empty] ++ values)) beyond :=
    Runs.andThen alongFirst (Runs.andThen alongRest Runs.idle)
  have onCall : ∃ value, Runs (foldCall (fold bindings (larger + 1) []) bindings callSpan callee
      (.object firstSpan [] :: operands)) .empty (some value) beyond := by
    unfold foldCall
    rw [called]
    exact ⟨_, Runs.andThen given Runs.idle⟩
  rcases onCall with ⟨value, onCall⟩
  exact ⟨value, _, (fold_unknown_iff rfl).mpr ⟨beyond, onCall, rfl⟩⟩

end Runs

end Fold

namespace Folder

theorem evaluate_iff {bindings : BindingTable} {limit : Nat} {node : Node} {value : Value} :
    ((within limit bindings).evaluate node).1 = .ok (some value) ↔
      ∃ after, Runs (fold bindings limit [] node) .empty (some value) after :=
  comesTo_iff

theorem denotes_of_evaluate {bindings : BindingTable} {limit : Nat} {node : Node} {value : Value}
    (folded : ((within limit bindings).evaluate node).1 = .ok (some value)) :
    Denotes bindings node value := by
  rcases evaluate_iff.mp folded with ⟨after, ran⟩
  exact (fold_learns bindings _ _ _ _ _ _ ran (.empty _)).denotes

section Assignments

variable {bindings : BindingTable} {limit larger : Nat} {span callSpan firstSpan : Span}
  {callee : Node} {pieces : List Property} {operands : List Node} {value : Value}

/-- Where an object literal is folded, the call of `Object.assign` with operands for its pieces is
folded by a folder that may nest deeper. -/
theorem exists_evaluate_assign (called : calledFunction? bindings callee = some .objectAssign)
    (stand : List.Forall₂ IsOperand pieces operands) (deeper : limit < larger)
    (folded : ((within limit bindings).evaluate (.object span pieces)).1 = .ok (some value)) :
    ∃ assigned, ((within larger bindings).evaluate
      (.call callSpan callee (.object firstSpan [] :: operands) false)).1 =
        .ok (some assigned) := by
  rcases evaluate_iff.mp folded with ⟨after, ran⟩
  cases limit with
  | zero => cases (Runs.pure_iff.mp ran).1
  | succ limit =>
      rcases (fold_unknown_iff rfl).mp ran with ⟨between, onObject, -⟩
      rcases Runs.bind_iff.mp onObject with ⟨_ | result, last, onPieces, done⟩
      · cases (Runs.pure_iff.mp done).1
      obtain ⟨deepest, rfl⟩ : ∃ deepest, larger = limit + deepest + 2 :=
        ⟨larger - limit - 2, by omega⟩
      rcases assign_runs called stand (Nat.le_add_right limit deepest) onPieces with
        ⟨assigned, beyond, along⟩
      exact ⟨assigned, evaluate_iff.mpr ⟨beyond, along⟩⟩

/--
An object literal that is folded to a value is folded to an object with the same properties in the
same order as the call of `Object.assign` with an empty object and an operand for each piece, if the
module does not define `Object`. The call nests one deeper: wherever there is one more level of room
it is folded, and it is never folded to anything else. At every string and every number as a key,
the object has what the last of the pieces provides that provide anything there.
-/
theorem evaluate_object (undefined : bindings.contains "Object" = false)
    (spelled : calleeName? callee = some (Text.ofString "Object.assign"))
    (stand : List.Forall₂ IsOperand pieces operands)
    (folded : ((within limit bindings).evaluate (.object span pieces)).1 = .ok (some value)) :
    let call : Node := .call callSpan callee (.object firstSpan [] :: operands) false
    ∃ properties, value = .record span properties ∧
      (∀ larger, limit < larger →
        ((within larger bindings).evaluate call).1 = .ok (some (.record callSpan properties))) ∧
      (∀ other assigned, ((within other bindings).evaluate call).1 = .ok (some assigned) →
        assigned = .record callSpan properties) ∧
      ∀ key name, key.toPropertyKey = .ok name →
        ∀ own, LastProvides bindings name own pieces → value.getProperty key = .ok own := by
  intro call
  have called : calledFunction? bindings callee = some .objectAssign :=
    calledFunction?_of_calleeName? spelled undefined
  cases denotes_iff_rule.mp (denotes_of_evaluate folded) with
  | object filled =>
      rcases propertiesHave_iff.mp filled with ⟨parts, adds, rfl⟩
      have only (other : Nat) (assigned : Value)
          (evaluated : ((within other bindings).evaluate call).1 = .ok (some assigned)) :
          assigned = .record callSpan (parts.foldl OrderedMap.insertAll .empty) :=
        (denotes_of_evaluate evaluated).unique (denotes_assign called adds stand)
      refine ⟨_, rfl, fun larger deeper => ?_, only, fun key name converted own last => ?_⟩
      · rcases exists_evaluate_assign called stand deeper folded with ⟨assigned, evaluated⟩
        exact only larger assigned evaluated ▸ evaluated
      · rw [Value.getProperty_record converted, (get?_assembled adds .empty).mpr (.inl last)]

end Assignments

/-- The first property has a computed key. A spread overwrites it in its place, before the shorthand
that was added later. -/
theorem evaluate_object_of_pieces :
    let text (span : Span) (points : Text) : Node := .literal span (.string points) points
    let bindings : BindingTable := .ofList [("b", .expression (text ⟨10, 13⟩ "y"))]
    let first : Property := .pair ⟨22, 32⟩ (text ⟨23, 26⟩ "a") true (text ⟨29, 32⟩ "x")
    let second : Property := .shorthand ⟨34, 35⟩ "b"
    let spread : Node :=
      .object ⟨40, 50⟩ [.pair ⟨42, 48⟩ (.identifier ⟨42, 43⟩ "a") false (text ⟨45, 48⟩ "z")]
    ∃ properties,
      ((within 3 bindings).evaluate (.object ⟨20, 52⟩ [first, second, .spread ⟨37, 50⟩ spread])).1 =
        .ok (some (.record ⟨20, 52⟩ properties)) ∧
      ((within Fold.nestingLimit bindings).evaluate (.call ⟨60, 99⟩
        (calleeOf ⟨60, 73⟩ .objectAssign) [.object ⟨74, 76⟩ [], .object ⟨78, 90⟩ [first],
          .object ⟨92, 93⟩ [second], spread] false)).1 = .ok (some (.record ⟨60, 99⟩ properties)) ∧
      (Value.record ⟨20, 52⟩ properties).getProperty (.string "a") = .ok (.string "z") := by
  intro text bindings first second spread
  let pieces := [first, second, .spread ⟨37, 50⟩ spread]
  have isFolded : ((within 3 bindings).evaluate (.object ⟨20, 52⟩ pieces)).1.toOption.join.isSome =
      true := by
    decide +kernel
  have spelled : calleeName? (calleeOf ⟨60, 73⟩ .objectAssign) =
      some (Text.ofString "Object.assign") := by
    decide
  have stand : List.Forall₂ IsOperand pieces
      [.object ⟨78, 90⟩ [first], .object ⟨92, 93⟩ [second], spread] :=
    .cons (.alone _ fun _ _ same => nomatch same)
      (.cons (.alone _ fun _ _ same => nomatch same) (.cons .spread .nil))
  rcases Option.isSome_iff_exists.mp isFolded with ⟨value, found⟩
  have folded := toOption_eq_some.mp (Option.join_eq_some_iff.mp found)
  rcases @evaluate_object bindings 3 ⟨20, 52⟩ ⟨60, 99⟩ ⟨74, 76⟩ _ pieces _ value
    (by decide) spelled stand folded with ⟨properties, rfl, assigned, -, reads⟩
  have provides : Provides bindings (.spread ⟨37, 50⟩ spread) "a" (.string "z") := by
    refine ⟨_, .spread (.of_rule (.object (.pair (.written rfl rfl) ?_ .nil))), rfl⟩
    exact .of_rule (.literal rfl)
  exact ⟨properties, folded, assigned Fold.nestingLimit (by decide),
    reads _ "a" rfl _ (.later (.later (.here provides (List.forall_mem_nil _))))⟩

end Folder

end ComponentInliner
