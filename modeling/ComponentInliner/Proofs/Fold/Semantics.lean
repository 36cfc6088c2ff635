import ComponentInliner.Module.Fold
import Mathlib.Logic.Relation
import Mathlib.Order.Lattice

/-!
# What expressions mean

The meaning of expressions over a binding table, without memory and without a bound on nesting.
`Rule` has one constructor for each way in which an expression gets its value from the values of
its parts; a derivation applies it over and over, and `Denotes` says that some finite derivation
gives an expression a value. An expression has at most one value (`Denotes.unique`).

`Demands` says which expressions are folded for another one. Whatever an expression with a value
demands has a value by a shorter derivation, so an expression that demands itself, at whatever
distance, has none (`not_denotes_of_demands_itself`).
-/

namespace ComponentInliner.Fold

section Rules

variable (has : Node → Value → Prop)

/-- The values of array elements or arguments whose operands have theirs by `has`. -/
inductive ElementsHave : List (Option Node) → List Value → Prop
  | nil : ElementsHave [] []
  | hole {rest : List (Option Node)} {values : List Value} (following : ElementsHave rest values) :
      ElementsHave (none :: rest) (.undefined :: values)
  | element {node : Node} {value : Value} {added values : List Value} {rest : List (Option Node)}
      (own : has (elementOperand node) value) (adds : elementValues? node value = some added)
      (following : ElementsHave rest values) :
      ElementsHave (some node :: rest) (added ++ values)

/-- The key that a property access selects. -/
inductive SelectorHas : Node → Bool → Value → Prop
  | computed {node : Node} {key : Value} (own : has node key) : SelectorHas node true key
  | written {node : Node} {key : Value} (spelled : writtenName? node = some key) :
      SelectorHas node false key

/-- The name of a property of an object literal. -/
inductive KeyHas : Node → Bool → Text → Prop
  | computed {node : Node} {key : Value} {name : Text} (own : has node key)
      (converted : key.toPropertyKey = .ok name) : KeyHas node true name
  | written {node : Node} {key : Value} {name : Text} (spelled : writtenKey? node = some key)
      (converted : key.toPropertyKey = .ok name) : KeyHas node false name

/-- The properties of an object literal, added to those before them. -/
inductive PropertiesHave :
    OrderedMap Text Value → List Property → OrderedMap Text Value → Prop
  | nil {properties : OrderedMap Text Value} : PropertiesHave properties [] properties
  | pair {properties result : OrderedMap Text Value} {span : Span} {key node : Node}
      {isComputed : Bool} {name : Text} {value : Value} {rest : List Property}
      (keyed : KeyHas has key isComputed name) (own : has node value)
      (following : PropertiesHave (properties.insert name value) rest result) :
      PropertiesHave properties (.pair span key isComputed node :: rest) result
  | shorthand {properties result : OrderedMap Text Value} {span : Span} {name : Text}
      {value : Value} {rest : List Property} (own : has (.identifier span name) value)
      (following : PropertiesHave (properties.insert name value) rest result) :
      PropertiesHave properties (.shorthand span name :: rest) result
  | spread {properties added result : OrderedMap Text Value} {span origin : Span}
      {argument : Node} {rest : List Property} (own : has argument (.record origin added))
      (following : PropertiesHave (properties.insertAll added) rest result) :
      PropertiesHave properties (.spread span argument :: rest) result

/-- The text of a template after the text before its substitutions. -/
inductive TemplateHas : Text → List (Node × Text) → Text → Prop
  | nil {text : Text} : TemplateHas text [] text
  | part {text following result : Text} {node : Node} {value : Value} {rest : List (Node × Text)}
      (own : has node value)
      (next : TemplateHas (text ++ substitutedText value ++ following) rest result) :
      TemplateHas text ((node, following) :: rest) result

/-- One step of a derivation: how an expression gets a value if its parts have theirs by `has`. -/
inductive Rule (bindings : BindingTable) : Node → Value → Prop
  | literal {span : Span} {literal : Literal} {raw : Text} {value : Value}
      (written : literalValue? literal = some value) :
      Rule bindings (.literal span literal raw) value
  | undefined {span : Span} : Rule bindings (.identifier span "undefined") .undefined
  | definition {span : Span} {name : Text} {node : Node} {value : Value}
      (ordinary : name ≠ "undefined") (found : bindings.get? name = some (.expression node))
      (own : has node value) : Rule bindings (.identifier span name) value
  | global {span : Span} {name : Text} {value : Value} (ordinary : name ≠ "undefined")
      (missing : bindings.get? name = none) (known : globalConstant? name = some value) :
      Rule bindings (.identifier span name) value
  | template {span : Span} {head text : Text} {parts : List (Node × Text)}
      (filled : TemplateHas has head parts text) :
      Rule bindings (.template span head parts) (.string text)
  | array {span : Span} {elements : List (Option Node)} {values : List Value}
      (filled : ElementsHave has elements values) :
      Rule bindings (.array span elements) (.array span values)
  | object {span : Span} {properties : List Property} {result : OrderedMap Text Value}
      (filled : PropertiesHave has .empty properties result) :
      Rule bindings (.object span properties) (.record span result)
  | unary {span : Span} {operator : UnaryOperator} {argument : Node} {operand value : Value}
      (constant : operator ≠ .delete) (own : has argument operand)
      (computed : operator.result? operand = some value) :
      Rule bindings (.unary span operator argument) value
  | binary {span : Span} {operator : BinaryOperator} {left right : Node}
      {leftValue rightValue value : Value} (constant : hasConstants operator = true)
      (onLeft : has left leftValue) (onRight : has right rightValue)
      (computed : operator.result? leftValue rightValue = some value) :
      Rule bindings (.binary span operator left right) value
  | decided {span : Span} {operator : LogicalOperator} {left right : Node} {value : Value}
      (onLeft : has left value) (decides : operator.decidedBy value = true) :
      Rule bindings (.logical span operator left right) value
  | undecided {span : Span} {operator : LogicalOperator} {left right : Node}
      {leftValue value : Value} (onLeft : has left leftValue)
      (continues : operator.decidedBy leftValue = false) (onRight : has right value) :
      Rule bindings (.logical span operator left right) value
  | conditional {span : Span} {test consequent alternate : Node} {condition value : Value}
      (onTest : has test condition)
      (onBranch : has (if condition.truthy then consequent else alternate) value) :
      Rule bindings (.conditional span test consequent alternate) value
  | member {span : Span} {owner property : Node} {isComputed : Bool} {target key value : Value}
      (onOwner : has owner target) (real : target.isNullish = false)
      (selected : SelectorHas has property isComputed key)
      (read : target.getProperty key = .ok value) :
      Rule bindings (.member span owner property isComputed false) value
  | call {span : Span} {callee : Node} {arguments : List Node} {function : ConstantCall}
      {values : List Value} {value : Value}
      (named : calledFunction? bindings callee = some function)
      (given : ElementsHave has (arguments.map some) values)
      (computed : function.result span values = .ok value) :
      Rule bindings (.call span callee arguments false) value

end Rules

/-- An expression gets a value by a derivation of at most a given height. -/
def DerivedWithin (bindings : BindingTable) : Nat → Node → Value → Prop
  | 0, _, _ => False
  | height + 1, node, value => Rule (DerivedWithin bindings height) bindings node value

/-- An expression has a value: there is a finite derivation of it. -/
def Denotes (bindings : BindingTable) (node : Node) (value : Value) : Prop :=
  ∃ height, DerivedWithin bindings height node value

section Monotone

variable {has more : Node → Value → Prop}
  (weaken : ∀ {node value}, has node value → more node value)

include weaken

theorem ElementsHave.mono {elements : List (Option Node)} {values : List Value}
    (derived : ElementsHave has elements values) : ElementsHave more elements values := by
  induction derived with
  | nil => exact .nil
  | hole _ ih => exact .hole ih
  | element own adds _ ih => exact .element (weaken own) adds ih

theorem SelectorHas.mono {node : Node} {isComputed : Bool} {key : Value}
    (derived : SelectorHas has node isComputed key) : SelectorHas more node isComputed key := by
  cases derived with
  | computed own => exact .computed (weaken own)
  | written spelled => exact .written spelled

theorem KeyHas.mono {node : Node} {isComputed : Bool} {name : Text}
    (derived : KeyHas has node isComputed name) : KeyHas more node isComputed name := by
  cases derived with
  | computed own converted => exact .computed (weaken own) converted
  | written spelled converted => exact .written spelled converted

theorem PropertiesHave.mono {before after : OrderedMap Text Value} {properties : List Property}
    (derived : PropertiesHave has before properties after) :
    PropertiesHave more before properties after := by
  induction derived with
  | nil => exact .nil
  | pair keyed own _ ih => exact .pair (keyed.mono weaken) (weaken own) ih
  | shorthand own _ ih => exact .shorthand (weaken own) ih
  | spread own _ ih => exact .spread (weaken own) ih

theorem TemplateHas.mono {before after : Text} {parts : List (Node × Text)}
    (derived : TemplateHas has before parts after) : TemplateHas more before parts after := by
  induction derived with
  | nil => exact .nil
  | part own _ ih => exact .part (weaken own) ih

theorem Rule.mono {bindings : BindingTable} {node : Node} {value : Value}
    (derived : Rule has bindings node value) : Rule more bindings node value := by
  cases derived with
  | literal written => exact .literal written
  | undefined => exact .undefined
  | definition ordinary found own => exact .definition ordinary found (weaken own)
  | global ordinary missing known => exact .global ordinary missing known
  | template filled => exact .template (filled.mono weaken)
  | array filled => exact .array (filled.mono weaken)
  | object filled => exact .object (filled.mono weaken)
  | unary constant own computed => exact .unary constant (weaken own) computed
  | binary constant onLeft onRight computed =>
      exact .binary constant (weaken onLeft) (weaken onRight) computed
  | decided onLeft decides => exact .decided (weaken onLeft) decides
  | undecided onLeft continues onRight =>
      exact .undecided (weaken onLeft) continues (weaken onRight)
  | conditional onTest onBranch => exact .conditional (weaken onTest) (weaken onBranch)
  | member onOwner real selected read =>
      exact .member (weaken onOwner) real (selected.mono weaken) read
  | call named given computed => exact .call named (given.mono weaken) computed

end Monotone

section Heights

variable {bindings : BindingTable}

theorem DerivedWithin.succ {height : Nat} {node : Node} {value : Value}
    (derived : DerivedWithin bindings height node value) :
    DerivedWithin bindings (height + 1) node value := by
  induction height generalizing node value with
  | zero => exact derived.elim
  | succ height ih => exact Rule.mono ih derived

theorem DerivedWithin.mono {height larger : Nat} {node : Node} {value : Value}
    (below : height ≤ larger) (derived : DerivedWithin bindings height node value) :
    DerivedWithin bindings larger node value := by
  induction below with
  | refl => exact derived
  | step _ ih => exact ih.succ

theorem SelectorHas.bounded {node : Node} {isComputed : Bool} {key : Value}
    (derived : SelectorHas (Denotes bindings) node isComputed key) :
    ∃ height, SelectorHas (DerivedWithin bindings height) node isComputed key := by
  cases derived with
  | computed own =>
      rcases own with ⟨height, own⟩
      exact ⟨height, .computed own⟩
  | written spelled => exact ⟨0, .written spelled⟩

theorem KeyHas.bounded {node : Node} {isComputed : Bool} {name : Text}
    (derived : KeyHas (Denotes bindings) node isComputed name) :
    ∃ height, KeyHas (DerivedWithin bindings height) node isComputed name := by
  cases derived with
  | computed own converted =>
      rcases own with ⟨height, own⟩
      exact ⟨height, .computed own converted⟩
  | written spelled converted => exact ⟨0, .written spelled converted⟩

theorem ElementsHave.bounded {elements : List (Option Node)} {values : List Value}
    (derived : ElementsHave (Denotes bindings) elements values) :
    ∃ height, ElementsHave (DerivedWithin bindings height) elements values := by
  induction derived with
  | nil => exact ⟨0, .nil⟩
  | hole _ ih =>
      rcases ih with ⟨height, following⟩
      exact ⟨height, .hole following⟩
  | element own adds _ ih =>
      rcases own with ⟨first, own⟩
      rcases ih with ⟨second, following⟩
      exact ⟨max first second, .element (own.mono (le_max_left ..)) adds
        (following.mono (DerivedWithin.mono (le_max_right ..)))⟩

theorem PropertiesHave.bounded {before after : OrderedMap Text Value}
    {properties : List Property}
    (derived : PropertiesHave (Denotes bindings) before properties after) :
    ∃ height, PropertiesHave (DerivedWithin bindings height) before properties after := by
  induction derived with
  | nil => exact ⟨0, .nil⟩
  | pair keyed own _ ih =>
      rcases keyed.bounded with ⟨first, keyed⟩
      rcases own with ⟨second, own⟩
      rcases ih with ⟨third, following⟩
      exact ⟨max first (max second third),
        .pair (keyed.mono (DerivedWithin.mono (by omega))) (own.mono (by omega))
          (following.mono (DerivedWithin.mono (by omega)))⟩
  | shorthand own _ ih =>
      rcases own with ⟨first, own⟩
      rcases ih with ⟨second, following⟩
      exact ⟨max first second, .shorthand (own.mono (by omega))
        (following.mono (DerivedWithin.mono (by omega)))⟩
  | spread own _ ih =>
      rcases own with ⟨first, own⟩
      rcases ih with ⟨second, following⟩
      exact ⟨max first second, .spread (own.mono (by omega))
        (following.mono (DerivedWithin.mono (by omega)))⟩

theorem TemplateHas.bounded {before after : Text} {parts : List (Node × Text)}
    (derived : TemplateHas (Denotes bindings) before parts after) :
    ∃ height, TemplateHas (DerivedWithin bindings height) before parts after := by
  induction derived with
  | nil => exact ⟨0, .nil⟩
  | part own _ ih =>
      rcases own with ⟨first, own⟩
      rcases ih with ⟨second, next⟩
      exact ⟨max first second, .part (own.mono (by omega))
        (next.mono (DerivedWithin.mono (by omega)))⟩

/-- The rules lead from values to values: derivations of the parts make one of the whole. -/
theorem Denotes.of_rule {node : Node} {value : Value}
    (derived : Rule (Denotes bindings) bindings node value) : Denotes bindings node value := by
  cases derived with
  | literal written => exact ⟨1, .literal written⟩
  | undefined => exact ⟨1, .undefined⟩
  | definition ordinary found own =>
      rcases own with ⟨height, own⟩
      exact ⟨height + 1, .definition ordinary found own⟩
  | global ordinary missing known => exact ⟨1, .global ordinary missing known⟩
  | template filled =>
      rcases filled.bounded with ⟨height, filled⟩
      exact ⟨height + 1, .template filled⟩
  | array filled =>
      rcases filled.bounded with ⟨height, filled⟩
      exact ⟨height + 1, .array filled⟩
  | object filled =>
      rcases filled.bounded with ⟨height, filled⟩
      exact ⟨height + 1, .object filled⟩
  | unary constant own computed =>
      rcases own with ⟨height, own⟩
      exact ⟨height + 1, .unary constant own computed⟩
  | binary constant onLeft onRight computed =>
      rcases onLeft with ⟨first, onLeft⟩
      rcases onRight with ⟨second, onRight⟩
      exact ⟨max first second + 1, .binary constant (onLeft.mono (by omega))
        (onRight.mono (by omega)) computed⟩
  | decided onLeft decides =>
      rcases onLeft with ⟨height, onLeft⟩
      exact ⟨height + 1, .decided onLeft decides⟩
  | undecided onLeft continues onRight =>
      rcases onLeft with ⟨first, onLeft⟩
      rcases onRight with ⟨second, onRight⟩
      exact ⟨max first second + 1, .undecided (onLeft.mono (by omega)) continues
        (onRight.mono (by omega))⟩
  | conditional onTest onBranch =>
      rcases onTest with ⟨first, onTest⟩
      rcases onBranch with ⟨second, onBranch⟩
      exact ⟨max first second + 1, .conditional (onTest.mono (by omega))
        (onBranch.mono (by omega))⟩
  | member onOwner real selected read =>
      rcases onOwner with ⟨first, onOwner⟩
      rcases selected.bounded with ⟨second, selected⟩
      exact ⟨max first second + 1, .member (onOwner.mono (by omega)) real
        (selected.mono (DerivedWithin.mono (by omega))) read⟩
  | call named given computed =>
      rcases given.bounded with ⟨height, given⟩
      exact ⟨height + 1, .call named given computed⟩

/-- An expression has a value exactly if some rule gives it that value. -/
theorem denotes_iff_rule {node : Node} {value : Value} :
    Denotes bindings node value ↔ Rule (Denotes bindings) bindings node value := by
  constructor
  · rintro ⟨height, derived⟩
    cases height with
    | zero => exact derived.elim
    | succ height => exact Rule.mono (fun own => ⟨height, own⟩) derived
  · exact Denotes.of_rule

end Heights

section Uniqueness

variable {has : Node → Value → Prop}
  (functional : ∀ node value other, has node value → has node other → value = other)

include functional

theorem ElementsHave.unique {elements : List (Option Node)} {values others : List Value}
    (derived : ElementsHave has elements values) (again : ElementsHave has elements others) :
    values = others := by
  induction derived generalizing others with
  | nil =>
      cases again
      rfl
  | hole _ ih =>
      cases again with
      | hole following => rw [ih following]
  | element own adds _ ih =>
      cases again with
      | element own' adds' following =>
          cases functional _ _ _ own own'
          cases adds.symm.trans adds'
          rw [ih following]

theorem SelectorHas.unique {node : Node} {isComputed : Bool} {key other : Value}
    (derived : SelectorHas has node isComputed key)
    (again : SelectorHas has node isComputed other) : key = other := by
  cases derived with
  | computed own =>
      cases again with
      | computed own' => exact functional _ _ _ own own'
  | written spelled =>
      cases again with
      | written spelled' => exact Option.some.inj (spelled.symm.trans spelled')

theorem KeyHas.unique {node : Node} {isComputed : Bool} {name other : Text}
    (derived : KeyHas has node isComputed name) (again : KeyHas has node isComputed other) :
    name = other := by
  cases derived with
  | computed own converted =>
      cases again with
      | computed own' converted' =>
          cases functional _ _ _ own own'
          exact Except.ok.inj (converted.symm.trans converted')
  | written spelled converted =>
      cases again with
      | written spelled' converted' =>
          cases spelled.symm.trans spelled'
          exact Except.ok.inj (converted.symm.trans converted')

theorem PropertiesHave.unique {before after other : OrderedMap Text Value}
    {properties : List Property} (derived : PropertiesHave has before properties after)
    (again : PropertiesHave has before properties other) : after = other := by
  induction derived with
  | nil =>
      cases again
      rfl
  | pair keyed own _ ih =>
      cases again with
      | pair keyed' own' following =>
          cases keyed.unique functional keyed'
          cases functional _ _ _ own own'
          exact ih following
  | shorthand own _ ih =>
      cases again with
      | shorthand own' following =>
          cases functional _ _ _ own own'
          exact ih following
  | spread own _ ih =>
      cases again with
      | spread own' following =>
          cases functional _ _ _ own own'
          exact ih following

theorem TemplateHas.unique {before after other : Text} {parts : List (Node × Text)}
    (derived : TemplateHas has before parts after) (again : TemplateHas has before parts other) :
    after = other := by
  induction derived with
  | nil =>
      cases again
      rfl
  | part own _ ih =>
      cases again with
      | part own' next =>
          cases functional _ _ _ own own'
          exact ih next

theorem Rule.unique {bindings : BindingTable} {node : Node} {value other : Value}
    (derived : Rule has bindings node value) (again : Rule has bindings node other) :
    value = other := by
  cases derived with
  | literal written =>
      cases again with
      | literal written' => exact Option.some.inj (written.symm.trans written')
  | undefined =>
      cases again with
      | undefined => rfl
      | definition ordinary | global ordinary => exact absurd rfl ordinary
  | definition ordinary found own =>
      cases again with
      | undefined => exact absurd rfl ordinary
      | definition _ found' own' =>
          cases found.symm.trans found'
          exact functional _ _ _ own own'
      | global _ missing => cases found.symm.trans missing
  | global ordinary missing known =>
      cases again with
      | undefined => exact absurd rfl ordinary
      | definition _ found => cases missing.symm.trans found
      | global _ _ known' => exact Option.some.inj (known.symm.trans known')
  | template filled =>
      cases again with
      | template filled' => rw [filled.unique functional filled']
  | array filled =>
      cases again with
      | array filled' => rw [filled.unique functional filled']
  | object filled =>
      cases again with
      | object filled' => rw [filled.unique functional filled']
  | unary _ own computed =>
      cases again with
      | unary _ own' computed' =>
          cases functional _ _ _ own own'
          exact Option.some.inj (computed.symm.trans computed')
  | binary _ onLeft onRight computed =>
      cases again with
      | binary _ onLeft' onRight' computed' =>
          cases functional _ _ _ onLeft onLeft'
          cases functional _ _ _ onRight onRight'
          exact Option.some.inj (computed.symm.trans computed')
  | decided onLeft decides =>
      cases again with
      | decided onLeft' => exact functional _ _ _ onLeft onLeft'
      | undecided onLeft' continues =>
          cases functional _ _ _ onLeft onLeft'
          cases decides.symm.trans continues
  | undecided onLeft continues onRight =>
      cases again with
      | decided onLeft' decides =>
          cases functional _ _ _ onLeft onLeft'
          cases decides.symm.trans continues
      | undecided _ _ onRight' => exact functional _ _ _ onRight onRight'
  | conditional onTest onBranch =>
      cases again with
      | conditional onTest' onBranch' =>
          cases functional _ _ _ onTest onTest'
          exact functional _ _ _ onBranch onBranch'
  | member onOwner _ selected read =>
      cases again with
      | member onOwner' _ selected' read' =>
          cases functional _ _ _ onOwner onOwner'
          cases selected.unique functional selected'
          exact Except.ok.inj (read.symm.trans read')
  | call named given computed =>
      cases again with
      | call named' given' computed' =>
          cases named.symm.trans named'
          cases given.unique functional given'
          exact Except.ok.inj (computed.symm.trans computed')

end Uniqueness

variable {bindings : BindingTable}

theorem DerivedWithin.unique {height : Nat} {node : Node} {value other : Value}
    (derived : DerivedWithin bindings height node value)
    (again : DerivedWithin bindings height node other) : value = other := by
  induction height generalizing node value other with
  | zero => exact derived.elim
  | succ height ih =>
      have functional : ∀ node value other, DerivedWithin bindings height node value →
          DerivedWithin bindings height node other → value = other :=
        fun _ _ _ first second => ih first second
      exact Rule.unique functional derived again

/-- An expression has at most one value. -/
theorem Denotes.unique {node : Node} {value other : Value}
    (denotes : Denotes bindings node value) (again : Denotes bindings node other) :
    value = other := by
  rcases denotes with ⟨first, derived⟩
  rcases again with ⟨second, derived'⟩
  exact (derived.mono (le_max_left first second)).unique (derived'.mono (le_max_right first second))

section Demand

variable (has : Node → Value → Prop)

/-- The operand of an element or argument is folded if all elements before it have values. -/
inductive ElementsDemand : List (Option Node) → Node → Prop
  | first {node : Node} {rest : List (Option Node)} :
      ElementsDemand (some node :: rest) (elementOperand node)
  | later {element : Option Node} {values : List Value} {rest : List (Option Node)} {child : Node}
      (passed : ElementsHave has [element] values) (following : ElementsDemand rest child) :
      ElementsDemand (element :: rest) child

/-- What is folded for a property if all properties before it have values. -/
inductive PropertiesDemand : List Property → Node → Prop
  | key {span : Span} {key node : Node} {rest : List Property} :
      PropertiesDemand (.pair span key true node :: rest) key
  | value {span : Span} {key node : Node} {isComputed : Bool} {name : Text} {rest : List Property}
      (keyed : KeyHas has key isComputed name) :
      PropertiesDemand (.pair span key isComputed node :: rest) node
  | shorthand {span : Span} {name : Text} {rest : List Property} :
      PropertiesDemand (.shorthand span name :: rest) (.identifier span name)
  | spread {span : Span} {argument : Node} {rest : List Property} :
      PropertiesDemand (.spread span argument :: rest) argument
  | later {property : Property} {before after : OrderedMap Text Value} {rest : List Property}
      {child : Node} (passed : PropertiesHave has before [property] after)
      (following : PropertiesDemand rest child) : PropertiesDemand (property :: rest) child

/-- A substitution is folded if all substitutions before it have values. -/
inductive TemplateDemands : List (Node × Text) → Node → Prop
  | first {node : Node} {following : Text} {rest : List (Node × Text)} :
      TemplateDemands ((node, following) :: rest) node
  | later {node child : Node} {value : Value} {following : Text} {rest : List (Node × Text)}
      (own : has node value) (next : TemplateDemands rest child) :
      TemplateDemands ((node, following) :: rest) child

end Demand

section Properties

variable {has : Node → Value → Prop}

/-- The properties of an object literal are those of its first property with the rest added. -/
theorem PropertiesHave.cons_iff {before after : OrderedMap Text Value}
    {property : Property} {rest : List Property} :
    PropertiesHave has before (property :: rest) after ↔
      ∃ middle, PropertiesHave has before [property] middle ∧
        PropertiesHave has middle rest after := by
  constructor
  · rintro (_ | ⟨keyed, own, following⟩ | ⟨own, following⟩ | ⟨own, following⟩)
    · exact ⟨_, .pair keyed own .nil, following⟩
    · exact ⟨_, .shorthand own .nil, following⟩
    · exact ⟨_, .spread own .nil, following⟩
  · rintro ⟨middle, first, following⟩
    cases first with
    | pair keyed own done =>
        cases done
        exact .pair keyed own following
    | shorthand own done =>
        cases done
        exact .shorthand own following
    | spread own done =>
        cases done
        exact .spread own following

/-- Whether a property can be added does not depend on the properties before it. -/
theorem PropertiesHave.elsewhere {before after : OrderedMap Text Value} {property : Property}
    (derived : PropertiesHave has before [property] after) (other : OrderedMap Text Value) :
    ∃ result, PropertiesHave has other [property] result := by
  cases derived with
  | pair keyed own => exact ⟨_, .pair keyed own .nil⟩
  | shorthand own => exact ⟨_, .shorthand own .nil⟩
  | spread own => exact ⟨_, .spread own .nil⟩

/-- What is folded for the properties of an object literal is folded for the first one or, if that
one can be added, for the rest. -/
theorem PropertiesDemand.cons_iff {property : Property}
    {rest : List Property} {child : Node} :
    PropertiesDemand has (property :: rest) child ↔
      PropertiesDemand has [property] child ∨
        ∃ before after, PropertiesHave has before [property] after ∧
          PropertiesDemand has rest child := by
  constructor
  · rintro (_ | keyed | _ | _ | ⟨passed, following⟩)
    · exact .inl .key
    · exact .inl (.value keyed)
    · exact .inl .shorthand
    · exact .inl .spread
    · exact .inr ⟨_, _, passed, following⟩
  · rintro (first | ⟨before, after, passed, following⟩)
    · cases first with
      | key => exact .key
      | value keyed => exact .value keyed
      | shorthand => exact .shorthand
      | spread => exact .spread
      | later _ impossible => cases impossible
    · exact .later passed following

end Properties

/-- The operators of a left-nested chain that ends in an expression, from the outside. -/
def chainOperators : Node → List Node
  | .binary span operator left right => .binary span operator left right :: chainOperators left
  | .logical span operator left right => .logical span operator left right :: chainOperators left
  | _ => []

/-- The value of an expression depends on that of another one. -/
inductive Needs (bindings : BindingTable) : Node → Node → Prop
  | definition {span : Span} {name : Text} {node : Node} (ordinary : name ≠ "undefined")
      (found : bindings.get? name = some (.expression node)) :
      Needs bindings (.identifier span name) node
  | substitution {span : Span} {head : Text} {parts : List (Node × Text)} {child : Node}
      (demanded : TemplateDemands (Denotes bindings) parts child) :
      Needs bindings (.template span head parts) child
  | element {span : Span} {elements : List (Option Node)} {child : Node}
      (demanded : ElementsDemand (Denotes bindings) elements child) :
      Needs bindings (.array span elements) child
  | property {span : Span} {properties : List Property} {child : Node}
      (demanded : PropertiesDemand (Denotes bindings) properties child) :
      Needs bindings (.object span properties) child
  | operand {span : Span} {operator : UnaryOperator} {argument : Node}
      (constant : operator ≠ .delete) : Needs bindings (.unary span operator argument) argument
  | binaryLeft {span : Span} {operator : BinaryOperator} {left right : Node}
      (constant : hasConstants operator = true) :
      Needs bindings (.binary span operator left right) left
  | binaryRight {span : Span} {operator : BinaryOperator} {left right : Node}
      (constant : hasConstants operator = true) :
      Needs bindings (.binary span operator left right) right
  | logicalLeft {span : Span} {operator : LogicalOperator} {left right : Node} :
      Needs bindings (.logical span operator left right) left
  | logicalRight {span : Span} {operator : LogicalOperator} {left right : Node} {value : Value}
      (onLeft : Denotes bindings left value) (continues : operator.decidedBy value = false) :
      Needs bindings (.logical span operator left right) right
  | test {span : Span} {test consequent alternate : Node} :
      Needs bindings (.conditional span test consequent alternate) test
  | branch {span : Span} {test consequent alternate : Node} {condition : Value}
      (onTest : Denotes bindings test condition) :
      Needs bindings (.conditional span test consequent alternate)
        (if condition.truthy then consequent else alternate)
  | owner {span : Span} {owner property : Node} {isComputed : Bool} :
      Needs bindings (.member span owner property isComputed false) owner
  | selector {span : Span} {owner property : Node} {target : Value}
      (onOwner : Denotes bindings owner target) (real : target.isNullish = false) :
      Needs bindings (.member span owner property true false) property
  | argument {span : Span} {callee child : Node} {arguments : List Node} {function : ConstantCall}
      (named : calledFunction? bindings callee = some function)
      (demanded : ElementsDemand (Denotes bindings) (arguments.map some) child) :
      Needs bindings (.call span callee arguments false) child

/--
An expression is folded for another one: because its value is needed, or ahead of a chain of
operators that it belongs to.
-/
inductive Demands (bindings : BindingTable) : Node → Node → Prop
  | needed {node child : Node} (needs : Needs bindings node child) : Demands bindings node child
  | aheadBinary {span : Span} {operator : BinaryOperator} {left right child : Node}
      (constant : hasConstants operator = true) (ahead : child ∈ chainOperators left) :
      Demands bindings (.binary span operator left right) child
  | aheadLogical {span : Span} {operator : LogicalOperator} {left right child : Node}
      (ahead : child ∈ chainOperators left) :
      Demands bindings (.logical span operator left right) child

theorem DerivedWithin.agrees {height : Nat} {node : Node} {value other : Value}
    (derived : DerivedWithin bindings height node value) (denotes : Denotes bindings node other) :
    value = other :=
  Denotes.unique ⟨height, derived⟩ denotes

section Strictness

variable {height : Nat}

theorem ElementsDemand.derived {elements : List (Option Node)} {values : List Value} {child : Node}
    (demanded : ElementsDemand (Denotes bindings) elements child)
    (derived : ElementsHave (DerivedWithin bindings height) elements values) :
    ∃ value, DerivedWithin bindings height child value := by
  induction demanded generalizing values with
  | first =>
      cases derived with
      | element own => exact ⟨_, own⟩
  | later _ _ ih =>
      cases derived with
      | hole following => exact ih following
      | element _ _ following => exact ih following

theorem PropertiesDemand.derived {before after : OrderedMap Text Value}
    {properties : List Property} {child : Node}
    (demanded : PropertiesDemand (Denotes bindings) properties child)
    (derived : PropertiesHave (DerivedWithin bindings height) before properties after) :
    ∃ value, DerivedWithin bindings height child value := by
  induction demanded generalizing before with
  | key =>
      cases derived with
      | pair keyed =>
          cases keyed with
          | computed own => exact ⟨_, own⟩
  | value =>
      cases derived with
      | pair _ own => exact ⟨_, own⟩
  | shorthand =>
      cases derived with
      | shorthand own => exact ⟨_, own⟩
  | spread =>
      cases derived with
      | spread own => exact ⟨_, own⟩
  | later _ _ ih =>
      cases derived with
      | pair _ _ following => exact ih following
      | shorthand _ following => exact ih following
      | spread _ following => exact ih following

theorem TemplateDemands.derived {before after : Text} {parts : List (Node × Text)} {child : Node}
    (demanded : TemplateDemands (Denotes bindings) parts child)
    (derived : TemplateHas (DerivedWithin bindings height) before parts after) :
    ∃ value, DerivedWithin bindings height child value := by
  induction demanded generalizing before with
  | first =>
      cases derived with
      | part own => exact ⟨_, own⟩
  | later _ _ ih =>
      cases derived with
      | part _ next => exact ih next

/-- In a chain with a value, every operator has a value. -/
theorem chainOperators_derived {node child : Node} {value : Value}
    (derived : DerivedWithin bindings height node value) (ahead : child ∈ chainOperators node) :
    ∃ value, DerivedWithin bindings height child value := by
  induction height generalizing node value with
  | zero => exact derived.elim
  | succ height ih =>
      cases node with
      | binary span operator left right =>
          rcases List.mem_cons.mp ahead with rfl | ahead
          · exact ⟨value, derived⟩
          · cases derived with
            | binary _ onLeft =>
                rcases ih onLeft ahead with ⟨value, own⟩
                exact ⟨value, own.succ⟩
      | logical span operator left right =>
          rcases List.mem_cons.mp ahead with rfl | ahead
          · exact ⟨value, derived⟩
          · cases derived with
            | decided onLeft | undecided onLeft =>
                rcases ih onLeft ahead with ⟨value, own⟩
                exact ⟨value, own.succ⟩
      | _ => simp [chainOperators] at ahead

theorem Needs.derived {node child : Node} {value : Value} (needs : Needs bindings node child)
    (derived : DerivedWithin bindings (height + 1) node value) :
    ∃ value, DerivedWithin bindings height child value := by
  cases needs with
  | definition ordinary found =>
      cases derived with
      | undefined => exact absurd rfl ordinary
      | definition _ found' own =>
          cases found.symm.trans found'
          exact ⟨_, own⟩
      | global _ missing => cases found.symm.trans missing
  | substitution demanded =>
      cases derived with
      | template filled => exact demanded.derived filled
  | element demanded =>
      cases derived with
      | array filled => exact demanded.derived filled
  | property demanded =>
      cases derived with
      | object filled => exact demanded.derived filled
  | operand =>
      cases derived with
      | unary _ own => exact ⟨_, own⟩
  | binaryLeft =>
      cases derived with
      | binary _ onLeft => exact ⟨_, onLeft⟩
  | binaryRight =>
      cases derived with
      | binary _ _ onRight => exact ⟨_, onRight⟩
  | logicalLeft =>
      cases derived with
      | decided onLeft | undecided onLeft => exact ⟨_, onLeft⟩
  | logicalRight denotes continues =>
      cases derived with
      | decided onLeft decides =>
          cases onLeft.agrees denotes
          cases decides.symm.trans continues
      | undecided _ _ onRight => exact ⟨_, onRight⟩
  | test =>
      cases derived with
      | conditional onTest => exact ⟨_, onTest⟩
  | branch denotes =>
      cases derived with
      | conditional onTest onBranch =>
          cases onTest.agrees denotes
          exact ⟨_, onBranch⟩
  | owner =>
      cases derived with
      | member onOwner => exact ⟨_, onOwner⟩
  | selector =>
      cases derived with
      | member _ _ selected =>
          cases selected with
          | computed own => exact ⟨_, own⟩
  | argument named demanded =>
      cases derived with
      | call named' given =>
          exact demanded.derived given

/-- Folding is strict: what an expression with a value demands has a value by a shorter
derivation. -/
theorem Demands.derived {node child : Node} {value : Value} (demands : Demands bindings node child)
    (derived : DerivedWithin bindings (height + 1) node value) :
    ∃ value, DerivedWithin bindings height child value := by
  cases demands with
  | needed needs => exact needs.derived derived
  | aheadBinary _ ahead =>
      cases derived with
      | binary _ onLeft => exact chainOperators_derived onLeft ahead
  | aheadLogical ahead =>
      cases derived with
      | decided onLeft | undecided onLeft => exact chainOperators_derived onLeft ahead

end Strictness

/-- What an expression with a value demands has a value. -/
theorem Denotes.of_demands {node child : Node} {value : Value}
    (denotes : Denotes bindings node value) (demands : Demands bindings node child) :
    ∃ own, Denotes bindings child own := by
  rcases denotes with ⟨height, derived⟩
  rcases demands.derived derived.succ with ⟨own, derived⟩
  exact ⟨own, height, derived⟩

theorem derived_of_transGen_demands {height : Nat} {node child : Node} {value : Value}
    (reaches : Relation.TransGen (Demands bindings) node child)
    (derived : DerivedWithin bindings (height + 1) node value) :
    ∃ value, DerivedWithin bindings height child value := by
  induction reaches with
  | single demands => exact demands.derived derived
  | tail _ demands ih =>
      rcases ih with ⟨value, own⟩
      exact demands.derived own.succ

/-- An expression that demands itself, at whatever distance, has no value. -/
theorem not_denotes_of_demands_itself {node : Node}
    (cycle : Relation.TransGen (Demands bindings) node node) (value : Value) :
    ¬Denotes bindings node value := by
  rintro ⟨height, derived⟩
  -- A derivation of the expression would hold a smaller one of it, and so on without end.
  induction height generalizing value with
  | zero => exact derived
  | succ height ih =>
      rcases derived_of_transGen_demands cycle derived with ⟨value, shorter⟩
      exact ih value shorter

end ComponentInliner.Fold
