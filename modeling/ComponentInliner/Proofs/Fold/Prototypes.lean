import ComponentInliner.Proofs.Fold.Canonical
import ComponentInliner.Proofs.Fold.Objects

/-!
# Prototypes

A property `__proto__: value` of an object literal makes no property but sets the prototype of the
object, unless its key is computed or it is a shorthand. Then it depends on the prototype what the
object has under a name that is not its own. Folding knows no prototypes: it takes the property for
one of the object's own. So what is read is due to the prototype only where it fails, at the names
that all objects inherit but for `__proto__` itself; at `__proto__` the prototype is read, also from
a copy of the object, and any other name is undefined (`evaluate_leftToPrototype`).
-/

namespace ComponentInliner

open Fold

/-- The key by which an object literal sets a prototype. -/
def prototypeName : Text := "__proto__"

namespace OrderedMap

variable {Key Entry : Type} [DecidableEq Key]

theorem empty_insertAll {map : OrderedMap Key Entry} (distinct : map.Distinct) :
    empty.insertAll map = map := by
  rcases map with ⟨entries⟩
  exact congrArg OrderedMap.mk (entries_ofList distinct)

/-- What has nothing at a key leaves alone what is found there. -/
theorem get?_foldl_insertAll {parts : List (OrderedMap Key Entry)} {key : Key}
    (distinct : ∀ part ∈ parts, part.Distinct) (silent : ∀ part ∈ parts, part.get? key = none)
    (map : OrderedMap Key Entry) : (parts.foldl insertAll map).get? key = map.get? key := by
  induction parts generalizing map with
  | nil => rfl
  | cons part rest ih =>
      rcases List.forall_mem_cons.mp distinct with ⟨partDistinct, restDistinct⟩
      rcases List.forall_mem_cons.mp silent with ⟨partSilent, restSilent⟩
      rw [List.foldl_cons, ih restDistinct restSilent, get?_insertAll partDistinct, partSilent,
        Option.none_or]

/-- Of maps that are put together, a single one decides what is found at a key if the others have
nothing there. -/
theorem get?_foldl_between {front back : List (OrderedMap Key Entry)} {part : OrderedMap Key Entry}
    {key : Key} (distinct : ∀ map ∈ front ++ part :: back, map.Distinct)
    (silentFront : ∀ map ∈ front, map.get? key = none)
    (silentBack : ∀ map ∈ back, map.get? key = none) :
    ((front ++ part :: back).foldl insertAll empty).get? key = part.get? key := by
  rcases List.forall_mem_append.mp distinct with ⟨frontDistinct, distinct⟩
  rcases List.forall_mem_cons.mp distinct with ⟨partDistinct, backDistinct⟩
  rw [List.foldl_append, List.foldl_cons, get?_foldl_insertAll backDistinct silentBack,
    get?_insertAll partDistinct, get?_foldl_insertAll frontDistinct silentFront, get?_empty,
    Option.or_none]

end OrderedMap

namespace Fold

variable {bindings : BindingTable}

/-- A property of an object literal sets the prototype of the object. -/
inductive SetsPrototype : Property → Prop
  | written {span : Span} {key node : Node}
      (spelled : writtenKey? key = some (.string prototypeName)) :
      SetsPrototype (.pair span key false node)

/-- An argument of `Object.assign`, or what it spreads, provides a value for a name. -/
def ArgumentProvides (bindings : BindingTable) (argument : Node) (name : Text) (value : Value) :
    Prop :=
  ∃ given sources source, Denotes bindings (elementOperand argument) given ∧
    elementValues? argument given = some sources ∧ source ∈ sources ∧
      (ConstantCall.ownProperties source).get? name = some value

/-- A prototype is set for an object, and nothing else that is put into the object or into a copy of
it provides anything for a name. -/
inductive LeftToPrototype (bindings : BindingTable) (name : Text) (prototype : Value) : Node → Prop
  | literal {span own : Span} {before after : List Property} {key node : Node}
      (spelled : writtenKey? key = some (.string prototypeName))
      (set : Denotes bindings node prototype) (last : ∀ piece ∈ after, ¬SetsPrototype piece)
      (silent : ∀ piece ∈ before ++ after, ¬SetsPrototype piece →
        ∀ value, ¬Provides bindings piece name value) :
      LeftToPrototype bindings name prototype
        (.object span (before ++ .pair own key false node :: after))
  | spread {span own : Span} {before after : List Property} {source : Node}
      (copied : LeftToPrototype bindings name prototype source)
      (silent : ∀ piece ∈ before ++ after, ∀ value, ¬Provides bindings piece name value) :
      LeftToPrototype bindings name prototype
        (.object span (before ++ .spread own source :: after))
  | assign {span : Span} {callee source : Node} {before after : List Node}
      (called : calledFunction? bindings callee = some .objectAssign)
      (copied : LeftToPrototype bindings name prototype source)
      (silent : ∀ argument ∈ before ++ after, ∀ value,
        ¬ArgumentProvides bindings argument name value) :
      LeftToPrototype bindings name prototype
        (.call span callee (before ++ source :: after) false)
  | same {source node : Node} {value : Value}
      (copied : LeftToPrototype bindings name prototype source)
      (made : Denotes bindings source value) (again : Denotes bindings node value) :
      LeftToPrototype bindings name prototype node

section Pieces

variable {piece : Property} {before after pieces : List Property} {name : Text}
  {prototype value : Value}

/-- A property that sets a prototype provides it under the key. -/
theorem provides_prototype_iff {span : Span} {key node : Node}
    (spelled : writtenKey? key = some (.string prototypeName))
    (set : Denotes bindings node prototype) :
    Provides bindings (.pair span key false node) name value ↔
      name = prototypeName ∧ value = prototype := by
  have adds : Adds bindings (.pair span key false node) ⟨[(prototypeName, prototype)]⟩ :=
    .pair (.written spelled rfl) set
  rw [adds.provides_iff, OrderedMap.get?_cons]
  by_cases isPrototype : name = prototypeName
  · simp [isPrototype, eq_comm]
  · simp [isPrototype, OrderedMap.get?]

/-- A property that sets a prototype provides nothing under another name. -/
theorem SetsPrototype.silent (sets : SetsPrototype piece) (other : name ≠ prototypeName) :
    ¬Provides bindings piece name value := by
  intro provides
  rcases id provides with ⟨added, adds, -⟩
  cases sets with
  | written spelled =>
      cases adds with
      | pair _ own => exact other ((provides_prototype_iff spelled own).mp provides).1

theorem lastProvides_append (provides : Provides bindings piece name value)
    (silent : ∀ later ∈ after, ∀ other, ¬Provides bindings later name other) :
    LastProvides bindings name value (before ++ piece :: after) := by
  induction before with
  | nil => exact .here provides silent
  | cons first rest ih => exact .later ih

theorem LastProvides.exists_provides (last : LastProvides bindings name value pieces) :
    ∃ piece ∈ pieces, Provides bindings piece name value := by
  induction last with
  | here own => exact ⟨_, List.mem_cons_self .., own⟩
  | later _ ih =>
      rcases ih with ⟨piece, mem, provides⟩
      exact ⟨piece, List.mem_cons_of_mem _ mem, provides⟩

/-- Where no other piece provides anything, the only one left does. -/
theorem LastProvides.of_silent (last : LastProvides bindings name value (before ++ piece :: after))
    (silent : ∀ other ∈ before ++ after, ¬Provides bindings other name value) :
    Provides bindings piece name value := by
  rcases last.exists_provides with ⟨provider, mem, provided⟩
  rcases List.mem_cons.mp (List.perm_middle.mem_iff.mp mem) with rfl | mem
  · exact provided
  · exact absurd provided (silent provider mem)

end Pieces

section Arguments

variable {arguments : List Node} {values : List Value} {name : Text}

theorem ElementsHave.append {has : Node → Value → Prop} {first second : List (Option Node)}
    (derived : ElementsHave has (first ++ second) values) :
    ∃ front back, values = front ++ back ∧ ElementsHave has first front ∧
      ElementsHave has second back := by
  induction first generalizing values with
  | nil => exact ⟨[], values, rfl, .nil, derived⟩
  | cons element rest ih =>
      cases derived with
      | hole following =>
          rcases ih following with ⟨front, back, rfl, onRest, onSecond⟩
          exact ⟨_ :: front, back, rfl, .hole onRest, onSecond⟩
      | element own adds following =>
          rcases ih following with ⟨front, back, rfl, onRest, onSecond⟩
          exact ⟨_ ++ front, back, (List.append_assoc ..).symm, .element own adds onRest, onSecond⟩

/-- Arguments that provide nothing for a name are values without a property of that name. -/
theorem ElementsHave.silent
    (given : ElementsHave (Denotes bindings) (arguments.map some) values)
    (silent : ∀ argument ∈ arguments, ∀ value, ¬ArgumentProvides bindings argument name value) :
    ∀ value ∈ values, (ConstantCall.ownProperties value).get? name = none := by
  induction arguments generalizing values with
  | nil =>
      cases given
      exact List.forall_mem_nil _
  | cons argument rest ih =>
      rcases List.forall_mem_cons.mp silent with ⟨silentFirst, silentRest⟩
      cases given with
      | element own adds following =>
          refine List.forall_mem_append.mpr ⟨fun source mem => ?_, ih following silentRest⟩
          by_contra present
          rcases Option.ne_none_iff_exists'.mp present with ⟨value, found⟩
          exact silentFirst value ⟨_, _, source, own, adds, mem, found⟩

/-- `Object.assign` puts together the properties of its arguments. -/
theorem assign_result {origin : Span} (keyed : ∀ value ∈ values, value.Keyed) :
    ConstantCall.objectAssign.result origin values = .ok (.record origin
      ((values.map ConstantCall.ownProperties).foldl OrderedMap.insertAll .empty)) := by
  cases values with
  | nil => rfl
  | cons first rest =>
      have onFirst : (ConstantCall.ownProperties first).Keyed :=
        .ofValue (keyed first (List.mem_cons_self ..))
      rw [List.map_cons, List.foldl_cons, OrderedMap.empty_insertAll onFirst.distinct,
        List.foldl_map]
      rfl

end Arguments

theorem LeftToPrototype.ne_spread {name : Text} {prototype : Value} {node : Node}
    (left : LeftToPrototype bindings name prototype node) (span : Span) (argument : Node) :
    node ≠ .spread span argument := by
  cases left with
  | same _ _ again => exact again.ne_spread span argument
  | literal | spread | assign => nofun

/-- An object that leaves a name to its prototype has the name only if it is `__proto__`, and then
what is found is the prototype. -/
theorem LeftToPrototype.get? {name : Text} {prototype value : Value} {node : Node}
    (left : LeftToPrototype bindings name prototype node) (denotes : Denotes bindings node value) :
    ∃ origin properties, value = .record origin properties ∧
      properties.get? name = if name = prototypeName then some prototype else none := by
  induction left generalizing value with
  | @literal span own before after key node spelled set last silent =>
      have provides (value : Value) : Provides bindings (.pair own key false node) name value ↔
          name = prototypeName ∧ value = prototype := provides_prototype_iff spelled set
      rcases denotes.get?_object with ⟨properties, rfl, found⟩
      refine ⟨_, _, rfl, ?_⟩
      split
      · next isPrototype =>
          refine (found ..).mpr (lastProvides_append ((provides _).mpr ⟨isPrototype, rfl⟩) ?_)
          exact fun piece mem => silent piece (List.mem_append_right _ mem) (last piece mem)
      · next other =>
          refine Option.eq_none_iff_forall_ne_some.mpr fun value present => other ?_
          have provided := ((found ..).mp present).of_silent fun piece mem provided =>
            silent piece mem (fun sets => sets.silent other provided) value provided
          exact ((provides value).mp provided).1
  | @spread span own before after source copied silent ih =>
      rcases denotes.get?_object with ⟨properties, rfl, found⟩
      rcases denotes.exists_adds (List.mem_append_right _ (List.mem_cons_self ..)) with
        ⟨added, adds⟩
      cases id adds with
      | spread onSource =>
          rcases ih onSource with ⟨_, _, ⟨⟩, own⟩
          refine ⟨_, _, rfl, own ▸ Option.ext fun value => ?_⟩
          rw [found, ← adds.provides_iff]
          constructor
          · exact fun last => last.of_silent fun piece mem => silent piece mem value
          · exact fun provided => lastProvides_append provided fun piece mem =>
              silent piece (List.mem_append_right _ mem)
  | @assign span callee source before after called copied silent ih =>
      cases denotes_iff_rule.mp denotes with
      | @call _ _ _ _ values _ named given computed =>
          cases called.symm.trans named
          have keyed := given.keyed Denotes.keyed
          rw [assign_result keyed] at computed
          cases computed
          rw [List.map_append, List.map_cons] at given
          rcases given.append with ⟨front, rest, rfl, onBefore, onRest⟩
          rcases elementOperand_of_ne copied.ne_spread with ⟨same, single⟩
          cases onRest with
          | @element _ value _ back _ own adds onAfter =>
              cases (single value).symm.trans adds
              rcases ih (same ▸ own) with ⟨origin, properties, rfl, found⟩
              have distinct := List.forall_mem_map.mpr fun given mem =>
                (OrderedMap.Keyed.ofValue (keyed given mem)).distinct
              rw [List.map_append, List.singleton_append, List.map_cons] at distinct ⊢
              refine ⟨_, _, rfl, found ▸ OrderedMap.get?_foldl_between distinct ?_ ?_⟩
              · exact List.forall_mem_map.mpr (onBefore.silent fun argument mem =>
                  silent argument (List.mem_append_left _ mem))
              · exact List.forall_mem_map.mpr (onAfter.silent fun argument mem =>
                  silent argument (List.mem_append_right _ mem))
  | same _ made again ih =>
      rw [denotes.unique again]
      exact ih made

end Fold

namespace Folder

/--
What a folder reads at a name that is left to the prototype of an object, in the object itself or in
a copy: nothing at the names that every object inherits, but for `__proto__`, where it finds the
prototype; any other name is undefined. So some folder finds a value for a property access with such
a name, computed or not, unless the name is inherited and not `__proto__`.
-/
theorem evaluate_leftToPrototype {bindings : BindingTable} {limit : Nat} {node : Node}
    {name : Text} {prototype value key : Value}
    (left : LeftToPrototype bindings name prototype node)
    (folded : ((within limit bindings).evaluate node).1 = .ok (some value))
    (converted : key.toPropertyKey = .ok name) :
    value.getProperty key = (
      if name = prototypeName then .ok prototype
      else if name ∈ Value.inheritedNames then .error (.inheritedProperty name)
      else .ok .undefined) ∧
    ∀ span property isComputed, SelectorHas (Denotes bindings) property isComputed key →
      ((∃ limit read, ((within limit bindings).evaluate
          (.member span node property isComputed false)).1 = .ok (some read)) ↔
        (name ∈ Value.inheritedNames → name = prototypeName)) := by
  have denotes := denotes_of_evaluate folded
  rcases left.get? denotes with ⟨origin, properties, rfl, found⟩
  have read : (Value.record origin properties).getProperty key = (
      if name = prototypeName then .ok prototype
      else if name ∈ Value.inheritedNames then .error (.inheritedProperty name)
      else .ok .undefined) := by
    rw [Value.getProperty_record converted, found]
    by_cases isPrototype : name = prototypeName
    · simp [isPrototype]
    · simp [isPrototype]
  refine ⟨read, fun span property isComputed selected => ⟨?_, ?_⟩⟩
  · rintro ⟨limit, result, answered⟩ inherited
    cases denotes_iff_rule.mp (denotes_of_evaluate answered) with
    | member onOwner _ selected' read' =>
        cases onOwner.unique denotes
        cases selected'.unique (fun _ _ _ first second => first.unique second) selected
        by_contra other
        rw [read', if_neg other, if_pos inherited] at read
        cases read
  · intro reached
    have found : ∃ result, (Value.record origin properties).getProperty key = .ok result := by
      rw [read]
      split_ifs with isPrototype inherited
      · exact ⟨_, rfl⟩
      · exact absurd (reached inherited) isPrototype
      · exact ⟨_, rfl⟩
    rcases found with ⟨result, found⟩
    rcases exists_evaluate_of_denotes (.of_rule (.member denotes rfl selected found)) with
      ⟨limit, answered⟩
    exact ⟨limit, result, List.head_eq_of_cons_eq answered⟩

/-- A copy of an object with a prototype of its own fails at a name that all objects inherit. -/
theorem evaluate_leftToPrototype_of_copy :
    let text (span : Span) (points : Text) : Node := .literal span (.string points) points
    let source : Node := .object ⟨20, 43⟩
      [.pair ⟨22, 41⟩ (.identifier ⟨22, 31⟩ "__proto__") false (.object ⟨33, 41⟩ [])]
    let beside : Property := .pair ⟨45, 51⟩ (.identifier ⟨45, 46⟩ "b") false (text ⟨48, 51⟩ "y")
    let node : Node := .object ⟨15, 53⟩ [.spread ⟨17, 43⟩ source, beside]
    ∃ value, ((within Fold.nestingLimit .empty).evaluate node).1 = .ok (some value) ∧
      value.getProperty (.string "toString") = .error (.inheritedProperty "toString") ∧
      ∀ limit read, ((within limit .empty).evaluate
        (.member ⟨14, 63⟩ node (.identifier ⟨55, 63⟩ "toString") false false)).1 ≠
          .ok (some read) := by
  intro text source beside node
  let bindings : BindingTable := .empty
  have setting : LeftToPrototype bindings "toString" (.record ⟨33, 41⟩ .empty) source :=
    @LeftToPrototype.literal _ _ _ _ _ [] [] _ _ rfl (.of_rule (.object .nil))
      (List.forall_mem_nil _) (List.forall_mem_nil _)
  have adds : Adds bindings beside ⟨[("b", .string "y")]⟩ :=
    .pair (.written rfl rfl) (.of_rule (.literal rfl))
  have silent : ∀ piece ∈ [beside], ∀ value, ¬Provides bindings piece "toString" value :=
    List.forall_mem_singleton.mpr fun value provided => nomatch adds.provides_iff.mp provided
  have left : LeftToPrototype bindings "toString" (.record ⟨33, 41⟩ .empty) node :=
    @LeftToPrototype.spread _ _ _ _ _ [] [beside] _ setting silent
  have isFolded : ((within Fold.nestingLimit bindings).evaluate node).1.toOption.join.isSome =
      true := by
    decide +kernel
  rcases Option.isSome_iff_exists.mp isFolded with ⟨value, found⟩
  have folded := toOption_eq_some.mp (Option.join_eq_some_iff.mp found)
  rcases @evaluate_leftToPrototype _ _ _ _ _ _ (.string "toString") left folded rfl with
    ⟨read, accesses⟩
  refine ⟨value, folded, read, fun limit result answered => ?_⟩
  have reached := (accesses ⟨14, 63⟩ (.identifier ⟨55, 63⟩ "toString") false (.written rfl)).mp
    ⟨limit, result, answered⟩
  exact absurd (reached (by decide)) (by decide)

/-- The prototype has the property, and the object that leaves it to the prototype does not. -/
theorem evaluate_undefined_beside_prototype :
    let source : Text := "const value = (\x7b __proto__: \x7b a: 'x' \x7d \x7d).a;"
    let inner : Node := .object ⟨28, 38⟩
      [.pair ⟨30, 36⟩ (.identifier ⟨30, 31⟩ "a") false (.literal ⟨33, 36⟩ (.string "x") "'x'")]
    let piece : Property := .pair ⟨17, 38⟩ (.identifier ⟨17, 26⟩ "__proto__") false inner
    let read : Node :=
      .member ⟨14, 43⟩ (.object ⟨15, 40⟩ [piece]) (.identifier ⟨42, 43⟩ "a") false false
    ∃ module, Module.parse source = .ok module ∧ definition? module "value" = some read ∧
      SetsPrototype piece ∧
        ((within Fold.nestingLimit module.bindings).evaluate read).1 = .ok (some .undefined) := by
  intro source inner piece read
  have spelled : (Module.parse source).toOption.bind (definition? · "value") = some read := by
    decide +kernel
  have folded : (Module.parse source).toOption.bind (fun module =>
      ((within Fold.nestingLimit module.bindings).evaluate read).1.toOption.join.map
        Value.typeName) = some .undefined := by
    decide +kernel
  rcases Option.bind_eq_some_iff.mp spelled with ⟨module, parsed, defined⟩
  rw [parsed, Option.bind_some] at folded
  rcases Option.map_eq_some_iff.mp folded with ⟨value, answered, isUndefined⟩
  refine ⟨module, toOption_eq_some.mp parsed, defined, .written rfl, ?_⟩
  cases value with
  | undefined => exact toOption_eq_some.mp (Option.join_eq_some_iff.mp answered)
  | _ => cases isUndefined

end Folder

end ComponentInliner
