import ComponentInliner.Module.Parse
import ComponentInliner.Proofs.Fold.Breaking
import ComponentInliner.Proofs.Fold.Exactness
import ComponentInliner.Proofs.OrderedMap
import Mathlib.Data.List.TakeWhile

/-!
# Names that hide global ones

The folded functions and the global constants are reached by names that a module may take for
itself. Then a call through such a name does not call the global function, and the name is not the
global constant. A module is taken to hide a name if its binding table has the name: if the name is
that of a function or a class, or of a variable with an initial value that is declared by its name
(`hides_iff_defines`). A variable without an initial value, a pattern and a default export hide
nothing, although they declare names too (`not_hides_without_initial`).
-/

namespace ComponentInliner

open Script Fold

namespace OrderedMap

variable {Key Entry : Type} [DecidableEq Key]

theorem mem_keys_ofList {entries : List (Key × Entry)} {key : Key} :
    key ∈ (ofList entries).keys ↔ key ∈ entries.map Prod.fst := by
  have onAll (map : OrderedMap Key Entry) :
      key ∈ (entries.foldl (fun map entry => map.insert entry.1 entry.2) map).keys ↔
        key ∈ map.keys ∨ key ∈ entries.map Prod.fst := by
    induction entries generalizing map with
    | nil => simp
    | cons entry rest ih =>
        rw [List.foldl_cons, ih, keys_insert, List.map_cons, List.mem_cons, ← or_assoc]
        refine or_congr_left ?_
        split
        · next present => exact ⟨.inl, fun mem => mem.elim id fun same => same ▸ present⟩
        · simp
  exact (onAll .empty).trans (by simp [keys, empty])

end OrderedMap

namespace Fold

/-- The names by which the folded functions and the global constants are reached. -/
def globalNames : List Text :=
  (ConstantCall.all.map ConstantCall.root ++ ["NaN", "Infinity"]).map Text.ofString

/-- A callee is a name or a property of it, however the property is written. -/
inductive RootedAt (name : Text) : Node → Prop
  | bare {span : Span} : RootedAt name (.identifier span name)
  | member {span ownerSpan : Span} {property : Node} {isComputed isOptional : Bool} :
      RootedAt name (.member span (.identifier ownerSpan name) property isComputed isOptional)

/-- The value of an expression is not due to what a name means outside of the module: the
expression is no call through the name, and as the name it has the value of its definition. -/
structure Respects (bindings : BindingTable) (name : Text) (node : Node) (value : Value) :
    Prop where
  uncalled : ∀ span callee arguments isOptional, node = .call span callee arguments isOptional →
    ¬RootedAt name callee
  defined : ∀ span, node = .identifier span name → ∃ definition,
    bindings.get? name = some (.expression definition) ∧ Denotes bindings definition value

theorem globalNames_ordinary : ∀ name ∈ globalNames,
    CodePoint.ofChar '.' ∉ name ∧ name ≠ "undefined" := by
  decide

section Calls

variable {bindings : BindingTable} {name text : Text} {callee : Node} {function : ConstantCall}

/-- The root of a function is its name up to the dot. -/
theorem root_of_ofName? (named : ConstantCall.ofName? text = some function) :
    Text.ofString function.root =
      text.takeWhile fun point => decide (point ≠ CodePoint.ofChar '.') := by
  have same : Text.ofString function.name = text := by
    simpa using List.find?_some named
  subst same
  cases function <;> decide

theorem calleeName?_of_rootedAt (rooted : RootedAt name callee)
    (spelled : calleeName? callee = some text) :
    text = name ∨ ∃ property : Text, text = name ++ CodePoint.ofChar '.' :: property := by
  cases rooted with
  | bare => exact .inl (Option.some.inj spelled).symm
  | member =>
      unfold calleeName? at spelled
      split at spelled
      · next same => cases same
      · next same =>
          cases same
          split at spelled
          · exact .inr ⟨_, (Option.some.inj spelled).symm.trans (List.append_assoc ..)⟩
          · exact .inr ⟨_, (Option.some.inj spelled).symm.trans (List.append_assoc ..)⟩
          · cases spelled
      · cases spelled

/-- A folded function that is called through a name has the name as its root, and the module does
not define it. -/
theorem root_of_calledFunction? (undotted : CodePoint.ofChar '.' ∉ name)
    (rooted : RootedAt name callee) (called : calledFunction? bindings callee = some function) :
    bindings.contains name = false := by
  unfold calledFunction? at called
  rcases Option.bind_eq_some_iff.mp called with ⟨text, spelled, called⟩
  rcases Option.bind_eq_some_iff.mp called with ⟨named, isNamed, called⟩
  have root : Text.ofString named.root = name := by
    have noDot : ∀ point ∈ name, decide (point ≠ CodePoint.ofChar '.') = true :=
      fun point mem => decide_eq_true fun isDot => undotted (isDot ▸ mem)
    rw [root_of_ofName? isNamed]
    rcases calleeName?_of_rootedAt rooted spelled with rfl | ⟨property, rfl⟩
    · exact List.takeWhile_eq_self_iff.mpr noDot
    · rw [List.takeWhile_append_of_pos noDot]
      simp
  rw [root] at called
  split at called
  · cases called
  · next absent => exact Bool.eq_false_iff.mpr absent

/-- How a function is named in a callee. -/
def calleeOf (span : Span) : ConstantCall → Node
  | .objectAssign => .member span (.identifier span "Object") (.identifier span "assign") false false
  | .objectFreeze => .member span (.identifier span "Object") (.identifier span "freeze") false false
  | .arrayFrom => .member span (.identifier span "Array") (.identifier span "from") false false
  | .string => .identifier span "String"
  | .number => .identifier span "Number"
  | .boolean => .identifier span "Boolean"

theorem rootedAt_calleeOf (span : Span) (function : ConstantCall) :
    RootedAt (Text.ofString function.root) (calleeOf span function) := by
  cases function <;> constructor

theorem calledFunction?_of_calleeName?
    (spelled : calleeName? callee = some (Text.ofString function.name))
    (undefined : bindings.contains (Text.ofString function.root) = false) :
    calledFunction? bindings callee = some function := by
  have named : ConstantCall.ofName? (Text.ofString function.name) = some function := by
    cases function <;> decide
  unfold calledFunction?
  simp [spelled, named, undefined]

theorem calledFunction?_calleeOf (span : Span)
    (undefined : bindings.contains (Text.ofString function.root) = false) :
    calledFunction? bindings (calleeOf span function) = some function := by
  refine calledFunction?_of_calleeName? ?_ undefined
  cases function <;> rfl

/-- A function that the module does not hide is folded when it is called with an empty string. -/
theorem exists_denotes_call (function : ConstantCall)
    (undefined : bindings.contains (Text.ofString function.root) = false) :
    ∃ span callee arguments value, RootedAt (Text.ofString function.root) callee ∧
      Denotes bindings (.call span callee arguments false) value := by
  have given : ElementsHave (Denotes bindings) [some (.literal default (.string []) [])]
      ([.string []] ++ []) :=
    .element (Denotes.of_rule (.literal rfl)) rfl .nil
  have computed : ∃ value, function.result default [.string []] = .ok value := by
    cases function <;> exact ⟨_, rfl⟩
  rcases computed with ⟨value, computed⟩
  exact ⟨default, calleeOf default function, [.literal default (.string []) []], value,
    rootedAt_calleeOf default function,
    Denotes.of_rule (.call (calledFunction?_calleeOf default undefined) given computed)⟩

end Calls

section Values

variable {bindings : BindingTable} {name : Text}

theorem respects_of_denotes (isGlobal : name ∈ globalNames)
    (isDefined : bindings.contains name = true) {node : Node} {value : Value}
    (denotes : Denotes bindings node value) : Respects bindings name node value := by
  rcases globalNames_ordinary name isGlobal with ⟨undotted, ordinary⟩
  constructor
  · rintro span callee arguments isOptional rfl rooted
    cases denotes_iff_rule.mp denotes with
    | call called =>
        rw [root_of_calledFunction? undotted rooted called] at isDefined
        cases isDefined
  · rintro span rfl
    cases denotes_iff_rule.mp denotes with
    | undefined => exact absurd rfl ordinary
    | definition _ found own => exact ⟨_, found, own⟩
    | global _ missing =>
        simp [OrderedMap.contains, missing] at isDefined

/-- Where a module does not define a global name, some value is due to the global meaning. -/
theorem exists_disrespectful (isGlobal : name ∈ globalNames)
    (undefined : bindings.contains name = false) :
    ∃ node value, Denotes bindings node value ∧ ¬Respects bindings name node value := by
  have missing : bindings.get? name = none := by
    simpa [OrderedMap.contains] using undefined
  have isCallOrConstant : (∃ function : ConstantCall, Text.ofString function.root = name) ∨
      ∃ value, globalConstant? name = some value := by
    unfold globalNames at isGlobal
    rw [List.map_append, List.map_map, List.mem_append] at isGlobal
    rcases isGlobal with ofCall | ofConstant
    · rcases List.mem_map.mp ofCall with ⟨function, -, same⟩
      exact .inl ⟨function, same⟩
    · simp only [List.map_cons, List.map_nil, List.mem_cons, List.not_mem_nil, or_false]
        at ofConstant
      rcases ofConstant with rfl | rfl
      · exact .inr ⟨_, rfl⟩
      · exact .inr ⟨_, rfl⟩
  rcases isCallOrConstant with ⟨function, rfl⟩ | ⟨value, known⟩
  · rcases exists_denotes_call function undefined with
      ⟨span, callee, arguments, value, rooted, denotes⟩
    exact ⟨_, value, denotes, fun respects => respects.uncalled _ _ _ _ rfl rooted⟩
  · have ordinary := (globalNames_ordinary name isGlobal).2
    refine ⟨.identifier default name, value, Denotes.of_rule (.global ordinary missing known), ?_⟩
    intro respects
    rcases respects.defined default rfl with ⟨definition, found, -⟩
    cases missing.symm.trans found

end Values

end Fold

namespace Folder

/-- A folder after it has folded expressions one after another. -/
def afterAll (folder : Folder) : List Node → Folder
  | [] => folder
  | node :: rest => (folder.evaluate node).2.afterAll rest

/-- What a folder knows at last is right. -/
theorem afterAll_knows (folder : Folder) (nodes : List Node)
    (knows : KnowsValues folder.bindings False folder.memo) :
    KnowsValues folder.bindings False (folder.afterAll nodes).memo := by
  induction nodes generalizing folder with
  | nil => exact knows
  | cons node rest ih =>
      rcases folder.evaluate_right node False.elim knows with ⟨-, memo, after, knowsAfter⟩
      rw [afterAll, after]
      exact ih { folder with memo := memo } knowsAfter

/-- A folder that may nest deep enough finds the value of an expression. -/
theorem exists_evaluate_of_denotes {bindings : BindingTable} {node : Node} {value : Value}
    (denotes : Denotes bindings node value) :
    ∃ limit, (within limit bindings).evaluateAll [node] = [.ok (some value)] := by
  refine ⟨node.nesting + definitionNesting [] bindings, ?_⟩
  have answered := (within (node.nesting + definitionNesting [] bindings) bindings).evaluate_right
    node (fun _ : True => le_rfl) Watched.knows_empty
  simp only [evaluateAll]
  rcases outcome : ((within (node.nesting + definitionNesting [] bindings) bindings).evaluate
    node).1 with fault | result
  · rw [outcome] at answered
    rcases answered.1 with ⟨-, bad, reaches, breaks⟩
    exact absurd breaks (denotes.unbroken reaches)
  · rw [outcome] at answered
    have tells : Tells True (Denotes bindings node) result := answered.1
    rw [tells.complete trivial value denotes]

end Folder

namespace Module

/-- However deep a folder of the module may nest and whatever it is asked, its answers and all that
it finds out besides are not due to what a name means outside of the module. -/
def Hides (module : Module) (name : Text) : Prop :=
  ∀ limit nodes,
    List.Forall₂ (fun node outcome => ∀ value, outcome = .ok (some value) →
        Respects module.bindings name node value)
      nodes ((Folder.within limit module.bindings).evaluateAll nodes) ∧
    ∀ node value, ((Folder.within limit module.bindings).afterAll nodes).memo.nodes.get? node =
      some (some value) → Respects module.bindings name node value

/-- A declaration defines a name: a function, a class, or a variable that is declared by its name
and with an initial value. -/
inductive Defines : Declaration Node → Text → Prop
  | variable {kind : String} {declarators : List (Declarator Node)} {name : Name} {initial : Node}
      (mem : ⟨.name name, some initial⟩ ∈ declarators) :
      Defines (.variables kind declarators) name.text
  | function {head : FunctionHead} : Defines (.function head) head.name.text
  | classLike {head : ClassHead} : Defines (.classLike head) head.name.text

theorem mem_definitionsOf {declaration : Declaration Node} {name : Text} :
    name ∈ (definitionsOf declaration).map Prod.fst ↔ Defines declaration name := by
  constructor
  · intro defines
    rcases List.mem_map.mp defines with ⟨⟨name, definition⟩, mem, rfl⟩
    cases declaration with
    | «variables» kind declarators =>
        rcases List.mem_filterMap.mp mem with ⟨⟨target, initial⟩, isDeclared, isDefinition⟩
        cases target with
        | pattern span => cases isDefinition
        | name name =>
            cases initial with
            | none => cases isDefinition
            | some node =>
                cases isDefinition
                exact .variable isDeclared
    | function head =>
        cases List.mem_singleton.mp mem
        exact .function
    | classLike head =>
        cases List.mem_singleton.mp mem
        exact .classLike
  · rintro (@⟨kind, declarators, name, initial, mem⟩ | @⟨head⟩ | @⟨head⟩)
    · exact List.mem_map.mpr
        ⟨(name.text, .expression initial), List.mem_filterMap.mpr ⟨_, mem, rfl⟩, rfl⟩
    · exact List.mem_singleton.mpr rfl
    · exact List.mem_singleton.mpr rfl

/-- The binding table has the names that are defined at the top level of the module. -/
theorem contains_bindings {module : Module} {name : Text} :
    module.bindings.contains name = true ↔ ∃ declaration, Defines declaration name ∧
      (.declaration declaration ∈ module.body ∨ .exportDeclaration declaration ∈ module.body) := by
  have isKey : module.bindings.contains name = true ↔ name ∈ module.bindings.keys := by
    rw [OrderedMap.contains, Option.isSome_iff_ne_none, ne_eq, OrderedMap.get?_eq_none_iff,
      not_not]
  rw [isKey, bindings, OrderedMap.mem_keys_ofList, List.map_flatMap, List.mem_flatMap]
  constructor
  · rintro ⟨statement, mem, defines⟩
    cases statement with
    | declaration declaration => exact ⟨declaration, mem_definitionsOf.mp defines, .inl mem⟩
    | exportDeclaration declaration => exact ⟨declaration, mem_definitionsOf.mp defines, .inr mem⟩
    | importing | exportClause | exportDefault | exportAll | other => cases defines
  · rintro ⟨declaration, defines, mem | mem⟩
    · exact ⟨_, mem, mem_definitionsOf.mpr defines⟩
    · exact ⟨_, mem, mem_definitionsOf.mpr defines⟩

section Hiding

variable {module : Module} {name : Text}

theorem hides_of_contains (isGlobal : name ∈ globalNames)
    (isDefined : module.bindings.contains name = true) : module.Hides name := by
  intro limit nodes
  constructor
  · have right := Folder.evaluateAll_right (Folder.within limit module.bindings) nodes False.elim
      Watched.knows_empty
    apply right.imp
    rintro node outcome answers value rfl
    exact respects_of_denotes isGlobal isDefined (answers.sound value rfl)
  · intro node value known
    have knows := Folder.afterAll_knows (Folder.within limit module.bindings) nodes
      Watched.knows_empty
    exact respects_of_denotes isGlobal isDefined ((knows.nodes node _ known).tells.sound value rfl)

theorem contains_of_hides (isGlobal : name ∈ globalNames) (hides : module.Hides name) :
    module.bindings.contains name = true := by
  by_contra undefined
  rcases exists_disrespectful isGlobal (Bool.eq_false_iff.mpr undefined) with
    ⟨node, value, denotes, disrespects⟩
  rcases Folder.exists_evaluate_of_denotes denotes with ⟨limit, evaluated⟩
  have answers := (hides limit [node]).1
  rw [evaluated] at answers
  rcases List.forall₂_cons.mp answers with ⟨respects, -⟩
  exact disrespects (respects value rfl)

/--
A module hides a name of a folded function or of a global constant exactly if a top-level
declaration, exported or not, defines the name.
-/
theorem hides_iff_defines (module : Module) {name : Text} (isGlobal : name ∈ globalNames) :
    module.Hides name ↔ ∃ declaration, Defines declaration name ∧
      (.declaration declaration ∈ module.body ∨ .exportDeclaration declaration ∈ module.body) := by
  rw [← contains_bindings]
  exact ⟨contains_of_hides isGlobal, hides_of_contains isGlobal⟩

/-- A module with an exported class of its own under the name of a folded function. -/
theorem hides_exported_class :
    let declaration : Declaration Node := .classLike ⟨⟨7, 22⟩, ⟨⟨13, 19⟩, "String"⟩⟩
    let module : Module :=
      ⟨"export class String \x7b\x7d".toList, [.exportDeclaration declaration]⟩
    let name : Text := "String"
    name ∈ globalNames ∧ module.Hides name := by
  intro declaration module name
  have isGlobal : name ∈ globalNames := by decide
  refine ⟨isGlobal, (hides_iff_defines module isGlobal).mpr ⟨declaration, .classLike, .inr ?_⟩⟩
  exact List.mem_singleton.mpr rfl

/-- The kind and the name of a single variable that a statement declares without an initial
value. -/
def bareVariable? : ModuleStatement → Option (String × Text)
  | .declaration (.variables kind [⟨.name name, none⟩]) => some (kind, name.text)
  | _ => none

/-- A variable without an initial value hides nothing, although the module declares its name. -/
theorem not_hides_without_initial : ∃ module declarators, ∃ name : Name,
    Module.parse "let String;" = .ok module ∧
      .declaration (.variables "let" declarators) ∈ module.body ∧
      ⟨.name name, none⟩ ∈ declarators ∧ name.text = "String" ∧ ¬module.Hides "String" := by
  have bare : (Module.parse "let String;").toOption.map (·.body.filterMap bareVariable?) =
      some [("let", ("String" : Text))] := by
    decide +kernel
  have unbound : (Module.parse "let String;").toOption.map (·.bindings.contains "String") =
      some false := by
    decide +kernel
  rcases Option.map_eq_some_iff.mp bare with ⟨module, parsed, bare⟩
  rw [parsed] at unbound
  have declared : ("let", ("String" : Text)) ∈ module.body.filterMap bareVariable? :=
    bare ▸ List.mem_singleton_self _
  rcases List.mem_filterMap.mp declared with ⟨statement, mem, isBare⟩
  unfold bareVariable? at isBare
  split at isBare
  · next kind name =>
      rcases Prod.mk.inj (Option.some_inj.mp isBare) with ⟨rfl, named⟩
      refine ⟨module, _, name, Fold.toOption_eq_some.mp parsed, mem, List.mem_singleton_self _,
        named, ?_⟩
      intro hides
      have bound := contains_of_hides (by decide) hides
      exact Bool.noConfusion (bound.symm.trans (Option.some_inj.mp unbound))
  · cases isBare

end Hiding

end Module

end ComponentInliner
