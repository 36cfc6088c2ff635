import ComponentInliner.Proofs.Fold.Shadowing
import Mathlib.Data.List.Induction

/-!
# What an expression depends on

An expression is folded by looking up names, and a module may declare many that it never gets to.
`Node.Mentions` says which names an expression looks up itself, and `Concerns` adds those that their
definitions mention, and so on, round a cycle as often as one likes. Two tables that have the same
at all these names fold the expression alike: not only do the results agree, every step does, the
memo and the bound on nesting included (`fold_congr`). So other declarations of a module may come,
go and move.
-/

namespace ComponentInliner

open Fold

/-- An expression may be folded as a part of another one. -/
inductive Node.Part : Node → Node → Prop
  | substitution {span : Span} {head following : Text} {parts : List (Node × Text)} {child : Node}
      (mem : (child, following) ∈ parts) : Part (.template span head parts) child
  | element {span : Span} {elements : List (Option Node)} {child : Node}
      (mem : some child ∈ elements) : Part (.array span elements) (elementOperand child)
  | key {span own : Span} {properties : List Property} {child value : Node}
      (mem : .pair own child true value ∈ properties) : Part (.object span properties) child
  | value {span own : Span} {properties : List Property} {key child : Node} {isComputed : Bool}
      (mem : .pair own key isComputed child ∈ properties) : Part (.object span properties) child
  | shorthand {span own : Span} {properties : List Property} {name : Text}
      (mem : .shorthand own name ∈ properties) :
      Part (.object span properties) (.identifier own name)
  | spread {span own : Span} {properties : List Property} {child : Node}
      (mem : .spread own child ∈ properties) : Part (.object span properties) child
  | operand {span : Span} {operator : UnaryOperator} {child : Node} :
      Part (.unary span operator child) child
  | binaryLeft {span : Span} {operator : BinaryOperator} {left right : Node} :
      Part (.binary span operator left right) left
  | binaryRight {span : Span} {operator : BinaryOperator} {left right : Node} :
      Part (.binary span operator left right) right
  | logicalLeft {span : Span} {operator : LogicalOperator} {left right : Node} :
      Part (.logical span operator left right) left
  | logicalRight {span : Span} {operator : LogicalOperator} {left right : Node} :
      Part (.logical span operator left right) right
  | test {span : Span} {test consequent alternate : Node} :
      Part (.conditional span test consequent alternate) test
  | consequent {span : Span} {test consequent alternate : Node} :
      Part (.conditional span test consequent alternate) consequent
  | alternate {span : Span} {test consequent alternate : Node} :
      Part (.conditional span test consequent alternate) alternate
  | owner {span : Span} {owner property : Node} {isComputed isOptional : Bool} :
      Part (.member span owner property isComputed isOptional) owner
  | selector {span : Span} {owner property : Node} {isOptional : Bool} :
      Part (.member span owner property true isOptional) property
  | argument {span : Span} {callee child : Node} {arguments : List Node} {isOptional : Bool}
      (mem : child ∈ arguments) :
      Part (.call span callee arguments isOptional) (elementOperand child)

/-- An expression looks up a name: as an identifier in it, or as the root of a function that it
calls. -/
inductive Node.Mentions : Node → Text → Prop
  | identifier {span : Span} {name : Text} : Mentions (.identifier span name) name
  | callee {span : Span} {callee : Node} {arguments : List Node} {isOptional : Bool} {text : Text}
      (spelled : calleeName? callee = some text) :
      Mentions (.call span callee arguments isOptional)
        (text.takeWhile fun point => decide (point ≠ CodePoint.ofChar '.'))
  | part {node child : Node} {name : Text} (part : node.Part child)
      (inside : child.Mentions name) : Mentions node name

/-- An expression mentions a name, or the definition of a name that concerns it does. -/
inductive Concerns (bindings : BindingTable) (node : Node) : Text → Prop
  | mentioned {name : Text} (mentions : node.Mentions name) : Concerns bindings node name
  | defined {name other : Text} {definition : Node} (concerns : Concerns bindings node name)
      (found : bindings.get? name = some (.expression definition))
      (mentions : definition.Mentions other) : Concerns bindings node other

theorem Concerns.of_definition {bindings : BindingTable} {node definition : Node}
    {name other : Text} (concerns : Concerns bindings node name)
    (found : bindings.get? name = some (.expression definition))
    (inner : Concerns bindings definition other) : Concerns bindings node other := by
  induction inner with
  | mentioned mentions => exact .defined concerns found mentions
  | defined _ found mentions ih => exact .defined ih found mentions

theorem Node.Mentions.eq_of_identifier {span : Span} {text name : Text}
    (mentions : (Node.identifier span text).Mentions name) : name = text := by
  cases mentions with
  | identifier => rfl
  | part part => cases part

namespace Fold

section Handlers

variable {self other : Node → FoldM (Option Value)}

theorem foldEach_congr {nodes : List Node} (agree : ∀ node ∈ nodes, self node = other node) :
    foldEach self nodes = foldEach other nodes := by
  induction nodes with
  | nil => rfl
  | cons node rest ih =>
      rcases List.forall_mem_cons.mp agree with ⟨onNode, onRest⟩
      simp only [foldEach, onNode, ih onRest]

theorem foldElements_congr {elements : List (Option Node)}
    (agree : ∀ node, some node ∈ elements →
      self (elementOperand node) = other (elementOperand node)) :
    foldElements self elements = foldElements other elements := by
  induction elements with
  | nil => rfl
  | cons element rest ih =>
      have onRest := ih fun node mem => agree node (List.mem_cons_of_mem _ mem)
      cases element with
      | none => simp only [foldElements, onRest]
      | some node => simp only [foldElements, agree node (List.mem_cons_self ..), onRest]

theorem foldTemplate_congr {parts : List (Node × Text)}
    (agree : ∀ part ∈ parts, self part.1 = other part.1) (text : Text) :
    foldTemplate self text parts = foldTemplate other text parts := by
  induction parts generalizing text with
  | nil => rfl
  | cons part rest ih =>
      rcases List.forall_mem_cons.mp agree with ⟨onPart, onRest⟩
      simp only [foldTemplate, onPart, ih onRest]

theorem foldProperties_congr {span : Span} {properties : List Property}
    (agree : ∀ child, Node.Part (.object span properties) child → self child = other child)
    (before : OrderedMap Text Value) :
    foldProperties self before properties = foldProperties other before properties := by
  induction properties generalizing before with
  | nil => rfl
  | cons property rest ih =>
      have onRest := ih fun child part => by
        apply agree
        cases part with
        | key mem => exact .key (List.mem_cons_of_mem _ mem)
        | value mem => exact .value (List.mem_cons_of_mem _ mem)
        | shorthand mem => exact .shorthand (List.mem_cons_of_mem _ mem)
        | spread mem => exact .spread (List.mem_cons_of_mem _ mem)
      cases property with
      | pair own key isComputed value =>
          have onValue := agree value (.value (List.mem_cons_self ..))
          cases isComputed with
          | true =>
              have onKey := agree key (.key (List.mem_cons_self ..))
              simp only [foldProperties, foldKey, onKey, onValue, onRest]
          | false => simp only [foldProperties, foldKey, onValue, onRest, Bool.false_eq_true, if_false]
      | shorthand own name =>
          simp only [foldProperties, agree _ (.shorthand (List.mem_cons_self ..)), onRest]
      | spread own argument =>
          simp only [foldProperties, agree _ (.spread (List.mem_cons_self ..)), onRest]
      | method => rfl

theorem foldLeft_congr {left : Node} (onLeft : self left = other left)
    (ahead : ∀ child ∈ chainOperators left, self child = other child) :
    foldLeft self left = foldLeft other left := by
  have onPending (known : OrderedMap Node (Option Value)) :
      foldEach self (pendingOperators known.contains [] left) =
        foldEach other (pendingOperators known.contains [] left) := by
    apply foldEach_congr
    intro child pending
    rcases mem_pendingOperators pending with impossible | mem
    · cases impossible
    · exact ahead child mem
  simp only [foldLeft, onPending, onLeft]

theorem foldMember_congr {span : Span} {owner property : Node} {isComputed isOptional : Bool}
    (agree : ∀ child, Node.Part (.member span owner property isComputed isOptional) child →
      self child = other child) :
    foldMember self owner property isComputed = foldMember other owner property isComputed := by
  cases isComputed with
  | true => simp only [foldMember, agree owner .owner, agree property .selector]
  | false => simp only [foldMember, agree owner .owner, Bool.false_eq_true, if_false]

end Handlers

section Agreement

variable {bindings others : BindingTable} {node child left : Node}

/-- An expression mentions no more than another one. -/
def Within (child node : Node) : Prop :=
  ∀ name, child.Mentions name → node.Mentions name

theorem within_of_part (part : node.Part child) : Within child node :=
  fun _ => .part part

theorem within_of_ahead (part : node.Part left) (ahead : child ∈ chainOperators left) :
    Within child node := by
  fun_induction chainOperators left generalizing node with
  | case1 span operator left right ih =>
      rcases List.mem_cons.mp ahead with rfl | inner
      · exact within_of_part part
      · exact fun name mentions => .part part (ih .binaryLeft inner name mentions)
  | case2 span operator left right ih =>
      rcases List.mem_cons.mp ahead with rfl | inner
      · exact within_of_part part
      · exact fun name mentions => .part part (ih .logicalLeft inner name mentions)
  | case3 => cases ahead

/-- A call names the same function if the tables agree on the root of the callee. -/
theorem calledFunction?_congr {callee : Node}
    (agree : ∀ text, calleeName? callee = some text →
      let root := text.takeWhile fun point => decide (point ≠ CodePoint.ofChar '.')
      others.get? root = bindings.get? root) :
    calledFunction? others callee = calledFunction? bindings callee := by
  unfold calledFunction?
  cases spelled : calleeName? callee with
  | none => rfl
  | some text =>
      cases named : ConstantCall.ofName? text with
      | none => simp [named]
      | some function =>
          have sameRoot := agree text spelled
          simp only [← root_of_ofName? named] at sameRoot
          have contains : others.contains (Text.ofString function.root) =
              bindings.contains (Text.ofString function.root) := by
            simp only [OrderedMap.contains, sameRoot]
          simp only [Option.bind_eq_bind, Option.bind_some, named, contains]

theorem foldWith_congr {self other : Node → FoldM (Option Value)}
    {name otherName : Text → FoldM (Option Value)}
    (parts : ∀ child, Within child node → self child = other child)
    (names : ∀ text, node.Mentions text → name text = otherName text)
    (tables : ∀ text, node.Mentions text → others.get? text = bindings.get? text) :
    foldWith self others name node = foldWith other bindings otherName node := by
  have onPart (child : Node) (part : node.Part child) : self child = other child :=
    parts child (within_of_part part)
  have onLeft (left : Node) (part : node.Part left) : foldLeft self left = foldLeft other left :=
    foldLeft_congr (onPart left part) fun child ahead => parts child (within_of_ahead part ahead)
  cases node with
  | identifier span text => exact names text .identifier
  | template span head substitutions =>
      have onParts : ∀ part ∈ substitutions, self part.1 = other part.1 := by
        rintro ⟨child, following⟩ mem
        exact onPart child (.substitution mem)
      simp only [foldWith, foldTemplate_congr onParts]
  | array span elements =>
      have onElements := foldElements_congr fun node mem => onPart _ (.element mem)
      simp only [foldWith, onElements]
  | object span properties => simp only [foldWith, foldProperties_congr onPart]
  | unary span operator argument => simp only [foldWith, onPart _ .operand]
  | binary span operator left right =>
      simp only [foldWith, foldBinary, onLeft _ .binaryLeft, onPart _ .binaryRight]
  | logical span operator left right =>
      simp only [foldWith, foldLogical, onLeft _ .logicalLeft, onPart _ .logicalRight]
  | conditional span test consequent alternate =>
      have onBranch (value : Value) : self (if value.truthy then consequent else alternate) =
          other (if value.truthy then consequent else alternate) := by
        split
        · exact onPart _ .consequent
        · exact onPart _ .alternate
      simp only [foldWith, onPart _ .test, onBranch]
  | member span owner property isComputed isOptional => simp only [foldWith, foldMember_congr onPart]
  | call span callee arguments isOptional =>
      have onArguments : foldElements self (arguments.map some) =
          foldElements other (arguments.map some) := by
        apply foldElements_congr
        intro node mem
        rcases List.mem_map.mp mem with ⟨_, mem, ⟨⟩⟩
        exact onPart _ (.argument mem)
      have sameCall := calledFunction?_congr fun text spelled => tables _ (.callee spelled)
      simp only [foldWith, foldCall, onArguments, sameCall]
  | literal | spread | arrow | function | unsupported => rfl

/-- The tables have the same at every name that concerns an expression. -/
def Agree (bindings others : BindingTable) (node : Node) : Prop :=
  ∀ name, Concerns bindings node name → others.get? name = bindings.get? name

theorem Agree.within (agree : Agree bindings others node) (within : Within child node) :
    Agree bindings others child := by
  intro name concerns
  apply agree
  induction concerns with
  | mentioned mentions => exact .mentioned (within _ mentions)
  | defined _ found mentions ih => exact .defined ih found mentions

theorem Agree.definition {name : Text} {definition : Node} (agree : Agree bindings others node)
    (mentions : node.Mentions name) (found : bindings.get? name = some (.expression definition)) :
    Agree bindings others definition :=
  fun other concerns => agree other (.of_definition (.mentioned mentions) found concerns)

/-- Tables that agree where it matters fold an expression by the same steps. -/
theorem fold_congr (agree : Agree bindings others node) (limit : Nat) (resolving : List Text) :
    fold others limit resolving node = fold bindings limit resolving node := by
  induction limit generalizing node resolving with
  | zero => rfl
  | succ limit ih =>
      have onName (text : Text) (mentions : node.Mentions text) :
          foldName (fold others limit) others resolving text =
            foldName (fold bindings limit) bindings resolving text := by
        have same := agree text (.mentioned mentions)
        unfold foldName
        rw [same]
        cases found : bindings.get? text with
        | none => rfl
        | some definition =>
            cases definition with
            | expression definition =>
                simp only [foldDefinition, ih (agree.definition mentions found)]
            | function | classLike => rfl
      have onNode := foldWith_congr (fun child within => ih (agree.within within) resolving) onName
        fun text mentions => agree text (.mentioned mentions)
      simp only [fold, onNode]

end Agreement

end Fold

theorem OrderedMap.get?_ofList {Key Entry : Type} [DecidableEq Key] (entries : List (Key × Entry))
    (key : Key) : (OrderedMap.ofList entries).get? key =
      (entries.filter fun entry => entry.1 = key).getLast?.map Prod.snd := by
  induction entries using List.reverseRecOn with
  | nil => rfl
  | append_singleton front entry ih =>
      have last : OrderedMap.ofList (front ++ [entry]) =
          (OrderedMap.ofList front).insert entry.1 entry.2 := by
        simp [OrderedMap.ofList]
      rw [last, OrderedMap.get?_insert]
      by_cases isKey : key = entry.1
      · simp [isKey]
      · simp [isKey, Ne.symm isKey, ih]

/-- What the top-level declarations of a module give a name, one after another. -/
def Module.definitionsFor (module : Module) (name : Text) : List (Text × Definition) :=
  (module.body.flatMap topLevelDefinitions).filter fun entry => entry.1 = name

/--
An expression is folded to the same result over two tables that have the same at every name that it
mentions or that the definitions of such names mention in turn. So whatever else two modules declare
and in whatever order, the expression is folded to the same result in both if they declare these
names alike.
-/
theorem evaluateStatic_congr (node : Node) :
    (∀ bindings others : BindingTable,
      (∀ name, Concerns bindings node name → others.get? name = bindings.get? name) →
        evaluateStatic node others = evaluateStatic node bindings) ∧
    ∀ module other : Module,
      (∀ name, Concerns module.bindings node name →
        other.definitionsFor name = module.definitionsFor name) →
      evaluateStatic node other.bindings = evaluateStatic node module.bindings := by
  have onTables (bindings others : BindingTable)
      (agree : ∀ name, Concerns bindings node name → others.get? name = bindings.get? name) :
      evaluateStatic node others = evaluateStatic node bindings := by
    have sameSteps := fold_congr agree Fold.nestingLimit []
    simp only [evaluateStatic, Folder.evaluate, Folder.evaluateDefinition, Folder.ofBindings,
      Folder.within, foldDefinition, sameSteps]
    rfl
  refine ⟨onTables, fun module other alike => onTables _ _ fun name concerns => ?_⟩
  have sameDefinitions := alike name concerns
  unfold Module.definitionsFor at sameDefinitions
  unfold Module.bindings
  rw [OrderedMap.get?_ofList, OrderedMap.get?_ofList, sameDefinitions]

/-- A function is called with a name that stands on a cycle of definitions; besides and before them,
a second module declares a class by the name of another function, and the definitions trade
places. -/
theorem evaluateStatic_congr_of_cycle :
    let first : Node := .conditional ⟨10, 24⟩ (.literal ⟨10, 14⟩ (.boolean true) "true")
      (.literal ⟨17, 20⟩ (.string "x") "'x'") (.identifier ⟨23, 24⟩ "b")
    let second : Node := .identifier ⟨36, 37⟩ "a"
    let declare (name : Text) (value : Node) : ModuleStatement :=
      .declaration (.variables "const" [⟨.name ⟨value.span, name⟩, some value⟩])
    let module : Module := ⟨[], [declare "a" first, declare "b" second]⟩
    let other : Module := ⟨[], [.declaration (.classLike ⟨⟨0, 15⟩, ⟨0, 15⟩, "Array"⟩),
      declare "b" second, .other "empty_statement", declare "a" first]⟩
    let node : Node := .call ⟨40, 49⟩ (.identifier ⟨40, 46⟩ "String") [.identifier ⟨47, 48⟩ "a"] false
    (∀ name, Concerns module.bindings node name →
        other.definitionsFor name = module.definitionsFor name ∧
          other.bindings.get? name = module.bindings.get? name) ∧
      evaluateStatic node other.bindings = evaluateStatic node module.bindings := by
  intro first second declare module other node
  have concerned (name : Text) (concerns : Concerns module.bindings node name) :
      name = "String" ∨ name = "a" ∨ name = "b" := by
    induction concerns with
    | mentioned mentions =>
        simp only [node] at mentions
        cases mentions with
        | callee spelled =>
            cases spelled
            exact .inl (by decide)
        | part part inside =>
            cases part with
            | argument mem =>
                cases List.mem_singleton.mp mem
                exact .inr (.inl inside.eq_of_identifier)
    | defined _ found mentions ih =>
        rcases ih with rfl | rfl | rfl
        · cases found
        · cases found
          simp only [first] at mentions
          cases mentions with
          | part part inside =>
              cases part with
              | test | consequent =>
                  cases inside with
                  | part part => cases part
              | alternate => exact .inr (.inr inside.eq_of_identifier)
        · cases found
          exact .inr (.inl mentions.eq_of_identifier)
  have alike : ∀ name, Concerns module.bindings node name →
      other.definitionsFor name = module.definitionsFor name ∧
        other.bindings.get? name = module.bindings.get? name := by
    intro name concerns
    rcases concerned name concerns with rfl | rfl | rfl
    · exact ⟨rfl, rfl⟩
    · exact ⟨rfl, rfl⟩
    · exact ⟨rfl, rfl⟩
  refine ⟨alike, ?_⟩
  have onModules := (evaluateStatic_congr node).2 module other fun name concerns =>
    (alike name concerns).1
  exact onModules

end ComponentInliner
