import ComponentInliner.Proofs.Fold.Learning

/-!
# Chains of names

How far folding gets on a chain of names whose definitions are unary operators over the next name.
A folder that knows nothing descends along the whole chain and may find no room; one that met the
names before, those at the far end first, has to descend one definition at a time.
-/

namespace ComponentInliner.Fold

open FoldMemo

variable {bindings : BindingTable} {limit : Nat} {known resolving : List Text} {node : Node}
  {before : FoldMemo}

/-- A folder that knows nothing descends along unary operators and names until there is no room. -/
def exhausts (bindings : BindingTable) : (limit : Nat) → (resolving : List Text) → Node → Bool
  | 0, _, _ => true
  | limit + 1, resolving, .unary _ _ argument => exhausts bindings limit resolving argument
  | limit + 1, resolving, .identifier _ name =>
      decide (name ≠ "undefined") && !resolving.contains name &&
        match bindings.get? name with
        | some (.expression definition) => exhausts bindings limit (name :: resolving) definition
        | _ => false
  | _ + 1, _, _ => false

/-- Where there is no room, nothing is found. -/
theorem fold_of_exhausts (deep : exhausts bindings limit resolving node = true) :
    ∃ after, Runs (fold bindings limit resolving node) .empty none after := by
  induction limit generalizing resolving node with
  | zero => exact ⟨.empty, Runs.idle⟩
  | succ limit ih =>
      have unknown : FoldMemo.empty.nodes.get? node = none := rfl
      have handled : ∃ between, Runs (foldWith (fold bindings limit resolving) bindings
          (foldName (fold bindings limit) bindings resolving) node) .empty none between := by
        cases node with
        | unary span operator argument =>
            rcases ih deep with ⟨after, ran⟩
            by_cases isDelete : operator = .delete
            · simp only [foldWith, isDelete, if_true]
              exact ⟨.empty, Runs.idle⟩
            · simp only [foldWith, isDelete, if_false]
              exact ⟨after, Runs.andThen ran Runs.idle⟩
        | identifier span name =>
            simp only [exhausts, Bool.and_eq_true, decide_eq_true_eq, Bool.not_eq_true'] at deep
            rcases deep with ⟨⟨ordinary, fresh⟩, deep⟩
            cases found : bindings.get? name with
            | none => simp [found] at deep
            | some definition =>
                cases definition with
                | expression node =>
                    simp only [found] at deep
                    rcases ih deep with ⟨after, ran⟩
                    refine ⟨{ after with names := after.names.insert name none }, ?_⟩
                    simp only [foldWith, foldName, ordinary, if_false]
                    refine Runs.andThen Runs.looks ?_
                    simp only [FoldMemo.empty, OrderedMap.get?_empty, fresh, found,
                      Bool.false_eq_true, if_false]
                    exact Runs.andThen ran (Runs.andThen Runs.changes Runs.idle)
                | function | classLike => simp [found] at deep
        | _ => simp [exhausts] at deep
      rcases handled with ⟨between, ran⟩
      exact ⟨_, (fold_unknown_iff unknown).mpr ⟨between, ran, rfl⟩⟩

/-- The names that are known once an expression has been folded, as far as it is a name. -/
def namedBy : Node → List Text
  | .identifier _ name => [name]
  | _ => []

/-- The substitutions of a template arrive one after the other. -/
def substitutionsArrive (arrive : List Text → Node → Bool) :
    (known : List Text) → List (Node × Text) → Bool
  | _, [] => true
  | known, (node, _) :: rest =>
      arrive known node && substitutionsArrive arrive (namedBy node ++ known) rest

/-- A folder that knows some names comes to a literal or to one of these names before it runs out of
room, and so it does for each substitution of a template. -/
def arrives (bindings : BindingTable) :
    (limit : Nat) → (known resolving : List Text) → Node → Bool
  | 0, _, _, _ => false
  | _ + 1, _, _, .literal _ literal _ => (literalValue? literal).isSome
  | limit + 1, known, resolving, .unary _ operator argument =>
      decide (operator ≠ .delete) && arrives bindings limit known resolving argument
  | limit + 1, known, resolving, .identifier _ name =>
      decide (name ≠ "undefined") && (known.contains name || !resolving.contains name &&
        match bindings.get? name with
        | some (.expression definition) =>
            arrives bindings limit known (name :: resolving) definition
        | _ => false)
  | limit + 1, known, resolving, .template _ _ parts =>
      substitutionsArrive (fun known => arrives bindings limit known resolving) known parts
  | _ + 1, _, _, _ => false

theorem unaryResult_of_ne_delete {operator : UnaryOperator} (constant : operator ≠ .delete)
    (operand : Value) : ∃ value, operator.result? operand = some value := by
  cases operator with
  | delete => exact absurd rfl constant
  | _ => exact ⟨_, rfl⟩

section Arrival

/-- A folder arrives at the value of every expression for which this is said. -/
def Arrives (bindings : BindingTable) (self : Node → FoldM (Option Value))
    (arrive : List Text → Node → Bool) : Prop :=
  ∀ known node before, arrive known node = true → Sure bindings before →
    (∀ name ∈ known, before.KnowsName name) →
    ∃ value after, Runs (self node) before (some value) after ∧
      Learned bindings before node value after ∧
      ∀ name ∈ namedBy node ++ known, after.KnowsName name

theorem foldTemplate_arrives {self : Node → FoldM (Option Value)}
    {arrive : List Text → Node → Bool} (arrival : Arrives bindings self arrive)
    {parts : List (Node × Text)} (arrived : substitutionsArrive arrive known parts = true)
    (sure : Sure bindings before) (knows : ∀ name ∈ known, before.KnowsName name) (text : Text) :
    ∃ whole after, Runs (foldTemplate self text parts) before (some whole) after := by
  induction parts generalizing known before text with
  | nil => exact ⟨text, before, Runs.idle⟩
  | cons part rest ih =>
      rcases part with ⟨node, following⟩
      simp only [substitutionsArrive, Bool.and_eq_true] at arrived
      rcases arrival known node before arrived.1 sure knows with
        ⟨value, between, ran, learned, knowsBetween⟩
      rcases ih arrived.2 learned.sure knowsBetween
        (text ++ substitutedText value ++ following) with ⟨whole, after, ranRest⟩
      exact ⟨whole, after, Runs.andThen ran ranRest⟩

/-- What is known once an expression is folded that is a name. -/
theorem Learned.names {value : Value} {after : FoldMemo}
    (learned : Learned bindings before node value after)
    (knows : ∀ name ∈ known, before.KnowsName name)
    (resolves : ∀ span name, node = .identifier span name →
      name ∈ known ∨ ∃ definition, Resolves bindings name definition) :
    ∀ name ∈ namedBy node ++ known, after.KnowsName name := by
  intro name mem
  rcases List.mem_append.mp mem with named | mem
  · cases node with
    | identifier span own =>
        cases List.mem_singleton.mp named
        rcases resolves span name rfl with mem | ⟨definition, resolves⟩
        · exact learned.below.names name (knows name mem)
        · exact learned.sure.named span name definition ⟨_, learned.known⟩ resolves
    | _ => cases named
  · exact learned.below.names name (knows name mem)

theorem resolves_of_arrives {span : Span} {name : Text}
    (arrived : arrives bindings limit known resolving (.identifier span name) = true) :
    name ∈ known ∨ ∃ definition, Resolves bindings name definition := by
  cases limit with
  | zero => cases arrived
  | succ limit =>
      simp only [arrives, Bool.and_eq_true, Bool.or_eq_true, decide_eq_true_eq,
        List.contains_iff_mem] at arrived
      rcases arrived with ⟨ordinary, mem | ⟨-, arrived⟩⟩
      · exact .inl mem
      · split at arrived
        · next definition found => exact .inr ⟨definition, ordinary, found⟩
        · cases arrived

theorem foldName_arrives {name : Text} (arrival : ∀ resolving,
      Arrives bindings (fold bindings limit resolving) fun known =>
        arrives bindings limit known resolving)
    {span : Span}
    (arrived : arrives bindings (limit + 1) known resolving (.identifier span name) = true)
    (sure : Sure bindings before) (knows : ∀ name ∈ known, before.KnowsName name) :
    ∃ value after,
      Runs (foldName (fold bindings limit) bindings resolving name) before (some value) after := by
  simp only [arrives, Bool.and_eq_true, Bool.or_eq_true, decide_eq_true_eq,
    Bool.not_eq_true', List.contains_iff_mem] at arrived
  rcases arrived with ⟨ordinary, arrived⟩
  cases unknown : before.names.get? name with
  | some result =>
      rcases sure.defined name result unknown with ⟨definition, -, isKnown⟩
      rcases sure.denotes definition result isKnown with ⟨value, rfl, -⟩
      exact ⟨value, before, foldName_iff.mpr (.known ordinary unknown)⟩
  | none =>
      rcases arrived with mem | ⟨fresh, arrived⟩
      · rcases knows name mem with ⟨result, isKnown⟩
        cases unknown.symm.trans isKnown
      · split at arrived
        · next definition found =>
            rcases arrival _ known definition before arrived sure knows with
              ⟨value, between, ran, -⟩
            have isFresh : name ∉ resolving := by simpa using fresh
            exact ⟨value, _,
              foldName_iff.mpr (.definition ⟨ordinary, found⟩ unknown isFresh ran)⟩
        · cases arrived

theorem foldWith_arrives (arrival : ∀ resolving,
      Arrives bindings (fold bindings limit resolving) fun known =>
        arrives bindings limit known resolving)
    (arrived : arrives bindings (limit + 1) known resolving node = true)
    (sure : Sure bindings before) (knows : ∀ name ∈ known, before.KnowsName name) :
    ∃ value after, Runs (foldWith (fold bindings limit resolving) bindings
      (foldName (fold bindings limit) bindings resolving) node) before (some value) after := by
  cases node with
  | literal span literal raw =>
      rcases Option.isSome_iff_exists.mp arrived with ⟨value, written⟩
      exact ⟨value, before, Runs.pure_iff.mpr ⟨written, rfl⟩⟩
  | unary span operator argument =>
      simp only [arrives, Bool.and_eq_true, decide_eq_true_eq] at arrived
      rcases arrival resolving known argument before arrived.2 sure knows with
        ⟨operand, after, ran, -⟩
      rcases unaryResult_of_ne_delete arrived.1 operand with ⟨value, computed⟩
      refine ⟨value, after, ?_⟩
      simp only [foldWith, arrived.1, if_false]
      exact Runs.andThen ran (Runs.pure_iff.mpr ⟨computed, rfl⟩)
  | template span head parts =>
      rcases foldTemplate_arrives (arrival resolving) arrived sure knows head with
        ⟨whole, after, ran⟩
      exact ⟨.string whole, after, Runs.andThen ran Runs.idle⟩
  | identifier span name => exact foldName_arrives arrival arrived sure knows
  | _ => simp [arrives] at arrived

theorem fold_arrives (bindings : BindingTable) (limit : Nat) (resolving : List Text) :
    Arrives bindings (fold bindings limit resolving) fun known =>
      arrives bindings limit known resolving := by
  induction limit generalizing resolving with
  | zero =>
      intro known node before arrived
      cases arrived
  | succ limit ih =>
      intro known node before arrived sure knows
      have found : ∃ value after,
          Runs (fold bindings (limit + 1) resolving node) before (some value) after := by
        cases unknown : before.nodes.get? node with
        | none =>
            rcases foldWith_arrives ih arrived sure knows with ⟨value, between, ran⟩
            exact ⟨value, _, (fold_unknown_iff unknown).mpr ⟨between, ran, rfl⟩⟩
        | some result =>
            rcases sure.denotes node result unknown with ⟨own, rfl, -⟩
            exact ⟨own, before, (fold_known_iff unknown).mpr ⟨rfl, rfl⟩⟩
      rcases found with ⟨value, after, ran⟩
      have learned := fold_learns bindings _ _ _ _ _ _ ran sure
      refine ⟨value, after, ran, learned, learned.names knows ?_⟩
      rintro span name rfl
      exact resolves_of_arrives arrived

end Arrival

/-- All substitutions of a template are known with it. -/
theorem substitution_known {memo : FoldMemo} {span : Span} {head following : Text}
    {parts : List (Node × Text)} (sure : Sure bindings memo)
    (isKnown : memo.Knows (.template span head parts)) (mem : (node, following) ∈ parts) :
    memo.Knows node := by
  have demanded {text whole : Text} {parts : List (Node × Text)}
      (filled : TemplateHas (Denotes bindings) text parts whole)
      (mem : (node, following) ∈ parts) : TemplateDemands (Denotes bindings) parts node := by
    induction filled with
    | nil => cases mem
    | part own _ ih =>
        rcases List.mem_cons.mp mem with same | mem
        · cases same
          exact .first
        · exact .later own (ih mem)
  rcases isKnown with ⟨result, isKnown⟩
  rcases sure.denotes _ result isKnown with ⟨value, -, denotes⟩
  cases denotes_iff_rule.mp denotes with
  | template filled =>
      exact sure.demanded _ _ ⟨result, isKnown⟩ (.needed (.substitution (demanded filled mem)))

end ComponentInliner.Fold
