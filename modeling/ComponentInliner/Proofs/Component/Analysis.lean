import ComponentInliner.Component.Analysis
import ComponentInliner.Proofs.Fold.Breaking
import ComponentInliner.Proofs.Fold.Exactness
import ComponentInliner.Proofs.Module.Literals

/-!
# Analyses that come to an answer

The analysis of a source reports what is wrong with it instead of failing, but for two faults that
end it: an escape sequence in a literal that stands for a number beyond 32 bits, and a read at an
index with too many digits in an expression that is folded. Apart from these there is an answer,
and the exports in it have the values that their expressions denote; an export without a value is
an issue like any other.
-/

namespace ComponentInliner

open Fold Script

/-- The expression that a target stands for, if it is one. -/
def ExportTarget.node? : ExportTarget → Option Node
  | .definition (.expression node) => some node
  | .definition _ | .unresolved _ => none

/-- A target has the value of the expression that it stands for. -/
def ExportTarget.Has (bindings : BindingTable) (target : ExportTarget) (value : Value) : Prop :=
  ∃ node, target.node? = some node ∧ Denotes bindings node value

namespace Component

/-- The expressions that are folded for the exports of a component. -/
def Exports.foldedNodes (exports : Exports) : List Node :=
  [exports.metadata, exports.style, exports.template].filterMap ExportTarget.node?

/-- The exports of a component are folded to their values. -/
structure FoldedExports.Tells (bindings : BindingTable) (enough : Prop) (exports : Exports)
    (folded : FoldedExports) : Prop where
  metadata : Fold.Tells enough (exports.metadata.Has bindings) folded.metadata
  style : Fold.Tells enough (exports.style.Has bindings) folded.style
  template : Fold.Tells enough (exports.template.Has bindings) folded.template

section Exports

variable {bindings : BindingTable} {enough : Prop} {watched : Watched bindings}
  {reached : Node → Prop} {limit : Nat}
  (closed : ∀ node child, reached node → Demands bindings node child → reached child)

include closed

theorem foldTarget_meets {target : ExportTarget}
    (isReached : ∀ node, target.node? = some node → reached node)
    (isKept : ∀ node, target.node? = some node → watched.kept node)
    (fits : enough → ∀ node, target.node? = some node →
      node.nesting + definitionNesting [] bindings ≤ limit) :
    (watched.terms enough reached []).Meets (foldTarget bindings limit target) fun result =>
      Tells enough (target.Has bindings) result ∧
        (enough → ∀ node, target.node? = some node → watched.settled [] node) := by
  have valueless (noNode : target.node? = none) : Tells enough (target.Has bindings) none := by
    refine .none fun _ value has => ?_
    rcases has with ⟨node, stands, -⟩
    cases noNode.symm.trans stands
  cases target with
  | unresolved span => exact Contract.Meets.pure ⟨valueless rfl, nofun⟩
  | definition definition =>
      cases definition with
      | expression node =>
          have folds : (watched.terms enough reached []).Folds (fold bindings limit []) node :=
            Watched.fold_folds closed limit (fun isEnough => fits isEnough node rfl)
              (fun _ => nofun) (isReached node rfl) (isKept node rfl)
          apply Contract.Meets.weaken folds
          rintro result ⟨tells, settled⟩
          refine ⟨tells.congr fun value => ⟨fun denotes => ⟨node, rfl, denotes⟩, ?_⟩, ?_⟩
          · rintro ⟨other, ⟨⟩, denotes⟩
            exact denotes
          · rintro isEnough other ⟨⟩
            exact settled isEnough
      | function head | classLike head => exact Contract.Meets.pure ⟨valueless rfl, nofun⟩

theorem foldExports_meets {exports : Exports}
    (isReached : ∀ node ∈ exports.foldedNodes, reached node)
    (isKept : ∀ node ∈ exports.foldedNodes, watched.kept node)
    (fits : enough → ∀ node ∈ exports.foldedNodes,
      node.nesting + definitionNesting [] bindings ≤ limit) :
    (watched.terms enough reached []).Meets (foldExports bindings limit exports) fun folded =>
      folded.Tells bindings enough exports ∧
        (enough → ∀ node ∈ exports.foldedNodes, watched.settled [] node) := by
  have folds (target : ExportTarget)
      (mem : target ∈ [exports.metadata, exports.style, exports.template]) :
      (watched.terms enough reached []).Meets (foldTarget bindings limit target) fun result =>
        Tells enough (target.Has bindings) result ∧
          (enough → ∀ node, target.node? = some node → watched.settled [] node) := by
    have isFolded (node : Node) (stands : target.node? = some node) :
        node ∈ exports.foldedNodes := List.mem_filterMap.mpr ⟨target, mem, stands⟩
    exact foldTarget_meets closed (fun node stands => isReached node (isFolded node stands))
      (fun node stands => isKept node (isFolded node stands))
      (fun isEnough node stands => fits isEnough node (isFolded node stands))
  apply Contract.Meets.bind (folds exports.metadata (by simp))
  intro metadata onMetadata
  apply Contract.Meets.bind (folds exports.style (by simp))
  intro style onStyle
  apply Contract.Meets.bind (folds exports.template (by simp))
  intro template onTemplate
  refine Contract.Meets.pure ⟨⟨onMetadata.1, onStyle.1, onTemplate.1⟩, fun isEnough node mem => ?_⟩
  rcases List.mem_filterMap.mp mem with ⟨target, targetMem, stands⟩
  simp only [List.mem_cons, List.not_mem_nil, or_false] at targetMem
  rcases targetMem with rfl | rfl | rfl
  · exact onMetadata.2 isEnough node stands
  · exact onStyle.2 isEnough node stands
  · exact onTemplate.2 isEnough node stands

end Exports

section Modules

variable {limit : Nat} {exports : Exports}

/-- Folding the exports of a component comes to an end if nothing that they demand breaks it off. -/
theorem foldExports_returns {bindings : BindingTable} {enough : Prop}
    (fits : enough → ∀ node ∈ exports.foldedNodes,
      node.nesting + definitionNesting [] bindings ≤ limit)
    (unbroken : ∀ node ∈ exports.foldedNodes, ∀ bad,
      Relation.ReflTransGen (Demands bindings) node bad → ¬Breaks bindings bad) :
    ∃ folded after, (foldExports bindings limit exports).run.run .empty = (.ok folded, after) ∧
      folded.Tells bindings enough exports := by
  let reached (node : Node) : Prop :=
    ∃ root ∈ exports.foldedNodes, Relation.ReflTransGen (Demands bindings) root node
  have meets : ((Watched.nothing bindings).terms enough reached []).Meets
      (foldExports bindings limit exports) fun folded => folded.Tells bindings enough exports ∧
        (enough → ∀ _ ∈ exports.foldedNodes, True) :=
    foldExports_meets
      (fun _ _ ⟨root, mem, reaches⟩ demands => ⟨root, mem, reaches.tail demands⟩)
      (fun node mem => ⟨node, mem, .refl⟩) (fun _ _ => trivial) fits
  have ran := meets .empty Watched.knows_empty
  split at ran
  · next folded after outcome => exact ⟨folded, after, outcome, ran.2.1⟩
  · rcases ran with ⟨⟨⟨bad, ⟨node, mem, reaches⟩, breaks⟩, -⟩, -⟩
    exact absurd breaks (unbroken node mem bad reaches)

/-- Folding the exports of a component is cut short if something that they need breaks it off. -/
theorem foldExports_breaks {bindings : BindingTable}
    (fits : ∀ node ∈ exports.foldedNodes, node.nesting + definitionNesting [] bindings ≤ limit)
    {node bad : Node} (mem : node ∈ exports.foldedNodes)
    (needs : Relation.ReflTransGen (Needs bindings) node bad) (breaks : Breaks bindings bad) :
    ∃ after, (foldExports bindings limit exports).run.run .empty =
      (.error .indexTooLong, after) := by
  have meets : ((Watched.breaking bindings).terms True (fun _ => True) []).Meets
      (foldExports bindings limit exports) fun folded => folded.Tells bindings True exports ∧
        (True → ∀ node ∈ exports.foldedNodes, Unbroken bindings [] node) :=
    foldExports_meets (fun _ _ _ _ => trivial) (fun _ _ => trivial) (fun _ _ => trivial)
      fun _ => fits
  have ran := meets .empty Watched.knows_empty
  split at ran
  · next folded after outcome =>
      exact absurd breaks (Unbroken.not_breaks (ran.2.2 trivial node mem) needs)
  · next fault after outcome =>
      rw [ran.2] at outcome
      exact ⟨after, outcome⟩

/-- The exports of a module that seems to be a component, if none is missing. -/
def componentExports? (module : Module) : Option Exports :=
  if seemsComponent module.exportTable then Exports.find? module.exportTable else none

/-- The expressions that are folded to find out whether a module is a component. -/
def foldedNodes (module : Module) : List Node :=
  ((componentExports? module).map Exports.foldedNodes).getD []

/-- Folding may nest as deep as the expressions of a module do. -/
def Fits (limit : Nat) (module : Module) : Prop :=
  ∀ node ∈ foldedNodes module, node.nesting + definitionNesting [] module.bindings ≤ limit

/-- The analysis of a module is made of what its exports denote. -/
def Describes (limit : Nat) (module : Module) (analysis : Analysis) : Prop :=
  ∀ exports, componentExports? module = some exports →
    ∃ folded : FoldedExports, folded.Tells module.bindings (Fits limit module) exports ∧
      analysis = checkExports module module.bindings exports folded

theorem foldedNodes_eq {module : Module} (found : componentExports? module = some exports) :
    foldedNodes module = exports.foldedNodes := by
  simp [foldedNodes, found]

theorem analyzeModule_eq {module : Module} (found : componentExports? module = some exports) :
    analyzeModule limit module =
      ((foldExports module.bindings limit exports).run.run .empty).1.map
        (checkExports module module.bindings exports) := by
  unfold componentExports? Module.exportTable at found
  split at found
  · next seems => simp [analyzeModule, seems, found]
  · cases found

theorem analyzeModule_returns {module : Module}
    (unbroken : ∀ node ∈ foldedNodes module, ∀ bad,
      Relation.ReflTransGen (Demands module.bindings) node bad → ¬Breaks module.bindings bad) :
    ∃ analysis, analyzeModule limit module = .ok analysis ∧ Describes limit module analysis := by
  cases found : componentExports? module with
  | none =>
      have returned : ∃ analysis, analyzeModule limit module = .ok analysis := by
        unfold componentExports? Module.exportTable at found
        unfold analyzeModule
        by_cases seems : seemsComponent (module.exportsWith module.bindings) = true
        · simp only [seems, if_true] at found ⊢
          rw [found]
          exact ⟨_, rfl⟩
        · simp only [seems]
          exact ⟨_, rfl⟩
      rcases returned with ⟨analysis, returned⟩
      exact ⟨analysis, returned, fun exports found' => nomatch found.symm.trans found'⟩
  | some exports =>
      have isFolded := foldedNodes_eq found
      have fits (isEnough : Fits limit module) (node : Node) (mem : node ∈ exports.foldedNodes) :
          node.nesting + definitionNesting [] module.bindings ≤ limit :=
        isEnough node (isFolded ▸ mem)
      obtain ⟨folded, after, outcome, tells⟩ :=
        foldExports_returns fits fun node mem => unbroken node (isFolded ▸ mem)
      refine ⟨checkExports module module.bindings exports folded, ?_, ?_⟩
      · rw [analyzeModule_eq found, outcome]
        rfl
      · intro other found'
        cases found.symm.trans found'
        exact ⟨folded, tells, rfl⟩

theorem analyzeModule_breaks {module : Module} (fits : Fits limit module) {node bad : Node}
    (mem : node ∈ foldedNodes module)
    (needs : Relation.ReflTransGen (Needs module.bindings) node bad)
    (breaks : Breaks module.bindings bad) :
    analyzeModule limit module = .error .indexTooLong := by
  cases found : componentExports? module with
  | none => simp [foldedNodes, found] at mem
  | some exports =>
      have isFolded := foldedNodes_eq found
      obtain ⟨after, outcome⟩ := foldExports_breaks
        (fun node mem => fits node (isFolded ▸ mem)) (isFolded ▸ mem) needs breaks
      rw [analyzeModule_eq found, outcome]
      rfl

end Modules

/--
The analysis of a source of scalar values, whatever reads its statements. A source that cannot be
parsed is reported as a single issue; only if an escape sequence in one of its literals stands for a
number beyond 32 bits, there is no answer. A module is described by what its exports denote, unless
an expression that is folded for them reads an index with too many digits; if their values depend on
such a read, there is no answer either.
-/
theorem analyzeWith_answers (read : SourceReader) (limit : Nat) (characters : List Char) :
    let source : Text := characters.map CodePoint.ofChar
    let parsed := Module.parseWith read source
    let outcome := analyzeWith read limit source
    (∀ fault, parsed = .error fault → fault ≠ .tooLarge →
      outcome = .ok ⟨none, [.unreadable fault], Hint.looksLikeComponent source⟩) ∧
    (parsed = .error .tooLarge → outcome = .error (.source .tooLarge) ∧
      ∃ written, read characters = .ok written ∧
        ∃ statement ∈ written, ∃ body, statement.Writes body ∧ IsTooLarge body) ∧
    ∀ module, parsed = .ok module →
      ((∀ node ∈ foldedNodes module, ∀ bad,
          Relation.ReflTransGen (Demands module.bindings) node bad → ¬Breaks module.bindings bad) →
        ∃ analysis, outcome = .ok analysis ∧ Describes limit module analysis) ∧
      (∀ node ∈ foldedNodes module, ∀ bad,
        Relation.ReflTransGen (Needs module.bindings) node bad → Breaks module.bindings bad →
          Fits limit module → outcome = .error (.value .indexTooLong)) := by
  intro source parsed outcome
  refine ⟨?_, ?_, ?_⟩
  · intro fault failed ordinary
    have reported : fault.isReported = true := by
      by_contra unreported
      exact ordinary (Module.exists_escape_of_parseWith (by simpa using unreported) failed).1
    simp only [outcome, analyzeWith, show Module.parseWith read source = _ from failed, reported,
      if_true]
  · intro failed
    refine ⟨?_, (Module.exists_escape_of_parseWith rfl failed).2⟩
    simp only [outcome, analyzeWith, show Module.parseWith read source = _ from failed]
    rfl
  · intro module parsed
    simp only [outcome, analyzeWith, show Module.parseWith read source = _ from parsed]
    constructor
    · intro unbroken
      have answer : ∃ analysis, analyzeModule limit module = .ok analysis ∧
          Describes limit module analysis := analyzeModule_returns unbroken
      rcases answer with ⟨analysis, returned, describes⟩
      exact ⟨analysis, by rw [returned]; rfl, describes⟩
    · intro node mem bad needs breaks fits
      rw [analyzeModule_breaks fits mem needs breaks]
      rfl

/-- A source gets no answer if a string in it has an escape sequence beyond 32 bits. -/
theorem analyze_escape_beyond :
    ¬∀ characters : List Char,
      ∃ analysis, analyze (characters.map CodePoint.ofChar) = .ok analysis := by
  intro answers
  let characters : List Char := "export const metadata = \"\\u\x7b80000000\x7d\";".toList
  have isTooLarge : (match Module.parse (characters.map CodePoint.ofChar) with
      | .error fault => fault == .tooLarge
      | .ok _ => false) = true := by decide +kernel
  rcases answers characters with ⟨analysis, answered⟩
  cases parsed : Module.parse (characters.map CodePoint.ofChar) with
  | ok module => simp [parsed] at isTooLarge
  | error fault =>
      have same : fault = .tooLarge := by simpa [parsed] using isTooLarge
      unfold analyze analyzeWithin analyzeWith at answered
      rw [show Module.parseWith readStatements _ = _ from parsed] at answered
      simp [same, ModuleFault.isReported] at answered

end Component

end ComponentInliner
