import ComponentInliner.Proofs.Fold.Run
import Mathlib.Data.List.Forall2

/-!
# The answers of a folder

A folder may be asked for many values, in any order and again and again. It keeps what it finds
out, failures included, and also what it found out before a question that could not be answered.
Every answer is nevertheless the one that the meaning of the expression prescribes.
-/

namespace ComponentInliner

open Fold

/-- The answers of a folder that folds expressions one after another. -/
def Folder.evaluateAll (folder : Folder) : List Node → List (Except ValueFault (Option Value))
  | [] => []
  | node :: rest =>
      let (outcome, after) := folder.evaluate node
      outcome :: after.evaluateAll rest

namespace Fold

/-- Nothing besides the values. -/
def Watched.nothing (bindings : BindingTable) : Watched bindings where
  kept _ := True
  keptName _ := True
  keeps _ _ := trivial
  keepsName _ _ _ := trivial
  settled _ _ := True
  waits _ := trivial
  combines _ _ := trivial
  enters _ := trivial
  leaves _ _ := trivial

/-- All that a folder knows between two questions is right. -/
abbrev KnowsValues (bindings : BindingTable) (enough : Prop) : FoldMemo → Prop :=
  (Watched.nothing bindings).Knows enough []

theorem knowsValues_of_knows {bindings : BindingTable} {enough : Prop} {resolving : List Text}
    {memo : FoldMemo} (knows : (Watched.nothing bindings).Knows enough resolving memo) :
    KnowsValues bindings enough memo where
  nodes node result known := ⟨(knows.nodes node result known).tells, fun _ => trivial⟩
  names name result known span := ⟨(knows.names name result known span).tells, fun _ => trivial⟩
  kept := knows.kept
  keptName := knows.keptName

/-- The outcome of a question is right: an answer is the value of the expression, or tells that it
has none if there is room enough to know; and there is an answer unless the expression demands one
that breaks folding off. -/
def AnswersRightly (bindings : BindingTable) (enough : Prop) (node : Node) :
    Except ValueFault (Option Value) → Prop
  | .ok result => Tells enough (Denotes bindings node) result
  | .error fault => fault = .indexTooLong ∧
      ∃ bad, Relation.ReflTransGen (Demands bindings) node bad ∧ Breaks bindings bad

end Fold

namespace Folder

section Questions

variable {enough : Prop}

/-- One question is answered rightly, and what the folder knows afterwards is right again. -/
theorem evaluate_right (folder : Folder) (node : Node)
    (fits : enough → node.nesting + definitionNesting [] folder.bindings ≤ folder.limit)
    (knows : KnowsValues folder.bindings enough folder.memo) :
    AnswersRightly folder.bindings enough node (folder.evaluate node).1 ∧
      ∃ memo, (folder.evaluate node).2 = { folder with memo := memo } ∧
        KnowsValues folder.bindings enough memo := by
  have folds : ((Watched.nothing folder.bindings).terms enough
      (Relation.ReflTransGen (Demands folder.bindings) node) []).Folds
        (fold folder.bindings folder.limit []) node :=
    Watched.fold_folds (fun _ _ reaches demands => reaches.tail demands) folder.limit fits
      (fun _ => nofun) .refl trivial
  have ran := folds folder.memo knows
  unfold evaluate evaluateDefinition
  simp only [foldDefinition]
  split at ran
  · next result after outcome =>
      simp only [outcome]
      exact ⟨ran.2.1, after, rfl, ran.1⟩
  · next fault after outcome =>
      simp only [outcome]
      rcases ran with ⟨⟨breaks, resolving, knows⟩, tooLong⟩
      exact ⟨⟨tooLong, breaks⟩, after, rfl, knowsValues_of_knows knows⟩

theorem evaluateAll_right (folder : Folder) (nodes : List Node)
    (fits : enough → ∀ node ∈ nodes,
      node.nesting + definitionNesting [] folder.bindings ≤ folder.limit)
    (knows : KnowsValues folder.bindings enough folder.memo) :
    List.Forall₂ (AnswersRightly folder.bindings enough) nodes (folder.evaluateAll nodes) := by
  induction nodes generalizing folder with
  | nil => exact .nil
  | cons node rest ih =>
      obtain ⟨answered, memo, after, knowsAfter⟩ := folder.evaluate_right node
        (fun isEnough => fits isEnough node (List.mem_cons_self ..)) knows
      have onRest := ih { folder with memo := memo }
        (fun isEnough other mem => fits isEnough other (List.mem_cons_of_mem _ mem)) knowsAfter
      rw [← after] at onRest
      exact .cons answered onRest

end Questions

/-- However deep folding may nest, a value that is answered is one that the expression has. -/
theorem evaluateAll_sound (bindings : BindingTable) (limit : Nat) (nodes : List Node) :
    List.Forall₂ (fun node outcome => ∀ value, outcome = .ok (some value) →
      Denotes bindings node value) nodes ((within limit bindings).evaluateAll nodes) := by
  have right := evaluateAll_right (within limit bindings) nodes False.elim Watched.knows_empty
  apply right.imp
  rintro node outcome answers value rfl
  exact answers.sound value rfl

/--
The answers of a folder that may nest deep enough, to any sequence of questions: a value exactly if
there is a finite derivation of it, and none if there is not, so that an expression that demands
itself has none. Only an expression that demands a read at an index with too many digits gets no
answer.
-/
theorem evaluateAll_exact (bindings : BindingTable) (limit : Nat) (nodes : List Node)
    (fits : ∀ node ∈ nodes, node.nesting + definitionNesting [] bindings ≤ limit) :
    List.Forall₂ (fun node outcome =>
        (∀ result, outcome = .ok result →
          ∀ value, result = some value ↔ Denotes bindings node value) ∧
        (Relation.TransGen (Demands bindings) node node →
          ∀ value, outcome ≠ .ok (some value)) ∧
        (∀ fault, outcome = .error fault → fault = .indexTooLong ∧
          ∃ bad, Relation.ReflTransGen (Demands bindings) node bad ∧ Breaks bindings bad))
      nodes ((within limit bindings).evaluateAll nodes) := by
  have right := evaluateAll_right (within limit bindings) nodes
    (fun _ : True => fits) Watched.knows_empty
  refine right.imp fun node outcome answers => ⟨?_, ?_, ?_⟩
  · rintro result rfl value
    exact ⟨answers.sound value, answers.complete trivial value⟩
  · rintro cycle value rfl
    exact not_denotes_of_demands_itself cycle value (answers.sound value rfl)
  · rintro fault rfl
    exact answers

/-- Two names that stand for each other have no value, whichever is asked for first; a name beside
them is not affected. -/
theorem evaluateAll_exact_of_cycle :
    let bindings : BindingTable := .ofList [
      ("a", .expression (.identifier ⟨10, 11⟩ "b")), ("b", .expression (.identifier ⟨23, 24⟩ "a")),
      ("c", .expression (.literal ⟨36, 39⟩ (.string "x") "\"x\""))]
    let nodes : List Node := [.identifier ⟨50, 51⟩ "b", .identifier ⟨52, 53⟩ "a",
      .logical ⟨54, 60⟩ .or (.identifier ⟨54, 55⟩ "c") (.identifier ⟨59, 60⟩ "a"),
      .identifier ⟨50, 51⟩ "b"]
    (∀ node ∈ nodes, node.nesting + definitionNesting [] bindings ≤ Fold.nestingLimit) ∧
      List.Forall₂ (fun node outcome =>
          (∀ result, outcome = .ok result →
            ∀ value, result = some value ↔ Denotes bindings node value) ∧
          (Relation.TransGen (Demands bindings) node node →
            ∀ value, outcome ≠ .ok (some value)) ∧
          (∀ fault, outcome = .error fault → fault = .indexTooLong ∧
            ∃ bad, Relation.ReflTransGen (Demands bindings) node bad ∧ Breaks bindings bad))
        nodes ((within Fold.nestingLimit bindings).evaluateAll nodes) := by
  intro bindings nodes
  have fits : ∀ node ∈ nodes, node.nesting + definitionNesting [] bindings ≤ Fold.nestingLimit := by
    decide
  exact ⟨fits, evaluateAll_exact bindings Fold.nestingLimit nodes fits⟩

end Folder

end ComponentInliner
