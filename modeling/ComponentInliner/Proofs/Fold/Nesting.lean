import ComponentInliner.Proofs.Fold.Semantics
import Mathlib.Order.MinMax

/-!
# How deep folding nests

`Node.nesting` bounds how deep folding an expression nests until it reaches the definition of a
name. What a name stands for is folded once at most on the way down, so the definitions of all
names that are not being resolved bound the rest (`definitionNesting`).
-/

namespace ComponentInliner

mutual

/-- How many expressions an expression nests, itself included. -/
def Node.nesting : Node → Nat
  | .template _ _ parts => partsNesting parts + 1
  | .array _ elements => elementsNesting elements + 1
  | .object _ properties => propertiesNesting properties + 1
  | .spread _ argument | .unary _ _ argument => argument.nesting + 1
  | .binary _ _ left right | .logical _ _ left right => max left.nesting right.nesting + 1
  | .conditional _ test consequent alternate =>
      max test.nesting (max consequent.nesting alternate.nesting) + 1
  | .member _ object property _ _ => max object.nesting property.nesting + 1
  | .call _ _ arguments _ => nodesNesting arguments + 1
  | .literal _ _ _ | .identifier _ _ | .arrow _ _ | .function _ _ _ | .unsupported _ _ => 1

/-- How many expressions a property nests. -/
def Property.nesting : Property → Nat
  | .pair _ key _ value => max key.nesting value.nesting
  | .spread _ argument => argument.nesting
  | .shorthand _ _ | .method _ _ => 1

/-- How many expressions the substitutions of a template nest. -/
def partsNesting : List (Node × Text) → Nat
  | [] => 0
  | (node, _) :: rest => max node.nesting (partsNesting rest)

/-- How many expressions array elements nest. -/
def elementsNesting : List (Option Node) → Nat
  | [] => 0
  | none :: rest => elementsNesting rest
  | some node :: rest => max node.nesting (elementsNesting rest)

/-- How many expressions properties nest. -/
def propertiesNesting : List Property → Nat
  | [] => 0
  | property :: rest => max property.nesting (propertiesNesting rest)

/-- How many expressions arguments nest. -/
def nodesNesting : List Node → Nat
  | [] => 0
  | node :: rest => max node.nesting (nodesNesting rest)

end

/-- How many expressions a definition nests. -/
def Definition.nesting : Definition → Nat
  | .expression node => node.nesting
  | .function _ | .classLike _ => 0

/-- How many expressions the definitions of names nest that are not being resolved. -/
def entryNesting (resolving : List Text) : List (Text × Definition) → Nat
  | [] => 0
  | (name, definition) :: rest =>
      (if name ∈ resolving then 0 else definition.nesting) + entryNesting resolving rest

/-- How many expressions the definitions of all names nest that are not being resolved. -/
def definitionNesting (resolving : List Text) (bindings : BindingTable) : Nat :=
  entryNesting resolving bindings.entries

theorem Node.nesting_pos (node : Node) : 0 < node.nesting := by
  cases node <;> simp [Node.nesting]

namespace Fold

variable {bindings : BindingTable} {has : Node → Value → Prop}

theorem elementOperand_nesting_le (node : Node) : (elementOperand node).nesting ≤ node.nesting := by
  cases node <;> simp [elementOperand, Node.nesting]

theorem ElementsDemand.nesting_le {elements : List (Option Node)} {child : Node}
    (demanded : ElementsDemand has elements child) : child.nesting ≤ elementsNesting elements := by
  induction demanded with
  | first => exact le_max_of_le_left (elementOperand_nesting_le _)
  | @later element _ _ _ _ _ ih =>
      cases element with
      | none => exact ih
      | some node => exact le_max_of_le_right ih

theorem nodesNesting_eq (nodes : List Node) :
    elementsNesting (nodes.map some) = nodesNesting nodes := by
  induction nodes with
  | nil => rfl
  | cons node rest ih => simp [elementsNesting, nodesNesting, ih]

theorem PropertiesDemand.nesting_le {properties : List Property} {child : Node}
    (demanded : PropertiesDemand has properties child) :
    child.nesting ≤ propertiesNesting properties := by
  induction demanded with
  | key => exact le_max_of_le_left (le_max_left _ _)
  | value => exact le_max_of_le_left (le_max_right _ _)
  | shorthand | spread => exact le_max_left _ _
  | later _ _ ih => exact le_max_of_le_right ih

theorem TemplateDemands.nesting_le {parts : List (Node × Text)} {child : Node}
    (demanded : TemplateDemands has parts child) : child.nesting ≤ partsNesting parts := by
  induction demanded with
  | first => exact le_max_left _ _
  | later _ _ ih => exact le_max_of_le_right ih

theorem nesting_le_of_mem_chainOperators {node child : Node} (ahead : child ∈ chainOperators node) :
    child.nesting ≤ node.nesting := by
  fun_induction chainOperators node with
  | case1 span operator left right ih | case2 span operator left right ih =>
      rcases List.mem_cons.mp ahead with rfl | inner
      · exact le_rfl
      · exact (ih inner).trans ((le_max_left _ _).trans (Nat.le_succ _))
  | case3 => cases ahead

/-- Only the definition of a name may nest deeper than what demands it. -/
theorem Demands.nesting_lt {node child : Node} (demands : Demands bindings node child)
    (unnamed : ∀ span name, node ≠ .identifier span name) : child.nesting < node.nesting := by
  cases demands with
  | needed needs =>
      cases needs with
      | definition => exact absurd rfl (unnamed _ _)
      | substitution demanded => exact Nat.lt_succ_of_le demanded.nesting_le
      | element demanded => exact Nat.lt_succ_of_le demanded.nesting_le
      | property demanded => exact Nat.lt_succ_of_le demanded.nesting_le
      | operand => exact Nat.lt_succ_self _
      | binaryLeft | logicalLeft => exact Nat.lt_succ_of_le (le_max_left _ _)
      | binaryRight | logicalRight => exact Nat.lt_succ_of_le (le_max_right _ _)
      | test => exact Nat.lt_succ_of_le (le_max_left _ _)
      | branch =>
          simp only [Node.nesting]
          split <;> omega
      | owner => exact Nat.lt_succ_of_le (le_max_left _ _)
      | selector => exact Nat.lt_succ_of_le (le_max_right _ _)
      | argument _ demanded =>
          have nested := demanded.nesting_le
          rw [nodesNesting_eq] at nested
          exact Nat.lt_succ_of_le nested
  | aheadBinary _ ahead | aheadLogical ahead =>
      have nested := nesting_le_of_mem_chainOperators ahead
      simp only [Node.nesting]
      omega

theorem entryNesting_cons_le (resolving : List Text) (name : Text)
    (entries : List (Text × Definition)) :
    entryNesting (name :: resolving) entries ≤ entryNesting resolving entries := by
  induction entries with
  | nil => exact Nat.le_refl 0
  | cons entry rest ih =>
      have first : (if entry.1 ∈ name :: resolving then 0 else entry.2.nesting) ≤
          if entry.1 ∈ resolving then 0 else entry.2.nesting := by
        by_cases isResolving : entry.1 ∈ resolving
        · simp [isResolving]
        · by_cases isName : entry.1 = name <;> simp [isResolving, isName]
      exact Nat.add_le_add first ih

/-- Resolving one more name leaves its definition out of the bound. -/
theorem definitionNesting_cons {resolving : List Text} {name : Text} {definition : Definition}
    (fresh : name ∉ resolving) (found : bindings.get? name = some definition) :
    definition.nesting + definitionNesting (name :: resolving) bindings ≤
      definitionNesting resolving bindings := by
  unfold definitionNesting
  rcases bindings with ⟨entries⟩
  induction entries with
  | nil => cases found
  | cons entry rest ih =>
      rcases entry with ⟨present, old⟩
      rw [OrderedMap.get?_cons] at found
      by_cases atFirst : name = present
      · subst atFirst
        have isFirst : old = definition := by simpa using found
        have others := entryNesting_cons_le resolving name rest
        simp only [entryNesting, List.mem_cons, true_or, if_true, fresh, if_false, isFirst]
        omega
      · have others := ih (by simpa [atFirst] using found)
        simp only [entryNesting, List.mem_cons, Ne.symm atFirst, false_or] at others ⊢
        omega

end Fold

end ComponentInliner
