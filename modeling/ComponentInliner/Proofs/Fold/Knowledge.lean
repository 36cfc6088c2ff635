import ComponentInliner.Proofs.Fold.Steps

/-!
# What a folder knows for sure

A folder may know nothing but values, and with an expression all that it demands. Then it can do
without folding any of this again. As long as everything that it is asked for has a value, a folder
that begins with nothing stays like that.
-/

namespace ComponentInliner

open Fold

namespace FoldMemo

/-- The outcome of an expression is known. -/
def Knows (memo : FoldMemo) (node : Node) : Prop :=
  ∃ result, memo.nodes.get? node = some result

/-- The outcome of a name is known. -/
def KnowsName (memo : FoldMemo) (name : Text) : Prop :=
  ∃ result, memo.names.get? name = some result

/-- What is known in one memo is known in another one. -/
structure Below (memo more : FoldMemo) : Prop where
  nodes : ∀ node, memo.Knows node → more.Knows node
  names : ∀ name, memo.KnowsName name → more.KnowsName name

namespace Below

variable {memo more most : FoldMemo}

theorem refl (memo : FoldMemo) : memo.Below memo :=
  ⟨fun _ known => known, fun _ known => known⟩

theorem trans (first : memo.Below more) (second : more.Below most) : memo.Below most :=
  ⟨fun node known => second.nodes node (first.nodes node known),
    fun name known => second.names name (first.names name known)⟩

theorem of_empty (memo : FoldMemo) : FoldMemo.empty.Below memo :=
  ⟨fun _ ⟨_, known⟩ => (nomatch known), fun _ ⟨_, known⟩ => (nomatch known)⟩

end Below

section Insertion

variable {memo : FoldMemo} {node other : Node} {name otherName : Text} {result : Option Value}

theorem knows_insertNode :
    ({ memo with nodes := memo.nodes.insert node result } : FoldMemo).Knows other ↔
      other = node ∨ memo.Knows other := by
  unfold Knows
  rw [OrderedMap.get?_insert]
  split <;> simp_all

theorem knowsName_insertName :
    ({ memo with names := memo.names.insert name result } : FoldMemo).KnowsName otherName ↔
      otherName = name ∨ memo.KnowsName otherName := by
  unfold KnowsName
  rw [OrderedMap.get?_insert]
  split <;> simp_all

/-- What is kept besides is more than before. -/
theorem below_insertNode :
    memo.Below { memo with nodes := memo.nodes.insert node result } :=
  ⟨fun _ known => knows_insertNode.mpr (.inr known), fun _ known => known⟩

theorem below_insertName :
    memo.Below { memo with names := memo.names.insert name result } :=
  ⟨fun _ known => known, fun _ known => knowsName_insertName.mpr (.inr known)⟩

theorem Below.insertNode {more : FoldMemo} {otherResult : Option Value} (below : memo.Below more) :
    ({ memo with nodes := memo.nodes.insert node result } : FoldMemo).Below
      { more with nodes := more.nodes.insert node otherResult } where
  nodes other known := by
    rw [knows_insertNode] at known ⊢
    exact known.imp_right (below.nodes other)
  names := below.names

theorem Below.insertName {more : FoldMemo} {otherResult : Option Value} (below : memo.Below more) :
    ({ memo with names := memo.names.insert name result } : FoldMemo).Below
      { more with names := more.names.insert name otherResult } where
  nodes := below.nodes
  names other known := by
    rw [knowsName_insertName] at known ⊢
    exact known.imp_right (below.names other)

end Insertion

/-- Only values are known, of all that the expressions demand of which anything is known. -/
structure Sure (bindings : BindingTable) (memo : FoldMemo) : Prop where
  denotes : ∀ node result, memo.nodes.get? node = some result →
    ∃ value, result = some value ∧ Denotes bindings node value
  demanded : ∀ node child, memo.Knows node → Demands bindings node child → memo.Knows child
  named : ∀ span name definition, memo.Knows (.identifier span name) →
    Resolves bindings name definition → memo.KnowsName name
  defined : ∀ name result, memo.names.get? name = some result →
    ∃ definition, Resolves bindings name definition ∧ memo.nodes.get? definition = some result

namespace Sure

variable {bindings : BindingTable} {memo more : FoldMemo}

theorem empty (bindings : BindingTable) : Sure bindings .empty :=
  ⟨nofun, fun _ _ ⟨_, known⟩ => (nomatch known), fun _ _ _ ⟨_, known⟩ => (nomatch known), nofun⟩

/-- What is known of an expression that has a value is the value. -/
theorem value {node : Node} {value : Value} (sure : Sure bindings memo) (known : memo.Knows node)
    (denotes : Denotes bindings node value) : memo.nodes.get? node = some (some value) := by
  rcases known with ⟨result, known⟩
  rcases sure.denotes node result known with ⟨own, rfl, denotesOwn⟩
  rw [known, denotesOwn.unique denotes]

theorem names_denote {span : Span} {name : Text} {result : Option Value}
    (sure : Sure bindings memo) (known : memo.names.get? name = some result) :
    ∃ value, result = some value ∧ Denotes bindings (.identifier span name) value := by
  rcases sure.defined name result known with ⟨definition, resolves, known⟩
  rcases sure.denotes definition result known with ⟨value, rfl, denotes⟩
  exact ⟨value, rfl, Denotes.of_rule (.definition resolves.ordinary resolves.found denotes)⟩

theorem names_agree {name : Text} {result other : Option Value} (sure : Sure bindings memo)
    (sureMore : Sure bindings more) (known : memo.names.get? name = some result)
    (knownMore : more.names.get? name = some other) : result = other := by
  rcases sure.defined name result known with ⟨definition, resolves, known⟩
  rcases sureMore.defined name other knownMore with ⟨definition', resolves', knownMore⟩
  cases resolves.found.symm.trans resolves'.found
  rcases sure.denotes definition result known with ⟨value, rfl, denotes⟩
  cases knownMore.symm.trans (sureMore.value ⟨other, knownMore⟩ denotes)
  rfl

theorem reaches {node child : Node} (sure : Sure bindings memo) (known : memo.Knows node)
    (reaches : Relation.ReflTransGen (Demands bindings) node child) : memo.Knows child := by
  induction reaches with
  | refl => exact known
  | tail _ demands ih => exact sure.demanded _ _ ih demands

theorem name_known {span : Span} {name : Text} {definition : Definition}
    (sure : Sure bindings memo) (known : memo.Knows (.identifier span name))
    (ordinary : name ≠ "undefined") (found : bindings.get? name = some definition) :
    memo.KnowsName name := by
  rcases known with ⟨result, known⟩
  rcases sure.denotes _ result known with ⟨value, -, denotes⟩
  cases denotes_iff_rule.mp denotes with
  | undefined => exact absurd rfl ordinary
  | @definition _ _ node _ _ found' own =>
      exact sure.named span name node ⟨result, known⟩ ⟨ordinary, found'⟩
  | global _ missing => cases missing.symm.trans found

theorem insertNode {node : Node} {value : Value} (sure : Sure bindings memo)
    (denotes : Denotes bindings node value)
    (demanded : ∀ child, Demands bindings node child → memo.Knows child)
    (named : ∀ span name definition, node = .identifier span name →
      Resolves bindings name definition → memo.KnowsName name) :
    Sure bindings { memo with nodes := memo.nodes.insert node (some value) } where
  denotes other result known := by
    rw [OrderedMap.get?_insert] at known
    split at known
    · next same =>
        cases known
        exact ⟨value, rfl, same ▸ denotes⟩
    · exact sure.denotes other result known
  demanded other child known demands := by
    rw [knows_insertNode] at known ⊢
    rcases known with rfl | known
    · exact .inr (demanded child demands)
    · exact .inr (sure.demanded other child known demands)
  named span name definition known resolves := by
    rcases knows_insertNode.mp known with rfl | known
    · exact named span name definition rfl resolves
    · exact sure.named span name definition known resolves
  defined name result known := by
    rcases sure.defined name result known with ⟨definition, resolves, known⟩
    refine ⟨definition, resolves, ?_⟩
    rw [OrderedMap.get?_insert]
    split
    · next same =>
        rcases sure.denotes definition result known with ⟨own, rfl, denotesOwn⟩
        have denotesNode : Denotes bindings node own := same ▸ denotesOwn
        rw [denotesNode.unique denotes]
    · exact known

theorem insertName {name : Text} {definition : Node} {value : Value} (sure : Sure bindings memo)
    (resolves : Resolves bindings name definition)
    (known : memo.nodes.get? definition = some (some value)) :
    Sure bindings { memo with names := memo.names.insert name (some value) } where
  denotes := sure.denotes
  demanded := sure.demanded
  named span other definition known resolves :=
    knowsName_insertName.mpr (.inr (sure.named span other definition known resolves))
  defined other result found := by
    rw [OrderedMap.get?_insert] at found
    split at found
    · next same =>
        cases found
        exact ⟨definition, same ▸ resolves, known⟩
    · exact sure.defined other result found

end Sure

end FoldMemo

namespace Fold

open FoldMemo

/-- What an action is held to holds of its runs. -/
theorem Contract.Meets.runs {contract : Contract} {Result : Type} {action : FoldM Result}
    {post : Result → Prop} {before after : FoldMemo} {result : Result}
    (meets : contract.Meets action post) (known : contract.known before)
    (ran : Runs action before result after) : contract.known after ∧ post result := by
  have held := meets before known
  rw [ran] at held
  exact held

section Regions

variable {bindings : BindingTable}

/-- Expressions and names among which folding stays once it is there. -/
structure Region (bindings : BindingTable) where
  nodes : Node → Prop
  names : Text → Prop
  demanded : ∀ {node child}, nodes node → Demands bindings node child → nodes child
  named : ∀ {span name definition}, nodes (.identifier span name) → name ≠ "undefined" →
    bindings.get? name = some definition → names name

/-- Only expressions and names of the region are known. -/
structure Region.Holds (region : Region bindings) (memo : FoldMemo) : Prop where
  nodes : ∀ node, memo.Knows node → region.nodes node
  names : ∀ name, memo.KnowsName name → region.names name

/-- Nothing besides the values and the region. -/
def Region.watched (region : Region bindings) : Watched bindings where
  kept := region.nodes
  keptName := region.names
  keeps := region.demanded
  keepsName := region.named
  settled _ _ := True
  waits _ := trivial
  combines _ _ := trivial
  enters _ := trivial
  leaves _ _ := trivial

/-- The terms on which folding stays in a region. -/
abbrev Region.terms (region : Region bindings) (resolving : List Text) : Contract :=
  region.watched.terms False (fun _ => True) resolving

theorem Region.fold_folds (region : Region bindings) (limit : Nat) (resolving : List Text)
    {node : Node} (inside : region.nodes node) :
    (region.terms resolving).Folds (fold bindings limit resolving) node :=
  Watched.fold_folds (fun _ _ _ _ => trivial) limit False.elim False.elim trivial inside

theorem Region.holds_of_known {region : Region bindings} {resolving : List Text} {memo : FoldMemo}
    (knows : (region.terms resolving).known memo) : region.Holds memo :=
  ⟨fun node ⟨result, known⟩ => knows.kept node result known,
    fun name ⟨result, known⟩ => knows.keptName name result known⟩

theorem Region.known_of_holds {region : Region bindings} {resolving : List Text} {memo : FoldMemo}
    (sure : Sure bindings memo) (holds : region.Holds memo) :
    (region.terms resolving).known memo := by
  refine ⟨fun node result known => ⟨⟨?_, False.elim⟩, False.elim⟩,
    fun name result known span => ⟨⟨?_, False.elim⟩, False.elim⟩,
    fun node result known => holds.nodes node ⟨result, known⟩,
    fun name result known => holds.names name ⟨result, known⟩⟩
  · rintro value rfl
    rcases sure.denotes node _ known with ⟨own, ⟨⟩, denotes⟩
    exact denotes
  · rintro value rfl
    rcases sure.names_denote known with ⟨own, ⟨⟩, denotes⟩
    exact denotes

/-- All expressions and names. -/
def Region.all (bindings : BindingTable) : Region bindings where
  nodes _ := True
  names _ := True
  demanded _ _ := trivial
  named _ _ _ := trivial

variable {memo : FoldMemo}

/-- What is known already and what an expression demands. -/
def Region.beside (sure : Sure bindings memo) (root : Node) : Region bindings where
  nodes node := memo.Knows node ∨ Relation.ReflTransGen (Demands bindings) root node
  names name := memo.KnowsName name ∨ ∃ span definition,
    Relation.ReflTransGen (Demands bindings) root (.identifier span name) ∧ name ≠ "undefined" ∧
      bindings.get? name = some definition
  demanded inside demands :=
    inside.imp (sure.demanded _ _ · demands) (·.tail demands)
  named inside ordinary found :=
    inside.imp (sure.name_known · ordinary found) fun reaches => ⟨_, _, reaches, ordinary, found⟩

theorem Region.beside_holds {before : FoldMemo} {sure : Sure bindings memo} {root : Node}
    (below : before.Below memo) : (Region.beside sure root).Holds before :=
  ⟨fun node known => .inl (below.nodes node known), fun name known => .inl (below.names name known)⟩

/-- An expression that is known demands nothing that is not. -/
theorem Region.below_of_known {sure : Sure bindings memo} {root : Node} {after : FoldMemo}
    (known : memo.Knows root) (holds : (Region.beside sure root).Holds after) :
    after.Below memo := by
  constructor
  · intro node knownAfter
    rcases holds.nodes node knownAfter with before | reaches
    · exact before
    · exact sure.reaches known reaches
  · intro name knownAfter
    rcases holds.names name knownAfter with before | ⟨span, definition, reaches, ordinary, found⟩
    · exact before
    · exact sure.name_known (sure.reaches known reaches) ordinary found

end Regions

end Fold

end ComponentInliner
