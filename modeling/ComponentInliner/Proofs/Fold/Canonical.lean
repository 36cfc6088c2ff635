import ComponentInliner.Module.Parse
import ComponentInliner.Proofs.Fold.Exactness
import ComponentInliner.Proofs.Fold.Strings
import ComponentInliner.Proofs.Text.Utf16
import Mathlib.Data.List.Forall2

/-!
# Canonical strings in values

Strings stand for sequences of code units, and equality, spreads and `Array.from` read their code
points instead. For canonical strings that is the same. The literals of a module are canonical,
since the halves of a surrogate pair are joined within a literal. But `+` and templates put strings
together as they are: two halves that meet there stay apart, and the string is not canonical.
Nothing else makes such a string (`joinsApart_iff`).
-/

namespace ComponentInliner

open Text

/-- All strings in a value are canonical, and so are the names of properties. -/
abbrev Value.IsCanonical : Value → Prop :=
  Value.Consists Text.IsCanonical Text.IsCanonical

theorem durable_isCanonical : Durable Text.IsCanonical Text.IsCanonical where
  scalar := IsScalar.isCanonical
  separated {left right} leftCanonical rightCanonical := by
    have comma : IsScalar "," := isScalar_ofString _
    have onFront : (left ++ ",").IsCanonical :=
      isCanonical_append.mpr ⟨leftCanonical, comma.isCanonical, comma.not_meet_right⟩
    refine isCanonical_append.mpr ⟨onFront, rightCanonical, fun meet => ?_⟩
    exact comma.not_meet_left ((meet_append (by decide)).mp meet)
  point _ _ := trivial
  key canonical := canonical

namespace Fold

section Canonical

variable {bindings : BindingTable} {node : Node}

/-- What is spelled in an expression and in what its value needs is canonical. -/
def SpellsCanonical (bindings : BindingTable) (node : Node) : Prop :=
  ∀ needed, Relation.ReflTransGen (Needs bindings) node needed →
    ∀ text ∈ needed.spelledTexts ++ needed.spelledNames, text.IsCanonical

/-- Wherever strings are put together for the value of an expression, no two halves of a surrogate
pair meet. -/
def JoinsApart (bindings : BindingTable) (node : Node) : Prop :=
  ∀ needed, Relation.ReflTransGen (Needs bindings) node needed →
    ∀ pieces, PutsTogether bindings needed pieces → Apart pieces

theorem SpellsCanonical.reached {needed : Node} (spells : SpellsCanonical bindings node)
    (reaches : Relation.ReflTransGen (Needs bindings) node needed) :
    SpellsCanonical bindings needed :=
  fun other later => spells other (reaches.trans later)

theorem JoinsApart.reached {needed : Node} (apart : JoinsApart bindings node)
    (reaches : Relation.ReflTransGen (Needs bindings) node needed) : JoinsApart bindings needed :=
  fun other later => apart other (reaches.trans later)

theorem SpellsCanonical.madeOf (spells : SpellsCanonical bindings node)
    (apart : JoinsApart bindings node) :
    MadeOf bindings Text.IsCanonical Text.IsCanonical node where
  texts needed reaches text mem := spells needed reaches text (List.mem_append_left _ mem)
  names needed reaches name mem := spells needed reaches name (List.mem_append_right _ mem)
  joins needed reaches pieces together areCanonical :=
    isCanonical_flatten.mpr ⟨areCanonical, apart needed reaches pieces together⟩

theorem Denotes.isCanonical {value : Value} (denotes : Denotes bindings node value)
    (spells : SpellsCanonical bindings node) (apart : JoinsApart bindings node) :
    value.IsCanonical := by
  rcases denotes with ⟨height, derived⟩
  exact derived.consists durable_isCanonical (spells.madeOf apart)

/-- An expression that puts strings together has the whole string as its value. -/
theorem PutsTogether.denotes {pieces : List Text} (together : PutsTogether bindings node pieces) :
    Denotes bindings node (.string pieces.flatten) := by
  cases together with
  | @sum span left right leftValue rightValue text onLeft onRight isText =>
      have isSum : leftValue.add rightValue = .string (leftValue.toText ++ rightValue.toText) := by
        rcases Value.add_cases leftValue rightValue with isSum | ⟨number, isNumber⟩
        · exact isSum
        · cases isText.symm.trans isNumber
      refine .of_rule (.binary rfl onLeft onRight ?_)
      rw [BinaryOperator.result?, isSum]
      simp
  | template filled =>
      exact .of_rule (.template (templateHas_iff.mpr ⟨_, filled, List.flatten_cons⟩))

/-- If only canonical texts are spelled, then everything that a value needs has canonical strings
exactly if nowhere two halves of a surrogate pair meet. -/
theorem joinsApart_iff (spells : SpellsCanonical bindings node) :
    JoinsApart bindings node ↔
      ∀ needed, Relation.ReflTransGen (Needs bindings) node needed →
        ∀ value, Denotes bindings needed value → value.IsCanonical := by
  constructor
  · intro apart needed reaches value denotes
    exact denotes.isCanonical (spells.reached reaches) (apart.reached reaches)
  · intro areCanonical needed reaches pieces together
    cases areCanonical needed reaches _ together.denotes with
    | string canonical => exact (isCanonical_flatten.mp canonical).2

section Sums

variable {leftText rightText : Text} {span leftSpan rightSpan : Span} {leftRaw rightRaw : Text}

/-- A sum of two string literals needs these literals and nothing else. -/
theorem reached_of_sum {needed : Node}
    (reaches : Relation.ReflTransGen (Needs bindings)
      (.binary span .add (.literal leftSpan (.string leftText) leftRaw)
        (.literal rightSpan (.string rightText) rightRaw)) needed) :
    needed = .binary span .add (.literal leftSpan (.string leftText) leftRaw)
        (.literal rightSpan (.string rightText) rightRaw) ∨
      needed = .literal leftSpan (.string leftText) leftRaw ∨
        needed = .literal rightSpan (.string rightText) rightRaw := by
  have alone {literalSpan : Span} {text raw : Text}
      (later : Relation.ReflTransGen (Needs bindings) (.literal literalSpan (.string text) raw)
        needed) : needed = .literal literalSpan (.string text) raw := by
    rcases Relation.ReflTransGen.cases_head later with same | ⟨child, needs, -⟩
    · exact same.symm
    · cases needs
  rcases Relation.ReflTransGen.cases_head reaches with same | ⟨child, needs, later⟩
  · exact .inl same.symm
  · cases needs with
    | binaryLeft => exact .inr (.inl (alone later))
    | binaryRight => exact .inr (.inr (alone later))

theorem spellsCanonical_sum (leftCanonical : leftText.IsCanonical)
    (rightCanonical : rightText.IsCanonical) :
    SpellsCanonical bindings (.binary span .add (.literal leftSpan (.string leftText) leftRaw)
      (.literal rightSpan (.string rightText) rightRaw)) := by
  intro needed reaches text mem
  rcases reached_of_sum reaches with rfl | rfl | rfl
  · cases mem
  · rw [List.mem_singleton.mp mem]
    exact leftCanonical
  · rw [List.mem_singleton.mp mem]
    exact rightCanonical

theorem joinsApart_sum (apart : ¬Meet leftText rightText) :
    JoinsApart bindings (.binary span .add (.literal leftSpan (.string leftText) leftRaw)
      (.literal rightSpan (.string rightText) rightRaw)) := by
  have value {literalSpan : Span} {text raw : Text} {value : Value}
      (denotes : Denotes bindings (.literal literalSpan (.string text) raw) value) :
      value = .string text :=
    denotes.unique (.of_rule (.literal rfl))
  intro needed reaches pieces together
  rcases reached_of_sum reaches with rfl | rfl | rfl
  · cases together with
    | sum onLeft onRight =>
        rw [value onLeft, value onRight]
        exact apart_pair.mpr apart
  · cases together
  · cases together

end Sums

end Canonical

end Fold

namespace Folder

open Fold

/--
Suppose that all texts that are spelled in some expressions, and in what their values need, are
canonical. Then all values on the way are canonical exactly if no two halves of a surrogate pair
meet where `+` or a template puts strings together, and then so are the values that are answered.
Canonical strings are strictly equal exactly if they have the same code units, and they are split
into the code points that these units spell.
-/
theorem evaluateAll_canonical (bindings : BindingTable) (limit : Nat) (nodes : List Node)
    (spells : ∀ node ∈ nodes, SpellsCanonical bindings node) :
    List.Forall₂ (fun node outcome =>
        (JoinsApart bindings node ↔
          ∀ needed, Relation.ReflTransGen (Needs bindings) node needed →
            ∀ value, Denotes bindings needed value → value.IsCanonical) ∧
        (JoinsApart bindings node → ∀ value, outcome = .ok (some value) → value.IsCanonical))
      nodes ((within limit bindings).evaluateAll nodes) ∧
    (∀ left right, (Value.string left).IsCanonical → (Value.string right).IsCanonical →
      ((Value.string left).strictEquals (.string right) = true ↔ left.units = right.units)) ∧
    ∀ text, (Value.string text).IsCanonical →
      let points := (ofUnits text.units).map fun point => Value.string [point]
      (∀ span, ConstantCall.arrayFrom.result span [.string text] = .ok (.array span points)) ∧
        ∀ span argument, elementValues? (.spread span argument) (.string text) = some points := by
  refine ⟨?_, ?_, ?_⟩
  · have sound := (List.forall₂_and_left _ _).mpr ⟨spells, evaluateAll_sound bindings limit nodes⟩
    refine sound.imp fun node outcome ⟨spellsNode, denotes⟩ => ⟨joinsApart_iff spellsNode, ?_⟩
    exact fun apart value answered => (denotes value answered).isCanonical spellsNode apart
  · intro left right onLeft onRight
    cases onLeft with
    | string leftCanonical =>
        cases onRight with
        | string rightCanonical =>
            rw [Value.strictEquals, decide_eq_true_iff]
            exact (units_inj leftCanonical rightCanonical).symm
  · intro text onText
    cases onText with
    | string canonical =>
        rw [ofUnits_units canonical]
        exact ⟨fun _ => rfl, fun _ _ => rfl⟩

section Halves

/-- The text of an answer that is a string. -/
def answeredText? : Except ValueFault (Option Value) → Option Text
  | .ok (some (.string text)) => some text
  | _ => none

theorem eq_of_answeredText? {outcome : Except ValueFault (Option Value)} {text : Text}
    (answered : answeredText? outcome = some text) : outcome = .ok (some (.string text)) := by
  unfold answeredText? at answered
  split at answered
  · cases answered
    rfl
  · cases answered

/-- One half of a surrogate pair is put together with another character. -/
theorem evaluateAll_canonical_of_half :
    let half : Node := .literal ⟨14, 22⟩ (.string [0xD83D]) "'\\ud83d'"
    let sum : Node := .binary ⟨14, 28⟩ .add half (.literal ⟨25, 28⟩ (.string "x") "'x'")
    let bindings : BindingTable := .ofList [("value", .expression sum)]
    SpellsCanonical bindings sum ∧ JoinsApart bindings sum ∧
      (within Fold.nestingLimit bindings).evaluateAll [sum] =
        [.ok (some (.string [0xD83D, 0x78]))] ∧
      (Value.string [0xD83D, 0x78]).IsCanonical := by
  intro half sum bindings
  have spells : SpellsCanonical bindings sum :=
    spellsCanonical_sum trivial (isScalar_ofString "x").isCanonical
  have apart : JoinsApart bindings sum :=
    joinsApart_sum (IsScalar.not_meet_right (isScalar_ofString "x"))
  have answered : (within Fold.nestingLimit bindings).evaluateAll [sum] =
      [.ok (some (.string [0xD83D, 0x78]))] :=
    congrArg ([·]) (eq_of_answeredText? (by decide +kernel))
  have spellsAll : ∀ node ∈ [sum], SpellsCanonical bindings node :=
    List.forall_mem_singleton.mpr spells
  rcases evaluateAll_canonical bindings Fold.nestingLimit [sum] spellsAll with ⟨answers, -⟩
  rw [answered] at answers
  cases answers with
  | cons first _ => exact ⟨spells, apart, answered, first.2 apart _ rfl⟩

/-- The texts of two string literals that are added, if an expression is such a sum. -/
def literalSum? : Node → Option (Text × Text)
  | .binary _ .add (.literal _ (.string left) _) (.literal _ (.string right) _) =>
      some (left, right)
  | _ => none

theorem spellsCanonical_of_literalSum? {bindings : BindingTable} {node : Node} {left right : Text}
    (isSum : literalSum? node = some (left, right)) (leftCanonical : left.IsCanonical)
    (rightCanonical : right.IsCanonical) : SpellsCanonical bindings node := by
  unfold literalSum? at isSum
  split at isSum
  · cases isSum
    exact spellsCanonical_sum leftCanonical rightCanonical
  · cases isSum

/-- What the value of a name is in a module. -/
def definition? (module : Module) (name : Text) : Option Node :=
  match module.bindings.get? name with
  | some (.expression node) => some node
  | _ => none

/-- Two literals that each hold one half of a surrogate pair are canonical, and their sum is not: it
has the code units of the whole pair and is not equal to it. -/
theorem not_canonical_of_halves :
    let source : Text := "const value = '\\ud83d' + '\\ude00';"
    ∃ module node, Module.parse source = .ok module ∧ definition? module "value" = some node ∧
      SpellsCanonical module.bindings node ∧
      ∃ sum, ((within Fold.nestingLimit module.bindings).evaluate node).1 =
          .ok (some (.string sum)) ∧
        ¬(Value.string sum).IsCanonical ∧ sum.units = units [0x1F600] ∧
          (Value.string sum).strictEquals (.string [0x1F600]) = false := by
  intro source
  have spelled : (Module.parse source).toOption.bind (fun module =>
      (definition? module "value").bind literalSum?) = some ([0xD83D], [0xDE00]) := by
    decide +kernel
  have folded : (Module.parse source).toOption.bind (fun module =>
      (definition? module "value").bind fun node =>
        answeredText? ((within Fold.nestingLimit module.bindings).evaluate node).1) =
          some [0xD83D, 0xDE00] := by
    decide +kernel
  rcases Option.bind_eq_some_iff.mp spelled with ⟨module, parsed, spelled⟩
  rcases Option.bind_eq_some_iff.mp spelled with ⟨node, defined, isSum⟩
  rw [parsed, Option.bind_some, defined, Option.bind_some] at folded
  refine ⟨module, node, toOption_eq_some.mp parsed, defined,
    spellsCanonical_of_literalSum? isSum trivial trivial, _, eq_of_answeredText? folded, ?_,
    by decide, by decide⟩
  intro isCanonical
  cases isCanonical with
  | string canonical => exact canonical.1 (by decide)

end Halves

end Folder

end ComponentInliner
