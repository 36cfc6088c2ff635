import ComponentInliner.Proofs.Fold.Breaking
import ComponentInliner.Proofs.Fold.Exactness
import ComponentInliner.Proofs.Fold.Objects
import ComponentInliner.Proofs.Script.Blanks
import ComponentInliner.Script.Parse

/-!
# Array literals

An array literal as it is written: slots with commas between them, each with an element in it or
with nothing but blanks and comments. The parser reads commas and elements one after the other, and
the slots are found again from these: an element waits for the comma behind it, and a comma without
one makes a hole. So an array has the slots as they are written, without the last one if that is
empty, and as many elements when it is folded (`arrayLiteral_slots`).
-/

namespace ComponentInliner

namespace Script

/-! ## Slots -/

/-- A cursor stands directly before a mark. -/
structure Cursor.StandsAt (cursor : Cursor) (mark : Char) (rest : List Char) (offset : Nat) :
    Prop where
  isRest : cursor.rest = mark :: rest
  isOffset : cursor.offset = offset
  isToken : cursor.token = Token.at (mark :: rest)

/-- A slot that stands at an offset before a mark: there is nothing in it, or the grammar reads an
element from it, up to the mark, that has a node. -/
inductive Slot (grammar : Grammar) (limit offset : Nat) (mark : Char) (rest : List Char) :
    List Char → Option Node → Prop
  | empty {slot : List Char} (isVoid : IsVoid slot) : Slot grammar limit offset mark rest slot none
  | full {slot : List Char} {operand : Operand} {after : Cursor} {node : Node}
      (read : (element grammar).run (Cursor.opened (slot ++ mark :: rest) offset) =
        some (operand, after))
      (ends : after.StandsAt mark rest (offset + byteCount slot))
      (isNode : Node.ofExpression limit operand.expression = .ok node) :
      Slot grammar limit offset mark rest slot (some node)

/-- What stands between the brackets of an array literal. -/
def joinSlots (slots : List (List Char)) : List Char :=
  List.intercalate [','] slots

/-- An array literal with some slots, as it is written. -/
def arrayCharacters (slots : List (List Char)) : List Char :=
  '[' :: (joinSlots slots ++ [']'])

/-- The slots of an array literal that goes on from an offset up to its closing bracket, with the
nodes of those that are not empty. -/
inductive Slots (grammar : Grammar) (limit : Nat) (rest : List Char) :
    Nat → List (List Char) → List (Option Node) → Prop
  | last {offset : Nat} {slot : List Char} {node? : Option Node}
      (here : Slot grammar limit offset ']' rest slot node?) :
      Slots grammar limit rest offset [slot] [node?]
  | cons {offset : Nat} {slot next : List Char} {more : List (List Char)} {node? : Option Node}
      {nodes : List (Option Node)}
      (here : Slot grammar limit offset ',' (joinSlots (next :: more) ++ ']' :: rest) slot node?)
      (following : Slots grammar limit rest (offset + byteCount slot + 1) (next :: more) nodes) :
      Slots grammar limit rest offset (slot :: next :: more) (node? :: nodes)

/-- Slots without the last one if that is empty. -/
def withoutLastHole {Item : Type} : List (Option Item) → List (Option Item)
  | [] => []
  | [none] => []
  | slot :: more => slot :: withoutLastHole more

section Reading

variable {bound limit offset : Nat} {rest : List Char}

/-- The marks that a slot stands before. -/
def IsMark (mark : Char) : Prop :=
  mark = ',' ∨ mark = ']'

theorem Cursor.StandsAt.next_of_comma {cursor : Cursor} (stands : cursor.StandsAt ',' rest offset) :
    cursor.next = Cursor.opened rest (offset + 1) := by
  rcases cursor with ⟨_, _, previousEnd, lineBreak, _, _⟩
  rcases stands with ⟨rfl, rfl, rfl⟩
  rfl

theorem Cursor.StandsAt.next_of_bracket {cursor : Cursor}
    (stands : cursor.StandsAt ']' rest offset) : cursor.next = Cursor.after rest (offset + 1) := by
  rcases cursor with ⟨_, _, previousEnd, lineBreak, _, _⟩
  rcases stands with ⟨rfl, rfl, rfl⟩
  rfl

theorem IsVoid.standsAt {slot : List Char} (isVoid : IsVoid slot) {mark : Char}
    (isMark : IsMark mark) (offset : Nat) (rest : List Char) :
    (Cursor.opened (slot ++ mark :: rest) offset).StandsAt mark rest (offset + byteCount slot) := by
  rcases isVoid.skipped offset false (mark :: rest) with ⟨broken, skipped⟩
  unfold Cursor.opened
  rw [skipped]
  rcases isMark with rfl | rfl
  · exact ⟨rfl, rfl, rfl⟩
  · exact ⟨rfl, rfl, rfl⟩

/-- No element begins with a comma or a closing bracket. -/
theorem element_at_mark {cursor : Cursor}
    (atMark : cursor.token = .punctuator "," ∨ cursor.token = .punctuator "]") :
    (element (grammar bound)).run cursor = none := by
  rcases cursor with ⟨_, _, previousEnd, lineBreak, _, _⟩
  cases bound with
  | zero =>
      rcases atMark with rfl | rfl
      · rfl
      · rfl
  | succ bound =>
      rcases atMark with rfl | rfl
      · rfl
      · rfl

theorem arrayTokens_end {grammar : Grammar} {cursor : Cursor}
    (stands : cursor.StandsAt ']' rest offset) (fuel : Nat) :
    (arrayTokens grammar (fuel + 1)).run cursor = some ([], Cursor.after rest (offset + 1)) := by
  have atEnd : cursor.token = .punctuator "]" := stands.isToken
  simp [arrayTokens, Parser.acceptSymbol, Parser.atSymbol, Parser.token, Parser.advance, atEnd,
    stands.next_of_bracket]

theorem arrayTokens_comma {grammar : Grammar} {cursor : Cursor}
    (stands : cursor.StandsAt ',' rest offset) (fuel : Nat) :
    (arrayTokens grammar (fuel + 1)).run cursor =
      ((arrayTokens grammar fuel).run (Cursor.opened rest (offset + 1))).map fun read =>
        ((.comma, none) :: read.1, read.2) := by
  have atComma : cursor.token = .punctuator "," := stands.isToken
  simp [arrayTokens, Parser.acceptSymbol, Parser.atSymbol, Parser.token, Parser.advance, atComma,
    stands.next_of_comma]

theorem arrayTokens_element {cursor after : Cursor} {operand : Operand} {mark : Char}
    (read : (element (grammar bound)).run cursor = some (operand, after)) (isMark : IsMark mark)
    (stands : after.StandsAt mark rest offset) (fuel : Nat) :
    (arrayTokens (grammar bound) (fuel + 1)).run cursor =
      ((arrayTokens (grammar bound) fuel).run after).map fun more =>
        ((.element operand.expression, some operand.shape) :: more.1, more.2) := by
  have notEnd : cursor.token ≠ .punctuator "]" := fun atEnd => by
    cases (element_at_mark (.inr atEnd)).symm.trans read
  have notComma : cursor.token ≠ .punctuator "," := fun atComma => by
    cases (element_at_mark (.inl atComma)).symm.trans read
  have atMark : after.token = .punctuator "," ∨ after.token = .punctuator "]" := by
    rcases isMark with rfl | rfl
    · exact .inl stands.isToken
    · exact .inr stands.isToken
  simp [arrayTokens, Parser.acceptSymbol, Parser.atSymbol, Parser.token, notEnd, notComma, read,
    atMark, Parser.require]

/-- A loop comes to an answer if it may go round often enough. -/
def Answers {Answer : Type} (run : Nat → Option Answer) (needed : Nat) (answer : Answer) : Prop :=
  ∀ fuel, needed ≤ fuel → run fuel = some answer

theorem Answers.mono {Answer : Type} {run : Nat → Option Answer} {needed more : Nat}
    {answer : Answer} (answers : Answers run needed answer) (enough : needed ≤ more) :
    Answers run more answer :=
  fun fuel isEnough => answers fuel (enough.trans isEnough)

/-- A round before a loop adds a token. -/
theorem Answers.step {Item State : Type} {run next : Nat → Option (List Item × State)}
    {needed : Nat} {token : Item} {tokens : List Item} {last : State}
    (answers : Answers run needed (tokens, last))
    (step : ∀ fuel, next (fuel + 1) = (run fuel).map fun more => (token :: more.1, more.2)) :
    Answers next (needed + 1) (token :: tokens, last) := by
  intro fuel isEnough
  rcases fuel with _ | fuel
  · cases isEnough
  · rw [step, answers fuel (Nat.le_of_succ_le_succ isEnough), Option.map_some]

/-- The last round of a loop. -/
theorem Answers.last {Answer : Type} {run : Nat → Option Answer} {answer : Answer}
    (found : ∀ fuel, run (fuel + 1) = some answer) : Answers run 1 answer := by
  intro fuel isEnough
  rcases fuel with _ | fuel
  · cases isEnough
  · exact found fuel

/-- The node in a slot. -/
def slotNode (limit : Nat) : Option Expression → Except ModuleFault (Option Node)
  | some element => some <$> Node.ofExpression limit element
  | none => pure none

/-- Before the closing bracket an element that waits makes a slot, and nothing makes none. -/
theorem mapM_slotNode_last {waiting : Option Expression} {node? : Option Node}
    (isNode : slotNode limit waiting = .ok node?) :
    (Node.arraySlots waiting []).mapM (slotNode limit) = .ok (withoutLastHole [node?]) := by
  cases waiting with
  | none =>
      cases isNode
      rfl
  | some element =>
      rw [Node.arraySlots, List.mapM_cons, isNode]
      rw [slotNode] at isNode
      cases found : Node.ofExpression limit element with
      | error fault =>
          rw [found] at isNode
          cases isNode
      | ok node =>
          rw [found] at isNode
          cases isNode
          rfl

theorem joinSlots_cons (slot next : List Char) (more : List (List Char)) :
    joinSlots (slot :: next :: more) = slot ++ ',' :: joinSlots (next :: more) := by
  simp [joinSlots, List.intercalate]

theorem Slots.ne_nil {grammar : Grammar} {slots : List (List Char)} {nodes : List (Option Node)}
    (read : Slots grammar limit rest offset slots nodes) : nodes ≠ [] := by
  cases read <;> exact nofun

theorem withoutLastHole_cons {Item : Type} (slot : Option Item) {more : List (Option Item)}
    (several : more ≠ []) : withoutLastHole (slot :: more) = slot :: withoutLastHole more := by
  cases more with
  | nil => exact absurd rfl several
  | cons next later => cases slot <;> rfl

/-- An element is read in one round, and an empty slot in none. Either way the slot waits for the
mark behind it. -/
theorem Slot.answers {mark : Char} {slot : List Char} {node? : Option Node}
    (read : Slot (grammar bound) limit offset mark rest slot node?) (isMark : IsMark mark)
    {needed : Nat} {tokens : List (ArrayToken × Option Shape)} {last : Cursor}
    (onMark : ∀ cursor : Cursor, cursor.StandsAt mark rest (offset + byteCount slot) →
      Answers (fun fuel => (arrayTokens (grammar bound) fuel).run cursor) needed (tokens, last)) :
    ∃ before waiting, Answers (fun fuel => (arrayTokens (grammar bound) fuel).run
        (Cursor.opened (slot ++ mark :: rest) offset)) (needed + 1) (before ++ tokens, last) ∧
      (∀ later, Node.arraySlots none (before.map Prod.fst ++ later) =
        Node.arraySlots waiting later) ∧
      slotNode limit waiting = .ok node? := by
  cases read with
  | empty isVoid =>
      exact ⟨[], none, (onMark _ (isVoid.standsAt isMark offset rest)).mono (Nat.le_succ _),
        fun _ => rfl, rfl⟩
  | @full operand after node read ends isNode =>
      refine ⟨[(.element operand.expression, some operand.shape)], some operand.expression,
        (onMark after ends).step (arrayTokens_element read isMark ends), fun _ => rfl, ?_⟩
      rw [slotNode, isNode]
      rfl

/-- The commas and elements of an array are those of its slots, and the slots are found again. -/
theorem Slots.answers {slots : List (List Char)} {nodes : List (Option Node)}
    (read : Slots (grammar bound) limit rest offset slots nodes) :
    ∃ tokens, Answers (fun fuel => (arrayTokens (grammar bound) fuel).run
        (Cursor.opened (joinSlots slots ++ ']' :: rest) offset)) (2 * slots.length)
        (tokens, Cursor.after rest (offset + byteCount (joinSlots slots) + 1)) ∧
      (Node.arraySlots none (tokens.map Prod.fst)).mapM (slotNode limit) =
        .ok (withoutLastHole nodes) := by
  -- From the last slot to the first one: behind a slot stands a mark, so what waits in it is
  -- settled before the slots that follow.
  induction read with
  | @last offset slot node? here =>
      have alone : joinSlots [slot] = slot := by simp [joinSlots, List.intercalate]
      have onBracket (cursor : Cursor)
          (stands : cursor.StandsAt ']' rest (offset + byteCount slot)) :
          Answers (fun fuel => (arrayTokens (grammar bound) fuel).run cursor) 1
            ([], Cursor.after rest (offset + byteCount slot + 1)) :=
        Answers.last (arrayTokens_end stands)
      rcases here.answers (.inr rfl) onBracket with ⟨before, waiting, answers, waits, isNode⟩
      have slots := waits []
      rw [List.append_nil] at answers slots
      refine ⟨before, by rwa [alone], ?_⟩
      rw [slots, mapM_slotNode_last isNode]
  | @cons offset slot next more node? nodes here following ih =>
      rcases ih with ⟨tokens, onRest, areNodes⟩
      have onComma (cursor : Cursor) (stands : cursor.StandsAt ','
          (joinSlots (next :: more) ++ ']' :: rest) (offset + byteCount slot)) :
          Answers (fun fuel => (arrayTokens (grammar bound) fuel).run cursor)
            (2 * (next :: more).length + 1) ((.comma, none) :: tokens, Cursor.after rest
              (offset + byteCount slot + 1 + byteCount (joinSlots (next :: more)) + 1)) :=
        onRest.step (arrayTokens_comma stands)
      rcases here.answers (.inl rfl) onComma with ⟨before, waiting, answers, waits, isNode⟩
      refine ⟨before ++ (.comma, none) :: tokens, ?_, ?_⟩
      · have sameEnd : offset + byteCount slot + 1 + byteCount (joinSlots (next :: more)) + 1 =
            offset + byteCount (joinSlots (slot :: next :: more)) + 1 := by
          have oneByte : ','.utf8Size = 1 := by decide
          rw [joinSlots_cons, byteCount_append, byteCount_cons, oneByte]
          omega
        have needed : 2 * (next :: more).length + 1 + 1 = 2 * (slot :: next :: more).length := by
          simp only [List.length_cons]
          omega
        rwa [sameEnd, needed, ← List.cons_append, ← List.append_assoc, ← joinSlots_cons] at answers
      · rw [List.map_append, waits, List.map_cons, Node.arraySlots, List.mapM_cons, isNode,
          areNodes, withoutLastHole_cons _ following.ne_nil]
        rfl

/-- An array literal is read as its commas and elements. -/
theorem primary_array (grammar : Grammar) (input : List Char) (offset : Nat) :
    (primary grammar).run (Cursor.after ('[' :: input) offset) =
      ((arrayTokens grammar grammar.bound).run (Cursor.opened input (offset + 1))).map fun read =>
        (⟨.array ⟨offset, read.2.previousEnd⟩ (read.1.map Prod.fst), offset,
          .literal (read.1.filterMap Prod.snd)⟩, read.2) := by
  have isArray : (primary grammar).run (Cursor.after ('[' :: input) offset) =
      (arrayLiteral grammar).run ⟨'[' :: input, offset, offset, false, .punctuator "[", .inr rfl⟩ :=
    rfl
  have next : Cursor.next ⟨'[' :: input, offset, offset, false, .punctuator "[", .inr rfl⟩ =
      Cursor.opened input (offset + 1) := rfl
  rw [isArray, Option.map_eq_bind]
  simp [arrayLiteral, Parser.position, Parser.expectSymbol, Parser.acceptSymbol, Parser.atSymbol,
    Parser.token, Parser.advance, Parser.require, Parser.spanFrom, next, Function.comp_def]

/-- The node of an array has the nodes of its slots. -/
theorem ofExpression_array {span : Span} {tokens : List ArrayToken} {elements : List (Option Node)}
    (areNodes : (Node.arraySlots none tokens).mapM (slotNode limit) = .ok elements) :
    Node.ofExpression (limit + 1) (.array span tokens) = .ok (.array span elements) := by
  have whole : Node.ofExpression (limit + 1) (.array span tokens) =
      .array span <$> (Node.arraySlots none tokens).mapM (slotNode limit) := rfl
  rw [whole, areNodes]
  rfl

theorem length_le_arrayCharacters (slots : List (List Char)) :
    slots.length ≤ (arrayCharacters slots).length := by
  have several : slots.length ≤ (joinSlots slots).length + 1 := by
    induction slots with
    | nil => exact Nat.zero_le _
    | cons slot more ih =>
        cases more with
        | nil => exact Nat.le_add_left 1 _
        | cons next later =>
            simp only [joinSlots_cons, List.length_append, List.length_cons] at ih ⊢
            omega
  rw [arrayCharacters, List.length_cons, List.length_append]
  exact several.trans (Nat.le_add_right _ _)

/-- An array literal is read up to its closing bracket, and has the nodes of its slots, without the
last one if that is empty. -/
theorem Slots.primary_run {slots : List (List Char)} {nodes : List (Option Node)}
    (read : Slots (grammar bound) limit rest (offset + 1) slots nodes)
    (enough : 2 * slots.length ≤ bound) :
    ∃ operand, (primary (grammar bound)).run (Cursor.after (arrayCharacters slots ++ rest) offset) =
        some (operand, Cursor.after rest (offset + byteCount (arrayCharacters slots))) ∧
      Node.ofExpression (limit + 1) operand.expression = .ok
        (.array ⟨offset, offset + byteCount (arrayCharacters slots)⟩ (withoutLastHole nodes)) := by
  rcases read.answers with ⟨tokens, answers, areNodes⟩
  have asWritten : arrayCharacters slots ++ rest = '[' :: (joinSlots slots ++ ']' :: rest) := by
    simp [arrayCharacters]
  have isStop : offset + 1 + byteCount (joinSlots slots) + 1 =
      offset + byteCount (arrayCharacters slots) := by
    have oneByte : '['.utf8Size = 1 ∧ byteCount [']'] = 1 := by decide
    simp only [arrayCharacters, byteCount_cons, byteCount_append, oneByte]
    omega
  have found := answers bound enough
  dsimp only at found
  rw [isStop] at found
  refine ⟨⟨.array ⟨offset, _⟩ (tokens.map Prod.fst), offset, .literal (tokens.filterMap Prod.snd)⟩,
    ?_, ofExpression_array areNodes⟩
  rw [asWritten, primary_array, grammar_bound, found]
  rfl

end Reading

end Script

/-! ## The elements of a folded array -/

namespace Fold

variable {bindings : BindingTable} {elements : List (Option Node)} {values : List Value}

/-- The value in a slot of an array: that of the node in it, and `undefined` at a hole. -/
def SlotHas (bindings : BindingTable) : Option Node → Value → Prop
  | none, value => value = .undefined
  | some node, value => Denotes bindings node value

def IsSpread (node : Node) : Prop :=
  ∃ span argument, node = .spread span argument

/-- Without spreads, an array has one element for each slot. -/
theorem elementsHave_iff (noSpread : ∀ node, some node ∈ elements → ¬IsSpread node) :
    ElementsHave (Denotes bindings) elements values ↔
      List.Forall₂ (SlotHas bindings) elements values := by
  constructor
  · intro filled
    induction filled with
    | nil => exact .nil
    | hole _ ih =>
        exact .cons rfl (ih fun node mem => noSpread node (List.mem_cons_of_mem _ mem))
    | @element node value added _ _ own adds _ ih =>
        have lone : ∀ span argument, node ≠ .spread span argument := fun span argument isSpread =>
          noSpread node (List.mem_cons_self ..) ⟨span, argument, isSpread⟩
        rcases elementOperand_of_ne lone with ⟨same, addsOne⟩
        rw [same] at own
        cases adds.symm.trans (addsOne value)
        exact .cons own (ih fun other mem => noSpread other (List.mem_cons_of_mem _ mem))
  · intro filled
    clear noSpread
    induction filled with
    | nil => exact .nil
    | @cons node? value _ _ own _ ih =>
        cases node? with
        | none =>
            cases own
            exact .hole ih
        | some node => exact .cons_of_denotes own ih

theorem denotes_array_iff {span : Span} {value : Value}
    (noSpread : ∀ node, some node ∈ elements → ¬IsSpread node) :
    Denotes bindings (.array span elements) value ↔
      ∃ values, value = .array span values ∧ List.Forall₂ (SlotHas bindings) elements values := by
  rw [denotes_iff_rule]
  constructor
  · intro derived
    cases derived with
    | array filled => exact ⟨_, rfl, (elementsHave_iff noSpread).mp filled⟩
  · rintro ⟨values, rfl, filled⟩
    exact .array ((elementsHave_iff noSpread).mpr filled)

end Fold

namespace Script

theorem mem_of_mem_withoutLastHole {Item : Type} {slot : Option Item} {slots : List (Option Item)}
    (mem : slot ∈ withoutLastHole slots) : slot ∈ slots := by
  fun_induction withoutLastHole slots with
  | case1 => exact mem
  | case2 => cases mem
  | case3 first more _ ih =>
      rcases List.mem_cons.mp mem with rfl | inRest
      · exact List.mem_cons_self ..
      · exact List.mem_cons_of_mem _ (ih inRest)

/--
An array literal is read up to its closing bracket. The bound of the grammar is at least twice what
is left of the source, and by `statementsWithin_eq` no bound as great as that is ever met. The node
of the array has the nodes of its slots in order, with holes for the empty ones, and
without the last one if that is empty. Folded, an array without spreads has one element for each of
these slots, `undefined` at a hole; and a folder that may nest deep enough finds them all if each
has a value.
-/
theorem arrayLiteral_slots {bound limit offset : Nat} {slots : List (List Char)} {rest : List Char}
    {nodes : List (Option Node)} (enough : 2 * (arrayCharacters slots ++ rest).length ≤ bound)
    (read : Slots (grammar bound) limit rest (offset + 1) slots nodes) :
    let span : Span := ⟨offset, offset + byteCount (arrayCharacters slots)⟩
    let array := Node.array span (withoutLastHole nodes)
    (∃ operand, (primary (grammar bound)).run
          (Cursor.after (arrayCharacters slots ++ rest) offset) =
        some (operand, Cursor.after rest span.stop) ∧
      Node.ofExpression (limit + 1) operand.expression = .ok array) ∧
      ((∀ node, some node ∈ nodes → ¬Fold.IsSpread node) →
        ∀ (bindings : BindingTable) (room : Nat) (questions : List Node),
          let filled := List.Forall₂ (Fold.SlotHas bindings) (withoutLastHole nodes)
          List.Forall₂ (fun question outcome => question = array →
              (∀ value, outcome = .ok (some value) → ∃ values, value = .array span values ∧
                filled values) ∧
              ((∀ node ∈ questions, node.nesting + definitionNesting [] bindings ≤ room) →
                ∀ values, filled values → outcome = .ok (some (.array span values))))
            questions ((Folder.within room bindings).evaluateAll questions)) := by
  intro span array
  have isEnough : 2 * slots.length ≤ bound := by
    have atMost := length_le_arrayCharacters slots
    rw [List.length_append] at enough
    omega
  refine ⟨read.primary_run isEnough, fun noSpread bindings room questions => ?_⟩
  intro filled
  have means (value : Value) : Fold.Denotes bindings array value ↔
      ∃ values, value = .array span values ∧ filled values :=
    Fold.denotes_array_iff fun node mem => noSpread node (mem_of_mem_withoutLastHole mem)
  have right := Folder.evaluateAll_right (Folder.within room bindings) questions id
    Fold.Watched.knows_empty
  refine right.imp ?_
  rintro question outcome answer rfl
  constructor
  · rintro value rfl
    exact (means value).mp (answer.sound value rfl)
  · intro fits values has
    have denotes := (means _).mpr ⟨values, rfl, has⟩
    cases outcome with
    | error fault =>
        rcases answer with ⟨-, bad, reaches, breaks⟩
        exact absurd breaks (denotes.unbroken reaches)
    | ok result => rw [answer.complete fits _ denotes]

/-- A comma and a bracket within comments separate and close nothing, and the blank behind the last
comma is no element. -/
theorem arrayLiteral_slots_of_comments :
    let first := Node.literal ⟨21, 25⟩ (.boolean true) "true"
    let slots := ["<!-- ,\n".toList, " /* a, ] */ true ".toList, "// b,\n".toList, " ".toList]
    let array := Node.array ⟨0, 36⟩ [none, some first, none]
    Slots (grammar 74) 1 [';'] 1 slots [none, some first, none, none] ∧
      (∃ operand, (primary (grammar 74)).run
          (Cursor.after "[<!-- ,\n, /* a, ] */ true ,// b,\n, ];".toList 0) =
            some (operand, Cursor.after [';'] 36) ∧
        Node.ofExpression 2 operand.expression = .ok array) ∧
      ((Folder.within Fold.nestingLimit .empty).evaluate array).1 =
        .ok (some (.array ⟨0, 36⟩ [.undefined, .boolean true, .undefined])) := by
  intro first slots array
  have read : Slots (grammar 74) 1 [';'] 1 slots [none, some first, none, none] := by
    have isMarkup : IsVoid "<!-- ,\n".toList :=
      @IsVoid.markupComment ['<', '!', '-', '-'] [' ', ','] [] '\n' (.inl rfl)
        (by simp [endsMarkupComment, isLineTerminator]) (by decide) .nil
    have isComment : IsVoid "// b,\n".toList :=
      @IsVoid.lineComment [' ', 'b', ','] [] '\n' (by simp [isLineTerminator]) (by decide) .nil
    have isTrue : Slot (grammar 74) 1 9 ',' "// b,\n, ];".toList " /* a, ] */ true ".toList
        (some first) := .full rfl ⟨rfl, rfl, rfl⟩ rfl
    have isBlank : IsVoid " ".toList := .blank (by decide) .nil
    exact .cons (.empty isMarkup)
      (.cons isTrue (.cons (.empty isComment) (.last (.empty isBlank))))
  have noSpread : ∀ node, some node ∈ [none, some first, none, none] → ¬Fold.IsSpread node := by
    rintro node mem ⟨span, argument, rfl⟩
    simp [first] at mem
  have values : List.Forall₂ (Fold.SlotHas .empty) [none, some first, none]
      [.undefined, .boolean true, .undefined] :=
    .cons rfl (.cons (.of_rule (.literal rfl)) (.cons rfl .nil))
  have fits : ∀ node ∈ [array],
      node.nesting + definitionNesting [] .empty ≤ Fold.nestingLimit := by decide
  rcases arrayLiteral_slots (by decide) read with ⟨isRead, folds⟩
  have onArray := (List.forall₂_cons.mp (folds noSpread .empty Fold.nestingLimit [array])).1
  exact ⟨read, isRead, (onArray rfl).2 fits _ values⟩

end Script

end ComponentInliner
