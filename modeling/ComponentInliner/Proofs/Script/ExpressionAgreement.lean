import ComponentInliner.Proofs.Script.Agreement
import ComponentInliner.Proofs.Script.Scanners
import ComponentInliner.Script.Markup

/-!
# Expressions read with different bounds

If two grammars agree on what is left of a source behind its next character, each production for
expressions does the same with both of them. A production enters a nonterminal of its grammar only
behind a character that it has read, or is no more than an entry to it; a loop goes round only
behind a character that the round has read, so it is never cut short by a bound that is not smaller
than what is left.
-/

namespace ComponentInliner.Script

open ComponentInliner.Script.Parser

/-- Two grammars read the same where fewer characters are left than the given numbers for
expressions and for statements, and their loops may go round more often than that. -/
structure Grammar.Agree (expressions statements : Nat) (first second : Grammar) : Prop where
  bound : expressions < first.bound
  bound' : expressions < second.bound
  assignment : ∀ allowIn, Parser.Agree Anywhere true expressions (first.assignment allowIn)
    (second.assignment allowIn)
  binary : ∀ allowIn precedence, Parser.Agree Anywhere true expressions
    (first.binary allowIn precedence) (second.binary allowIn precedence)
  unary : Parser.Agree Anywhere true expressions first.unary second.unary
  constructed : Parser.Agree Anywhere true expressions first.constructed second.constructed
  markup : Parser.Agree Anywhere true expressions first.markup second.markup
  statement : Parser.Agree Anywhere true statements first.statement second.statement

theorem Grammar.Agree.mono {expressions statements fewer few : Nat} {first second : Grammar}
    (agree : first.Agree expressions statements second) (isFewer : fewer ≤ expressions)
    (isFew : few ≤ statements) : first.Agree fewer few second where
  bound := Nat.lt_of_le_of_lt isFewer agree.bound
  bound' := Nat.lt_of_le_of_lt isFewer agree.bound'
  assignment allowIn := (agree.assignment allowIn).mono isFewer
  binary allowIn precedence := (agree.binary allowIn precedence).mono isFewer
  unary := agree.unary.mono isFewer
  constructed := agree.constructed.mono isFewer
  markup := agree.markup.mono isFewer
  statement := agree.statement.mono isFew

theorem Grammar.Agree.below {left few : Nat} {first second : Grammar}
    (agree : first.Agree left left second) (isFew : few < left) : first.Agree few few second :=
  agree.mono (Nat.le_of_lt isFew) (Nat.le_of_lt isFew)

theorem Grammar.Agree.le_bound {expressions statements : Nat} {first second : Grammar}
    (agree : first.Agree expressions statements second) : expressions ≤ first.bound :=
  Nat.le_of_lt agree.bound

theorem Grammar.Agree.le_bound' {expressions statements : Nat} {first second : Grammar}
    (agree : first.Agree expressions statements second) : expressions ≤ second.bound :=
  Nat.le_of_lt agree.bound'

/-! ## Looks -/

theorem looks_asValue (operand : Operand) : Looks (asValue operand) :=
  (Looks.require _).bind fun _ => .pure _

theorem looks_otherOperand (start : Nat) (kind : String) (shape : Shape) :
    Looks (otherOperand start kind shape) :=
  (Looks.spanFrom start).bind fun _ => .pure _

theorem looks_atNameEnd : Looks atNameEnd := by
  refine Looks.token.bind fun next => ?_
  split
  · exact .pure _
  · exact .pure _
  · exact .pure _

theorem looks_atArrow : Looks atArrow :=
  (Looks.atSymbol "=>").bind fun _ => Looks.afterLineBreak.bind fun _ => .pure _

theorem looks_parenthesizedOperand (start : Nat) (list : ListInParentheses) :
    Looks (parenthesizedOperand start list) := by
  refine (Looks.require _).bind fun _ => (Looks.require _).bind fun _ => ?_
  split
  · exact .failure
  · exact .pure _
  · exact .pure _

/-! ## Names and literals -/

section Literals

variable {here : Cursor → Prop} {left : Nat}

theorem agree_nameToken : Parser.Agree here true (left + 1) nameToken nameToken := by
  unfold nameToken
  refine .token fun next => ?_
  split
  · refine .look (.require _) fun _ => .look .position fun start => ?_
    exact .bind_lt (agree_advance_lt rfl) fun _ => .look (.spanFrom start) fun _ => .pure _
  · exact .failure

theorem agree_scanned {scan : List Char → Option (List Char × List Char)}
    (leaves : ∀ {input characters rest}, scan input = some (characters, rest) →
      rest.length < input.length) :
    Parser.Agree here true left (scanned scan) (scanned scan) := by
  unfold scanned
  refine .get fun place => ?_
  split
  · exact .failure
  · next characters rest found =>
    refine .bind_true (.set ?_) fun _ => .pure _
    rintro cursor ⟨-, rfl⟩
    exact Nat.lt_of_le_of_lt (Cursor.skips_after rest _) (leaves found)

theorem agree_numberLiteral : Parser.Agree here true left numberLiteral numberLiteral :=
  .bind_true (agree_scanned scanNumber_length) fun _ => .pure _

theorem agree_regexLiteral : Parser.Agree here true left regexLiteral regexLiteral :=
  .bind_true (agree_scanned scanRegex_length) fun _ => .pure _

theorem agree_stringLiteral : Parser.Agree here true left stringLiteral stringLiteral := by
  unfold stringLiteral
  refine .token fun next => ?_
  split
  · refine .get fun place => ?_
    split
    · exact .failure
    · next body found =>
      refine .bind_true (.set ?_) fun _ => .pure _
      rintro cursor ⟨-, rfl⟩
      have shorter := scanBody_length found
      have skipped := Cursor.skips_after (body.rest.drop 1)
        (cursor.offset + 2 + byteCount body.characters)
      simp only [List.length_drop] at shorter skipped
      unfold Cursor.left at skipped ⊢
      rw [Bool.toNat_true]
      omega
  · exact .failure

theorem agree_templateStretch {input : List Char} (offset : Nat)
    (isHere : ∀ cursor, here cursor → input.length ≤ cursor.left) :
    Parser.Agree here true left (templateStretch input offset) (templateStretch input offset) := by
  unfold templateStretch
  split
  · exact .failure
  · next body found =>
    have shorter := scanBody_length found
    dsimp only
    split
    · next rest isLast =>
      refine .bind_true (.set fun cursor at_ => ?_) fun _ => .pure _
      have atMost := isHere cursor at_
      have skipped := Cursor.skips_after rest (offset + byteCount body.characters + 1)
      rw [isLast, List.length_cons] at shorter
      rw [Bool.toNat_true]
      omega
    · refine .bind_true (.set fun cursor at_ => ?_) fun _ => .pure _
      have atMost := isHere cursor at_
      have skipped := Cursor.skips_opened (body.rest.drop 2)
        (offset + byteCount body.characters + 2)
      rw [List.length_drop] at skipped
      rw [Bool.toNat_true]
      omega

/-- The stretch behind the sign that comes next takes that sign. -/
theorem agree_stretchBehind (place : Cursor) :
    Parser.Agree (fun cursor => here cursor ∧ cursor = place) true left
      (templateStretch (place.rest.drop 1) (place.offset + 1))
      (templateStretch (place.rest.drop 1) (place.offset + 1)) := by
  refine agree_templateStretch _ ?_
  rintro cursor ⟨-, rfl⟩
  rw [List.length_drop]
  exact Nat.sub_le _ _

end Literals

section Productions

variable {here : Cursor → Prop} {left : Nat} {first second : Grammar}

/-! ## Values and sequences -/

section Values

variable {statements : Nat} (agree : first.Agree left statements second) (allowIn : Bool)

include agree

theorem agree_value : Parser.Agree Anywhere true left (first.value allowIn)
    (second.value allowIn) :=
  .bind_true (agree.assignment allowIn) fun operand => (looks_asValue operand).agree

theorem agree_sequenceRest : Parser.Agree Anywhere false left
    (sequenceRest first allowIn first.bound) (sequenceRest second allowIn second.bound) := by
  refine .rounds (fun isShort ih => ?_) agree.le_bound agree.le_bound'
  have agree := agree.mono (Nat.le_of_lt isShort) (Nat.le_refl _)
  unfold sequenceRest
  refine (accepts_symbol ",").ite ?_ (.pure _)
  exact .bind (agree_value agree allowIn).lax fun _ => .bind ih fun _ => .pure _

theorem agree_expression : Parser.Agree Anywhere true left (expression first allowIn)
    (expression second allowIn) := by
  refine .bind_true (agree.assignment allowIn) fun operand => ?_
  refine .look (.atSymbol ",") fun _ => .ite ?_ (.pure _)
  refine .look (looks_asValue operand) fun _ => ?_
  exact .bind (agree_sequenceRest agree allowIn) fun _ => (looks_otherOperand _ _ _).agree

theorem agree_expressionValue : Parser.Agree Anywhere true left (expressionValue first allowIn)
    (expressionValue second allowIn) :=
  .bind_true (agree_expression agree allowIn) fun operand => (looks_asValue operand).agree

end Values

variable (agree : first.Agree left left second)

include agree

/-! ## Templates -/

theorem agree_templateParts : Parser.Agree Anywhere false left
    (templateParts first first.bound) (templateParts second second.bound) := by
  refine .rounds (fun isShort ih => ?_) agree.le_bound agree.le_bound'
  have agree := agree.mono isShort isShort
  unfold templateParts
  refine .bind_lt (agree_expressionValue agree true) fun _ => ?_
  refine .look (.atSymbol _) fun _ => .look (.require _) fun _ => .get fun place => ?_
  refine (agree_stretchBehind place).lax.bind fun ⟨pieces, ended⟩ => .ite (.pure _) ?_
  exact ih.bind fun _ => .pure _

theorem agree_templateLiteral : Parser.Agree here true (left + 1) (templateLiteral first)
    (templateLiteral second) := by
  unfold templateLiteral
  refine .get fun place => .bind_lt (agree_stretchBehind place) fun ⟨pieces, ended⟩ => ?_
  refine .ite ?_ ?_
  · exact .look (.pure _) fun _ => .look (.spanFrom _) fun _ => .pure _
  · exact (agree_templateParts agree).bind fun _ => .look (.spanFrom _) fun _ => .pure _

/-! ## Arrays and argument lists -/

theorem agree_element : Parser.Agree Anywhere true left (element first) (element second) := by
  refine .look .position fun start => (accepts_symbol "...").ite_of_lax ?_ ?_
  · exact (agree.assignment true).lax.bind fun _ => .look (.spanFrom _) fun _ => .pure _
  · exact agree.assignment true

theorem agree_arrayTokens : Parser.Agree Anywhere false left
    (arrayTokens first first.bound) (arrayTokens second second.bound) := by
  refine .rounds (fun isShort ih => ?_) agree.le_bound agree.le_bound'
  have agree := agree.mono isShort isShort
  unfold arrayTokens
  refine (accepts_symbol "]").ite (.pure _) ?_
  refine (accepts_symbol ",").ite (ih.bind fun _ => .pure _) ?_
  refine .bind_lt (agree_element agree) fun _ => ?_
  refine .look (.atSymbol _) fun _ => .look (.atSymbol _) fun _ => .look (.require _) fun _ => ?_
  exact ih.bind fun _ => .pure _

theorem agree_arrayLiteral : Parser.Agree here true (left + 1) (arrayLiteral first)
    (arrayLiteral second) := by
  refine .look .position fun start => .bind_lt (agree_expectSymbol "[") fun _ => ?_
  exact (agree_arrayTokens agree).bind fun _ => .look (.spanFrom _) fun _ => .pure _

theorem agree_argumentsRest : Parser.Agree Anywhere false left
    (argumentsRest first first.bound) (argumentsRest second second.bound) := by
  refine .rounds (fun isShort ih => ?_) agree.le_bound agree.le_bound'
  have agree := agree.mono isShort isShort
  unfold argumentsRest
  refine (accepts_symbol ")").ite (.pure _) ?_
  refine (accepts_symbol ",").ite ih ?_
  refine .bind_lt (agree_element agree) fun operand => .look (looks_asValue operand) fun _ => ?_
  refine (accepts_symbol ",").ite_of_lax (ih.bind fun _ => .pure _) ?_
  exact (agree_expectSymbol ")").lax.bind fun _ => .pure _

theorem agree_arguments : Parser.Agree here true (left + 1) (arguments first)
    (arguments second) :=
  .bind_lt (agree_expectSymbol "(") fun _ => agree_argumentsRest agree

/-! ## Parenthesised lists, parameters and bodies -/

theorem agree_listRest : Parser.Agree Anywhere false left
    (listRest first first.bound) (listRest second second.bound) := by
  refine .rounds (fun isShort ih => ?_) agree.le_bound agree.le_bound'
  have agree := agree.mono isShort isShort
  unfold listRest
  refine .look .get fun _ => (accepts_symbol ")").ite (.pure _) ?_
  refine (accepts_symbol ",").ite (ih.bind fun _ => .pure _) ?_
  refine .bind_lt (agree_element agree) fun operand => .look .get fun _ => ?_
  refine (accepts_symbol ",").ite_of_lax (ih.bind fun _ => .pure _) ?_
  exact (agree_expectSymbol ")").lax.bind fun _ => .pure _

theorem agree_listInParentheses : Parser.Agree here true (left + 1) (listInParentheses first)
    (listInParentheses second) := by
  refine .bind_lt (agree_expectSymbol "(") fun _ => .look .get fun _ => ?_
  exact (accepts_symbol ")").ite_of_lax (.pure _) (agree_listRest agree)

theorem agree_parameters : Parser.Agree here true (left + 1) (parameters first)
    (parameters second) :=
  .bind_lt (agree_listInParentheses agree) fun _ => (Looks.require _).agree

theorem agree_statementsRest : Parser.Agree Anywhere false left
    (statementsRest first first.bound) (statementsRest second second.bound) := by
  refine .rounds (fun isShort ih => ?_) agree.le_bound agree.le_bound'
  have agree := agree.mono isShort isShort
  unfold statementsRest
  refine .bind agree_reopenLine fun _ => (accepts_symbol closeBrace).ite (.pure _) ?_
  exact .bind_lt agree.statement fun _ => ih

theorem agree_block : Parser.Agree here true (left + 1) (block first) (block second) := by
  refine .bind agree_reopen fun _ => .bind_lt (agree_expectSymbol openBrace) fun _ => ?_
  exact agree_statementsRest agree

theorem agree_arrowBody (allowIn : Bool) : Parser.Agree Anywhere true left
    (arrowBody first allowIn) (arrowBody second allowIn) := by
  refine .look (.atSymbol openBrace) fun _ => .ite ?_ ?_
  · exact (agree_block agree).mono (Nat.le_succ _)
  · exact .bind_true (agree_value agree allowIn) fun _ => .pure _

theorem agree_functionRest : Parser.Agree here true (left + 1) (functionRest first)
    (functionRest second) := by
  have rest (isGenerator : Bool) (name : Option Name) :
      Parser.Agree Anywhere true (left + 1)
        (do parameters first; block first; return (isGenerator, name))
        (do parameters second; block second; return (isGenerator, name)) :=
    .bind_lt (agree_parameters agree) fun _ => (agree_block agree).behind.bind fun _ => .pure _
  refine .bind (accepts_symbol "*").agree fun isGenerator => .look (.atSymbol "(") fun _ => ?_
  refine .ite ?_ ?_
  · exact .look (.pure _) fun name => rest isGenerator name
  · exact .bind (agree_nameToken.lax.map _) fun name => rest isGenerator name

/-! ## Property names and methods -/

theorem agree_propertyName : Parser.Agree here true (left + 1) (propertyName first)
    (propertyName second) := by
  refine .look .position fun start => .token fun next => ?_
  cases next with
  | word | privateName =>
      exact .bind_lt (agree_advanceName_lt rfl) fun _ => .look (.spanFrom _) fun _ => .pure _
  | quote => exact .bind_true agree_stringLiteral fun ⟨_, _, _⟩ => .pure _
  | number => exact .bind_true agree_numberLiteral fun _ => .pure _
  | punctuator symbol =>
      refine .ite (.bind_lt (agree_advance_lt rfl) fun _ => ?_) .failure
      refine (agree_value agree true).lax.bind fun _ => ?_
      exact (agree_expectSymbol "]").lax.bind fun _ => .pure _
  | backtick | finished | unreadable => exact .failure

omit agree in
theorem agree_acceptModifier (word : String) : Parser.Agree here false left
    (acceptModifier word) (acceptModifier word) := by
  refine .look (.atWord word) fun _ => .ite (.look (.ahead _) fun _ => .ite ?_ (.pure _)) (.pure _)
  exact agree_advance.bind fun _ => .pure _

omit agree in
theorem agree_methodModifiers : Parser.Agree here false left methodModifiers methodModifiers := by
  refine .look (.atWord _) fun _ => .ite (.look (.ahead _) fun _ => .ite ?_ ?_) ?_
  · exact agree_advance.bind fun _ => (accepts_symbol _).agree.bind fun _ => .pure _
  all_goals
    refine .bind (agree_acceptModifier _) fun _ => .ite (.pure _) ?_
    refine .bind (agree_acceptModifier _) fun _ => .ite (.pure _) ?_
    exact .bind (accepts_symbol _).agree fun _ => .ite (.pure _) (.pure _)

theorem agree_methodRest : Parser.Agree here true (left + 1) (methodRest first)
    (methodRest second) :=
  .bind_lt (agree_parameters agree) fun _ => (agree_block agree).behind

/-! ## Objects -/

theorem agree_objectMember : Parser.Agree here true (left + 1) (objectMember first)
    (objectMember second) := by
  refine .look .position fun start => (accepts_symbol "...").ite ?_ ?_
  · exact (agree.assignment true).lax.bind fun _ => .look (.spanFrom _) fun _ => .pure _
  refine .bind agree_methodModifiers fun modifiers => ?_
  split
  · refine .bind_lt (agree_propertyName agree) fun _ => .bind (agree_methodRest agree).behind ?_
    exact fun _ => .look (.spanFrom _) fun _ => .pure _
  · refine .look .token fun next => .bind_lt (agree_propertyName agree) fun ⟨key, isComputed⟩ => ?_
    refine .look (.atSymbol "(") fun _ => .ite ?_ ?_
    · exact (agree_methodRest agree).behind.bind fun _ => .look (.spanFrom _) fun _ => .pure _
    refine (accepts_symbol ":").ite_of_lax ?_ ?_
    · exact (agree.assignment true).lax.bind fun _ => .look (.spanFrom _) fun _ => .pure _
    split
    · refine .look (.require _) fun _ => .look (.spanFrom _) fun _ => ?_
      refine (accepts_symbol "=").ite_of_lax ?_ (.pure _)
      exact (agree_value agree true).lax.bind fun _ => .pure _
    · exact .failure

theorem agree_objectMembers : Parser.Agree Anywhere false left
    (objectMembers first first.bound) (objectMembers second second.bound) := by
  refine .rounds (fun isShort ih => ?_) agree.le_bound agree.le_bound'
  have agree := agree.below isShort
  unfold objectMembers
  refine (accepts_symbol closeBrace).ite (.pure _) ?_
  refine (accepts_symbol ",").ite ih ?_
  refine .bind_lt (agree_objectMember agree) fun _ => ?_
  refine (accepts_symbol ",").ite_of_lax (ih.bind fun _ => .pure _) ?_
  exact (agree_expectSymbol closeBrace).lax.bind fun _ => .pure _

theorem agree_objectLiteral : Parser.Agree here true (left + 1) (objectLiteral first)
    (objectLiteral second) := by
  refine .look .position fun start => .bind_lt (agree_expectSymbol openBrace) fun _ => ?_
  exact (agree_objectMembers agree).bind fun _ => .look (.spanFrom _) fun _ => .pure _

theorem agree_bindingTarget : Parser.Agree here true (left + 1) (bindingTarget first)
    (bindingTarget second) := by
  have pattern (operand : Operand) : Parser.Agree Anywhere false left
      (do require operand.shape.bindable; return Target.pattern (← spanFrom operand.start))
      (do require operand.shape.bindable; return Target.pattern (← spanFrom operand.start)) :=
    .look (.require _) fun _ => .look (.spanFrom _) fun _ => .pure _
  refine .token fun next => ?_
  split
  · exact .bind_lt agree_nameToken fun _ => .pure _
  · refine .ite (.bind_lt (agree_arrayLiteral agree) pattern) ?_
    exact .ite (.bind_lt (agree_objectLiteral agree) pattern) (.bind_lt .failure pattern)
  · exact .failure

/-! ## Classes -/

omit agree in
theorem agree_semicolon : Parser.Agree here false left semicolon semicolon := by
  refine .bind (accepts_symbol ";").agree fun _ => .ite (.pure _) ?_
  refine .look .afterLineBreak fun _ => .look (.atSymbol _) fun _ => ?_
  exact .look .token fun _ => (Looks.require _).agree

theorem agree_decorator : Parser.Agree here true (left + 1) (decorator first)
    (decorator second) := by
  refine .bind_lt (agree_expectSymbol "@") fun _ => agree.constructed.lax.bind fun _ => ?_
  refine .look (.atSymbol "(") fun _ => .ite ?_ (.pure _)
  exact (agree_arguments agree).behind.bind fun _ => .pure _

/-- No decorator is needed, so the loop goes round once more than there are characters. -/
theorem agree_decorators : Parser.Agree Anywhere false (left + 1)
    (decorators first first.bound) (decorators second second.bound) := by
  refine .rounds (fun isShort ih => ?_) agree.bound agree.bound'
  have agree := agree.mono (Nat.le_of_lt_succ isShort) (Nat.le_of_lt_succ isShort)
  unfold decorators
  exact .look (.atSymbol "@") fun _ => .ite (.bind_lt (agree_decorator agree) fun _ => ih) (.pure _)

theorem agree_classMember : Parser.Agree Anywhere true (left + 1) (classMember first)
    (classMember second) := by
  refine .bind (agree_decorators agree) fun _ => .bind (agree_acceptModifier _) fun isStatic => ?_
  refine .look (.atSymbol _) fun _ => .ite (agree_block agree) ?_
  refine .bind agree_methodModifiers fun _ => .bind_lt (agree_propertyName agree) fun _ => ?_
  refine .look (.atSymbol _) fun _ => .ite (agree_methodRest agree).behind ?_
  refine (accepts_symbol "=").ite_of_lax ?_ agree_semicolon
  exact (agree_value agree true).lax.bind fun _ => agree_semicolon

theorem agree_classMembers : Parser.Agree Anywhere false left
    (classMembers first first.bound) (classMembers second second.bound) := by
  refine .rounds (fun isShort ih => ?_) agree.le_bound agree.le_bound'
  have agree := agree.below isShort
  unfold classMembers
  refine (accepts_symbol closeBrace).ite (.pure _) ((accepts_symbol ";").ite ih ?_)
  exact .bind_lt (agree_classMember agree) fun _ => ih

/-! ## Operands -/

omit agree in
theorem agree_memberName : Parser.Agree here true left operandRest.memberName
    operandRest.memberName := by
  refine .look .position fun start => .token fun next => ?_
  split
  · exact .bind_true (agree_advanceName_lt rfl) fun _ => .look (.spanFrom _) fun _ => .pure _
  · exact .bind_true (agree_advanceName_lt rfl) fun _ => .look (.spanFrom _) fun _ => .pure _
  · exact .failure

theorem agree_subscriptIndex : Parser.Agree here true (left + 1)
    (operandRest.subscriptIndex first) (operandRest.subscriptIndex second) := by
  refine .bind_lt (agree_expectSymbol "[") fun _ => ?_
  refine (agree_expressionValue agree true).lax.bind fun _ => ?_
  exact (agree_expectSymbol "]").lax.bind fun _ => .pure _

theorem agree_operandRest (allowCalls : Bool) (operand : Operand) : Parser.Agree Anywhere false left
    (operandRest first allowCalls first.bound operand)
    (operandRest second allowCalls second.bound operand) := by
  refine .loop (fun isShort ih operand => ?_) agree.le_bound agree.le_bound' operand
  have agree := agree.below isShort
  unfold operandRest
  refine .token fun next => ?_
  split
  · refine .look (looks_asValue operand) fun _ => .bind_lt (agree_advance_lt rfl) fun _ => ?_
    exact agree_memberName.lax.bind fun _ => .look (.spanFrom _) fun _ => ih _
  · refine .look (.require _) fun _ => .look (looks_asValue operand) fun _ => ?_
    refine .bind_lt (agree_advance_lt rfl) fun _ => .look .token fun after => ?_
    split
    · refine (agree_subscriptIndex agree).behind.bind fun _ => ?_
      exact .look (.spanFrom _) fun _ => ih _
    · exact (agree_arguments agree).behind.bind fun _ => .look (.spanFrom _) fun _ => ih _
    · exact agree_memberName.lax.bind fun _ => .look (.spanFrom _) fun _ => ih _
  · refine .look (looks_asValue operand) fun _ => .bind_lt (agree_subscriptIndex agree) fun _ => ?_
    exact .look (.spanFrom _) fun _ => ih _
  · refine .ite (.look (looks_asValue operand) fun _ => ?_) (.pure _)
    refine .bind_lt (agree_arguments agree) fun _ => .look (.spanFrom _) fun _ => ih _
  · refine .look (looks_asValue operand) fun _ => .bind_lt (agree_templateLiteral agree) fun _ => ?_
    exact .look (looks_otherOperand _ _ _) fun _ => ih _
  · exact .pure _

theorem agree_classRest : Parser.Agree here true (left + 1) (classRest first)
    (classRest second) := by
  have members (name : Option Name) : Parser.Agree Anywhere false left
      (do expectSymbol openBrace; classMembers first first.bound; return name)
      (do expectSymbol openBrace; classMembers second second.bound; return name) := by
    refine (agree_expectSymbol openBrace).lax.bind fun _ => ?_
    exact (agree_classMembers agree).bind fun _ => .pure _
  have heritage (name : Option Name) : Parser.Agree Anywhere false left
      (do
        if ← acceptWord "extends" then
          let parent ← first.constructed
          let _ ← operandRest first true first.bound parent
        expectSymbol openBrace
        classMembers first first.bound
        return name)
      (do
        if ← acceptWord "extends" then
          let parent ← second.constructed
          let _ ← operandRest second true second.bound parent
        expectSymbol openBrace
        classMembers second second.bound
        return name) := by
    refine (accepts_word "extends").ite_of_lax ?_ (members name)
    refine agree.constructed.lax.bind fun parent => ?_
    exact (agree_operandRest agree true parent).bind fun _ => members name
  refine .bind_lt (agree_expectWord "class") fun _ => ?_
  refine .look (.atSymbol _) fun _ => .look (.atWord _) fun _ => .ite ?_ ?_
  · exact .look (.pure _) fun name => heritage name
  · exact .bind (agree_nameToken.behind.map _) fun name => heritage name

theorem agree_newExpression : Parser.Agree here true (left + 1) (newExpression first)
    (newExpression second) := by
  refine .look .position fun start => .bind_lt (agree_expectWord "new") fun _ => ?_
  refine (accepts_symbol ".").ite_of_lax ?_ ?_
  · exact (agree_expectWord "target").lax.bind fun _ => (looks_otherOperand _ _ _).agree
  · refine agree.constructed.lax.bind fun constructed => .look (looks_asValue _) fun _ => ?_
    refine .look (.atSymbol "(") fun _ => .ite ?_ (looks_otherOperand _ _ _).agree
    exact (agree_arguments agree).behind.bind fun _ => (looks_otherOperand _ _ _).agree

theorem agree_primary : Parser.Agree here true (left + 1) (primary first) (primary second) := by
  refine .look .position fun start => .token fun next => ?_
  cases next with
  | number => exact .bind_true agree_numberLiteral fun _ => .pure _
  | quote => exact .bind_true agree_stringLiteral fun ⟨_, _, _⟩ => .pure _
  | backtick => exact .bind_lt (agree_templateLiteral agree) fun _ => .pure _
  | punctuator symbol =>
      refine .ite (agree_arrayLiteral agree) (.ite (agree_objectLiteral agree) (.ite ?_ ?_))
      · exact .bind_lt (agree_listInParentheses agree) fun list =>
          (looks_parenthesizedOperand start list).agree
      · refine .ite (.bind_true agree_regexLiteral fun _ => .pure _) (.ite ?_ .failure)
        refine .bind (agree_decorators agree).anywhere fun _ => .bind_lt (agree_classRest agree) ?_
        exact fun _ => (looks_otherOperand _ _ _).agree
  | word word =>
      dsimp only
      split
      · refine .bind_lt (agree_advance_lt rfl) fun _ => (agree_functionRest agree).behind.bind ?_
        exact fun ⟨_, _⟩ => .look (.spanFrom _) fun _ => .pure _
      · exact .bind_lt (agree_classRest agree) fun _ => (looks_otherOperand _ _ _).agree
      · exact .bind_lt (agree_advance_lt rfl) fun _ => (looks_otherOperand _ _ _).agree
      · exact .bind_lt (agree_advance_lt rfl) fun _ => (looks_otherOperand _ _ _).agree
      · exact .bind_lt (agree_advance_lt rfl) fun _ => .look (.spanFrom _) fun _ => .pure _
      · exact .bind_lt (agree_advance_lt rfl) fun _ => .look (.spanFrom _) fun _ => .pure _
      · exact .bind_lt (agree_advance_lt rfl) fun _ => .look (.spanFrom _) fun _ => .pure _
      · exact agree_newExpression agree
      · refine .bind_lt (agree_advance_lt rfl) fun _ => (accepts_symbol ".").ite_of_lax ?_ ?_
        · exact (agree_expectWord "meta").lax.bind fun _ => (looks_otherOperand _ _ _).agree
        · refine .look (.atSymbol _) fun _ => .look (.require _) fun _ => ?_
          exact (looks_otherOperand _ _ _).agree
      · refine .look (.ahead _) fun _ => .ite ?_ (.bind_lt agree_nameToken fun _ => .pure _)
        refine .bind_lt (agree_advance_lt rfl) fun _ => agree_advance.bind fun _ => ?_
        refine (agree_functionRest agree).behind.bind fun ⟨_, _⟩ => ?_
        exact .look (.spanFrom _) fun _ => .pure _
      · exact .bind_lt agree_nameToken fun _ => .pure _
  | privateName | finished | unreadable => exact .failure

theorem agree_constructedOperand : Parser.Agree here true (left + 1) (constructedOperand first)
    (constructedOperand second) :=
  .bind_lt (agree_primary agree) fun operand => agree_operandRest agree false operand

omit agree in
theorem agree_updateRest (operand : Operand) : Parser.Agree here false left (updateRest operand)
    (updateRest operand) := by
  refine .look .afterLineBreak fun _ => .ite (.pure _) ?_
  refine .bind (accepts_symbol "++").agree fun _ => .bind (accepts_symbol "--").agree fun _ => ?_
  refine .ite (.look (looks_asValue operand) fun _ => ?_) (.pure _)
  exact (looks_otherOperand _ _ _).agree

theorem agree_withUpdate (operand : Operand) : Parser.Agree Anywhere false left
    (withUpdate first operand) (withUpdate second operand) :=
  .bind (agree_operandRest agree true operand) fun _ => agree_updateRest _

theorem agree_markupOperand : Parser.Agree here true (left + 1) (markupOperand first)
    (markupOperand second) := by
  refine .look .position fun start => .bind_lt (agree_expectSymbol "<") fun _ => ?_
  refine agree.markup.lax.bind fun _ => (agree_pass Cursor.skips_after 0).bind fun _ => ?_
  exact (looks_otherOperand _ _ _).agree

/-! ## Operators -/

omit agree in
theorem isSpelled_of_unaryOperatorOf {next : Token} {operator : UnaryOperator}
    (found : unaryOperatorOf next = some operator) : next.isSpelled = true := by
  cases next with
  | word | punctuator => rfl
  | _ => cases found

theorem agree_unaryExpression : Parser.Agree here true (left + 1) (unaryExpression first)
    (unaryExpression second) := by
  refine .look .position fun start => .token fun next => ?_
  split
  · next operator found =>
    refine .bind_lt (agree_advance_lt (isSpelled_of_unaryOperatorOf found)) fun _ => ?_
    refine agree.unary.lax.bind fun operand => .look (looks_asValue operand) fun _ => ?_
    exact .look (.spanFrom _) fun _ => .pure _
  · split
    · refine .bind_lt (agree_advance_lt rfl) fun _ => agree.unary.lax.bind fun operand => ?_
      exact .look (looks_asValue operand) fun _ => (looks_otherOperand _ _ _).agree
    · refine .bind_lt (agree_advance_lt rfl) fun _ => agree.unary.lax.bind fun operand => ?_
      exact .look (looks_asValue operand) fun _ => (looks_otherOperand _ _ _).agree
    · refine .bind_lt (agree_advance_lt rfl) fun _ => agree.unary.lax.bind fun operand => ?_
      exact .look (looks_asValue operand) fun _ => (looks_otherOperand _ _ _).agree
    · refine .bind_lt (agree_advance_lt rfl) fun _ => .look (.atWord _) fun _ => ?_
      exact .look (.require _) fun _ => (looks_otherOperand _ _ _).agree
    · exact .bind_lt (agree_markupOperand agree) fun operand => agree_updateRest operand
    · exact .bind_lt (agree_primary agree) fun operand => agree_withUpdate agree operand

omit agree in
theorem isSpelled_of_connectiveOf {allowIn : Bool} {next : Token} {connective : Connective}
    (found : connectiveOf allowIn next = some connective) : next.isSpelled = true := by
  cases next with
  | word | punctuator => rfl
  | _ => cases found

theorem agree_binaryRest (allowIn : Bool) (precedence : Nat) (operand : Operand) :
    Parser.Agree Anywhere false left (binaryRest first allowIn precedence first.bound operand)
      (binaryRest second allowIn precedence second.bound operand) := by
  refine .loop (fun isShort ih operand => ?_) agree.le_bound agree.le_bound' operand
  have agree := agree.below isShort
  unfold binaryRest
  refine .token fun next => ?_
  split
  · exact .pure _
  · next connective found =>
    refine .ite (.pure _) (.look (looks_asValue operand) fun _ => ?_)
    refine .bind_lt (agree_advance_lt (isSpelled_of_connectiveOf found)) fun _ => ?_
    refine (agree.binary allowIn _).lax.bind fun right => .look (looks_asValue right) fun _ => ?_
    exact .look (.spanFrom _) fun _ => ih _

theorem agree_binaryExpression (allowIn : Bool) (precedence : Nat) :
    Parser.Agree here true (left + 1) (binaryExpression first allowIn precedence)
      (binaryExpression second allowIn precedence) :=
  .bind_lt (agree_unaryExpression agree) fun operand =>
    agree_binaryRest agree allowIn precedence operand

theorem agree_assignmentRest (allowIn : Bool) (operand : Operand) :
    Parser.Agree here false left (assignmentRest first allowIn operand)
      (assignmentRest second allowIn operand) := by
  refine .look .token fun next => ?_
  split
  · refine .look (looks_asValue operand) fun _ => agree_advance.bind fun _ => ?_
    refine (agree_value agree true).lax.bind fun _ => (agree_expectSymbol ":").lax.bind fun _ => ?_
    refine (agree_value agree allowIn).lax.bind fun _ => .look (.spanFrom _) fun _ => .pure _
  · refine .look (.require _) fun _ => agree_advance.bind fun _ => ?_
    exact (agree_value agree allowIn).lax.bind fun _ => (looks_otherOperand _ _ _).agree
  · refine .ite (.look (.require _) fun _ => .look (looks_asValue operand) fun _ => ?_) (.pure _)
    refine agree_advance.bind fun _ => (agree_value agree allowIn).lax.bind fun _ => ?_
    exact (looks_otherOperand _ _ _).agree
  · exact .pure _

theorem agree_assignmentFrom (allowIn : Bool) (operand : Operand) :
    Parser.Agree Anywhere false left (assignmentFrom first allowIn operand)
      (assignmentFrom second allowIn operand) := by
  refine .bind (agree_withUpdate agree operand) fun operand => ?_
  exact .bind (agree_binaryRest agree allowIn 0 operand) fun _ => agree_assignmentRest agree _ _

theorem agree_arrowRest (allowIn isAsync : Bool) (start : Nat) :
    Parser.Agree here false left (arrowRest first allowIn isAsync start)
      (arrowRest second allowIn isAsync start) := by
  refine .bind agree_advance fun _ => .bind (agree_arrowBody agree allowIn).lax fun _ => ?_
  exact .look (.spanFrom _) fun _ => .pure _

theorem agree_fromParenthesis (allowIn : Bool) : Parser.Agree here true (left + 1)
    (fromParenthesis first allowIn) (fromParenthesis second allowIn) := by
  refine .look .position fun start => .bind_lt (agree_listInParentheses agree) fun list => ?_
  refine .look looks_atArrow fun _ => .ite ?_ ?_
  · exact .look (.require _) fun _ => agree_arrowRest agree allowIn false start
  · exact .look (looks_parenthesizedOperand start list) fun _ => agree_assignmentFrom agree _ _

theorem agree_fromName (allowIn : Bool) : Parser.Agree here true (left + 1)
    (fromName first allowIn) (fromName second allowIn) := by
  refine .bind_lt (agree_primary agree) fun operand => .look looks_atArrow fun _ => .ite ?_ ?_
  · exact agree_arrowRest agree allowIn false _
  · exact agree_assignmentFrom agree allowIn operand

theorem agree_fromAsync (allowIn : Bool) :
    Parser.Agree (fun cursor => here cursor ∧ cursor.token = .word "async") true (left + 1)
      (fromAsync first allowIn) (fromAsync second allowIn) := by
  refine .look .position fun start => .look (.ahead _) fun _ => .look (.ahead _) fun _ => ?_
  refine .ite ?_ (.look (.ahead _) fun _ => .ite ?_ (agree_fromName agree allowIn))
  · refine .bind_lt agree_nameToken fun name => (agree_listInParentheses agree).behind.bind ?_
    refine fun list => .look looks_atArrow fun _ => .ite ?_ ?_
    · exact .look (.require _) fun _ => agree_arrowRest agree allowIn true start
    · refine .look (.require _) fun _ => .look (.spanFrom _) fun _ => ?_
      exact agree_assignmentFrom agree allowIn _
  · refine .bind_lt (agree_advance_lt rfl) fun _ => agree_advance.bind fun _ => ?_
    exact agree_arrowRest agree allowIn true start

theorem agree_yieldExpression (allowIn : Bool) :
    Parser.Agree (fun cursor => here cursor ∧ cursor.token = .word "yield") true (left + 1)
      (yieldExpression first allowIn) (yieldExpression second allowIn) := by
  refine .look .position fun start => .bind_lt (agree_advance_lt rfl) fun _ => ?_
  refine .look .afterLineBreak fun _ => .look .token fun _ => .ite ?_ ?_
  · refine (accepts_symbol "*").agree.bind fun _ => (agree_value agree allowIn).lax.bind fun _ => ?_
    exact (looks_otherOperand _ _ _).agree
  · exact (looks_otherOperand _ _ _).agree

theorem agree_assignmentExpression (allowIn : Bool) : Parser.Agree here true (left + 1)
    (assignmentExpression first allowIn) (assignmentExpression second allowIn) := by
  have operators : Parser.Agree Anywhere true (left + 1)
      (do assignmentRest first allowIn (← binaryExpression first allowIn 0))
      (do assignmentRest second allowIn (← binaryExpression second allowIn 0)) :=
    .bind_lt (agree_binaryExpression agree allowIn 0) fun _ => agree_assignmentRest agree _ _
  refine .token fun next => ?_
  split
  · exact agree_fromParenthesis agree allowIn
  · exact agree_fromAsync agree allowIn
  · exact agree_yieldExpression agree allowIn
  · exact .ite (agree_fromName agree allowIn) operators.anywhere
  · exact operators.anywhere

end Productions

end ComponentInliner.Script
