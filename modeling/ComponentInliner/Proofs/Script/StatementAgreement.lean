import ComponentInliner.Proofs.Script.MarkupAgreement
import ComponentInliner.Script.Parse

/-!
# Modules read with different bounds

The statements do the same with grammars that agree, as the expressions do. A grammar enters an
expression before a statement, so each further character of the source takes two steps of its bound:
from twice the length of a source on, all bounds read the same. The parser for modules nests deeper
than that, so it never fails for want of depth.
-/

namespace ComponentInliner.Script

open ComponentInliner.Script.Parser

section Productions

variable {here : Cursor → Prop} {left : Nat} {first second : Grammar}
variable (agree : first.Agree left left second)

include agree

theorem agree_condition : Parser.Agree here true (left + 1) (condition first)
    (condition second) := by
  refine .bind_lt (agree_expectSymbol "(") fun _ => ?_
  refine (agree_expressionValue agree true).lax.bind fun _ => (agree_expectSymbol ")").lax

theorem agree_head : Parser.Agree here true (left + 1) (head first) (head second) :=
  .bind_lt (agree_condition agree) fun _ => agree_reopen

/-! ## Variable declarations -/

theorem agree_initializer (allowIn : Bool) : Parser.Agree here false left
    (initializer first allowIn) (initializer second allowIn) := by
  refine (accepts_symbol "=").ite_of_lax ?_ (.pure _)
  exact (agree_value agree allowIn).lax.bind fun _ => .pure _

theorem agree_declarators (allowIn : Bool) : Parser.Agree Anywhere false left
    (declarators first allowIn first.bound) (declarators second allowIn second.bound) := by
  refine .rounds (fun isShort ih => ?_) agree.le_bound agree.le_bound'
  have agree := agree.below isShort
  unfold declarators
  refine .bind_lt (agree_bindingTarget agree) fun _ => (agree_initializer agree allowIn).bind ?_
  exact fun _ => (accepts_symbol ",").ite_of_lax (ih.bind fun _ => .pure _) (.pure _)

omit agree in
theorem looks_atVariables : Looks atVariables := by
  refine Looks.token.bind fun next => ?_
  split
  · exact .pure _
  · exact .pure _
  · exact .ahead _
  · exact .pure _

omit agree in
theorem looks_atUsing : Looks atUsing :=
  have word : Looks atUsing.atUsingWord :=
    (Looks.atWord _).bind fun _ => .ite (.ahead _) (.pure _)
  (Looks.atWord _).bind fun _ => .ite (.ahead _) word

omit agree in
theorem agree_variableKind : Parser.Agree here true (left + 1) variableKind variableKind := by
  refine .token fun next => ?_
  split
  · exact .bind_lt (agree_advance_lt rfl) fun _ => .pure _
  · exact .failure

theorem agree_variableDeclaration : Parser.Agree here true (left + 1) (variableDeclaration first)
    (variableDeclaration second) := by
  refine .bind_lt agree_variableKind fun _ => (agree_declarators agree true).bind fun _ => ?_
  exact agree_semicolon.bind fun _ => .pure _

theorem agree_usingDeclaration : Parser.Agree here true (left + 1) (usingDeclaration first)
    (usingDeclaration second) := by
  refine .bind (accepts_word "await").agree fun _ => .bind_lt (agree_expectWord "using") fun _ => ?_
  exact (agree_declarators agree true).bind fun _ => agree_semicolon

/-! ## Functions and classes -/

omit agree in
theorem looks_atAsyncFunction : Looks atAsyncFunction :=
  (Looks.atWord _).bind fun _ => (Looks.ahead _).bind fun _ => .pure _

omit agree in
theorem agree_functionKeywords : Parser.Agree here true (left + 1) functionKeywords
    functionKeywords := by
  refine .bind (accepts_word "async").agree fun _ => ?_
  exact .bind_lt (agree_expectWord "function") fun _ => .pure _

theorem agree_functionLike : Parser.Agree here true (left + 1) (functionLike first)
    (functionLike second) := by
  refine .look .position fun start => .bind_lt agree_functionKeywords fun isAsync => ?_
  refine (agree_functionRest agree).behind.bind fun ⟨isGenerator, name⟩ => ?_
  refine .look (.spanFrom _) fun _ => ?_
  split
  · exact .pure _
  · exact .pure _

theorem agree_classLike : Parser.Agree Anywhere true (left + 1) (classLike first)
    (classLike second) := by
  refine .look .position fun start => (agree_decorators agree).bind fun _ => ?_
  refine .bind_lt (agree_classRest agree) fun name => .look (.spanFrom _) fun _ => ?_
  split
  · exact .pure _
  · exact .pure _

theorem agree_functionDeclaration : Parser.Agree here true (left + 1) (functionDeclaration first)
    (functionDeclaration second) := by
  refine .bind_lt (agree_functionLike agree) fun answer => ?_
  split
  · exact .pure _
  · exact .failure

theorem agree_classDeclaration : Parser.Agree Anywhere true (left + 1) (classDeclaration first)
    (classDeclaration second) := by
  refine .bind_lt (agree_classLike agree) fun answer => ?_
  split
  · exact .pure _
  · exact .failure

/-! ## Imports and exports -/

omit agree in
theorem agree_moduleName : Parser.Agree here true left moduleName moduleName := by
  refine .token fun next => ?_
  split
  · refine .look .position fun start => .bind_true (agree_advance_lt rfl) fun _ => ?_
    exact .look (.spanFrom _) fun _ => .pure _
  · exact .bind_true agree_stringLiteral fun ⟨_, _, _⟩ => .pure _
  · exact .failure

theorem agree_specifiers : Parser.Agree Anywhere false left (specifiers first.bound)
    (specifiers second.bound) := by
  refine .rounds (fun {left bound bound'} _ ih => ?_) agree.le_bound agree.le_bound'
  have rest (specifier : Specifier WrittenLabel) : Parser.Agree Anywhere false left
      (do
        if ← acceptSymbol "," then
          return specifier :: (← specifiers bound)
        expectSymbol closeBrace
        return [specifier])
      (do
        if ← acceptSymbol "," then
          return specifier :: (← specifiers bound')
        expectSymbol closeBrace
        return [specifier]) := by
    refine (accepts_symbol ",").ite_of_lax (ih.bind fun _ => .pure _) ?_
    exact (agree_expectSymbol closeBrace).lax.bind fun _ => .pure _
  unfold specifiers
  refine (accepts_symbol closeBrace).ite (.pure _) (.look .position fun start => ?_)
  refine .bind_lt agree_moduleName fun localName => (accepts_word "as").ite_of_lax ?_ ?_
  · refine (agree_moduleName.lax.map _).bind fun _ => .look (.spanFrom _) fun _ => rest _
  · exact .look (.pure _) fun _ => .look (.spanFrom _) fun _ => rest _

theorem agree_moduleSource : Parser.Agree here true (left + 1) (moduleSource first)
    (moduleSource second) := by
  refine .bind_lt agree_stringLiteral fun ⟨span, literal, pieces⟩ => .look (.atWord _) fun _ => ?_
  refine .look (.atWord _) fun _ => .look .afterLineBreak fun _ => .ite ?_ ?_
  · refine agree_advance.bind fun _ => (agree_objectLiteral agree).behind.bind fun _ => ?_
    exact agree_semicolon.bind fun _ => .pure _
  · exact agree_semicolon.bind fun _ => .pure _

/-- The module that is named at the end of a statement. -/
theorem agree_fromSource {Answer : Type} (answer : Answer) : Parser.Agree Anywhere false left
    (do expectWord "from"; let _ ← moduleSource first; return answer)
    (do expectWord "from"; let _ ← moduleSource second; return answer) := by
  refine (agree_expectWord "from").lax.bind fun _ => (agree_moduleSource agree).behind.bind ?_
  exact fun _ => .pure _

theorem agree_importBindings : Parser.Agree Anywhere false left (importBindings first)
    (importBindings second) := by
  refine (accepts_symbol "*").ite_of_lax ?_ ?_
  · refine (agree_expectWord "as").lax.bind fun _ => agree_nameToken.behind.bind fun _ => .pure _
  · refine (agree_expectSymbol openBrace).lax.bind fun _ => ?_
    exact (agree_specifiers agree).bind fun _ => .pure _

theorem agree_importDeclaration : Parser.Agree here true (left + 1) (importDeclaration first)
    (importDeclaration second) := by
  refine .bind_lt (agree_expectWord "import") fun _ => .look .token fun next => ?_
  split
  · exact (agree_moduleSource agree).behind.bind fun _ => .pure _
  · have source := agree_fromSource agree (Statement.importing : WrittenStatement)
    refine agree_nameToken.behind.bind fun _ => (accepts_symbol ",").ite_of_lax ?_ source
    exact (agree_importBindings agree).bind fun _ => source
  · exact (agree_importBindings agree).bind fun _ => agree_fromSource agree _

theorem agree_defaultExport : Parser.Agree Anywhere false left (defaultExport first)
    (defaultExport second) := by
  refine .look (.atWord _) fun _ => .look looks_atAsyncFunction fun _ => .ite ?_ ?_
  · refine (agree_functionLike agree).behind.bind fun answer => ?_
    split
    · exact .pure _
    · exact .pure _
  refine .look (.atWord _) fun _ => .look (.atSymbol _) fun _ => .ite ?_ ?_
  · refine (agree_classLike agree).behind.bind fun answer => ?_
    split
    · exact .pure _
    · exact .pure _
  refine .look looks_atVariables fun _ => .ite ?_ ?_
  · exact (agree_variableDeclaration agree).behind.bind fun _ => .pure _
  · refine (agree_value agree true).lax.bind fun _ => agree_semicolon.bind fun _ => .pure _

theorem agree_exportRest : Parser.Agree Anywhere false left (exportRest first)
    (exportRest second) := by
  have all := agree_fromSource agree (Statement.exportAll : WrittenStatement)
  refine (accepts_word "default").ite_of_lax ?_ ?_
  · exact (agree_defaultExport agree).bind fun _ => .pure _
  refine (accepts_symbol "*").ite_of_lax ?_ ?_
  · exact (accepts_word "as").ite_of_lax (agree_moduleName.lax.bind fun _ => all) all
  refine (accepts_symbol openBrace).ite_of_lax ?_ ?_
  · refine (agree_specifiers agree).bind fun list => (accepts_word "from").ite_of_lax ?_ ?_
    · exact (agree_moduleSource agree).behind.bind fun _ => .pure _
    · exact agree_semicolon.bind fun _ => .pure _
  refine .look looks_atVariables fun _ => .ite ?_ ?_
  · exact (agree_variableDeclaration agree).behind.bind fun _ => .pure _
  refine .look looks_atUsing fun _ => .ite ?_ ?_
  · exact (agree_usingDeclaration agree).behind.bind fun _ => .pure _
  refine .look (.atWord _) fun _ => .look looks_atAsyncFunction fun _ => .ite ?_ ?_
  · exact (agree_functionDeclaration agree).behind.bind fun _ => .pure _
  · exact (agree_classDeclaration agree).behind.bind fun _ => .pure _

/-! ## Other statements -/

theorem agree_clauseBody : Parser.Agree Anywhere false left
    (switchClauses.clauseBody first first.bound)
    (switchClauses.clauseBody second second.bound) := by
  refine .rounds (fun isShort ih => ?_) agree.le_bound agree.le_bound'
  have agree := agree.mono isShort isShort
  unfold switchClauses.clauseBody
  refine .bind agree_reopenLine fun _ => .look (.atSymbol _) fun _ => .look (.atWord _) fun _ => ?_
  refine .look (.atWord _) fun _ => .ite (.pure _) ?_
  exact .bind_lt agree.statement fun _ => ih

theorem agree_switchClauses : Parser.Agree Anywhere false left
    (switchClauses first first.bound) (switchClauses second second.bound) := by
  refine .rounds (fun {left bound bound'} isShort ih => ?_) agree.le_bound agree.le_bound'
  have agree := agree.below isShort
  have body : Parser.Agree Anywhere false left
      (do
        expectSymbol ":"
        switchClauses.clauseBody first first.bound
        switchClauses first bound)
      (do
        expectSymbol ":"
        switchClauses.clauseBody second second.bound
        switchClauses second bound') :=
    (agree_expectSymbol ":").lax.bind fun _ => (agree_clauseBody agree).bind fun _ => ih
  unfold switchClauses
  refine (accepts_symbol closeBrace).ite (.pure _) ((accepts_word "case").ite ?_ ?_)
  · exact (agree_expressionValue agree true).lax.bind fun _ => body
  · exact .bind_lt (agree_expectWord "default") fun _ => body

theorem agree_loopRest : Parser.Agree Anywhere false left (loopRest first) (loopRest second) := by
  have last : Parser.Agree Anywhere false left
      (do
        expectSymbol ";"
        if !(← atSymbol ")") then
          let _ ← expressionValue first true)
      (do
        expectSymbol ";"
        if !(← atSymbol ")") then
          let _ ← expressionValue second true) := by
    refine (agree_expectSymbol ";").lax.bind fun _ => .look (.atSymbol _) fun _ => ?_
    exact .ite ((agree_expressionValue agree true).lax.bind fun _ => .pure _) (.pure _)
  refine (agree_expectSymbol ";").lax.bind fun _ => .look (.atSymbol _) fun _ => .ite ?_ last
  exact (agree_expressionValue agree true).lax.bind fun _ => last

omit agree in
theorem looks_atIteration : Looks atIteration :=
  (Looks.atWord _).bind fun _ => (Looks.atWord _).bind fun _ => .pure _

theorem agree_iterationRest : Parser.Agree Anywhere false left (iterationRest first)
    (iterationRest second) :=
  agree_advance.bind fun _ => (agree_expressionValue agree true).lax.bind fun _ => .pure _

theorem agree_loopHead : Parser.Agree Anywhere false left (loopHead first) (loopHead second) := by
  have counted : Parser.Agree Anywhere false left
      (do loopRest first; return "for_statement") (do loopRest second; return "for_statement") :=
    (agree_loopRest agree).bind fun _ => .pure _
  refine .look looks_atVariables fun _ => .ite ?_ ?_
  · refine agree_variableKind.behind.bind fun _ => (agree_bindingTarget agree).behind.bind ?_
    refine fun _ => .look looks_atIteration fun _ => .ite (agree_iterationRest agree) ?_
    refine (agree_initializer agree false).bind fun _ => ?_
    refine (accepts_symbol ",").ite_of_lax ?_ counted
    exact (agree_declarators agree false).bind fun _ => counted
  refine .look (.atSymbol _) fun _ => .ite counted ?_
  refine (agree_expression agree false).lax.bind fun operand => .look looks_atIteration fun _ => ?_
  refine .ite (.look (.require _) fun _ => agree_iterationRest agree) ?_
  exact .look (looks_asValue operand) fun _ => counted

section Keywords

variable (word : String)

theorem agree_forStatement :
    Parser.Agree (fun cursor => here cursor ∧ cursor.token = .word word) true (left + 1)
      (forStatement first) (forStatement second) := by
  refine .bind_lt (agree_advance_lt rfl) fun _ => (accepts_word "await").agree.bind fun _ => ?_
  refine (agree_expectSymbol "(").lax.bind fun _ => (agree_loopHead agree).bind fun _ => ?_
  refine (agree_expectSymbol ")").lax.bind fun _ => agree_reopen.bind fun _ => ?_
  exact agree.statement.lax.bind fun _ => .pure _

theorem agree_tryStatement :
    Parser.Agree (fun cursor => here cursor ∧ cursor.token = .word word) true (left + 1)
      (tryStatement first) (tryStatement second) := by
  have last (caught : Bool) : Parser.Agree Anywhere false left
      (do
        let finished ← acceptWord "finally"
        if finished then
          block first
        require (caught || finished))
      (do
        let finished ← acceptWord "finally"
        if finished then
          block second
        require (caught || finished)) := by
    refine .bind (accepts_word "finally").agree fun _ => .ite ?_ (Looks.require _).agree
    exact (agree_block agree).behind.bind fun _ => (Looks.require _).agree
  refine .bind_lt (agree_advance_lt rfl) fun _ => (agree_block agree).behind.bind fun _ => ?_
  refine .bind (accepts_word "catch").agree fun _ => .ite ?_ (last _)
  refine (accepts_symbol "(").ite_of_lax ?_ ((agree_block agree).behind.bind fun _ => last _)
  refine (agree_bindingTarget agree).behind.bind fun _ => (agree_expectSymbol ")").lax.bind ?_
  exact fun _ => (agree_block agree).behind.bind fun _ => last _

omit agree in
theorem agree_jumpStatement :
    Parser.Agree (fun cursor => here cursor ∧ cursor.token = .word word) true (left + 1)
      jumpStatement jumpStatement := by
  refine .bind_lt (agree_advance_lt rfl) fun _ => .look .afterLineBreak fun _ => ?_
  refine .ite (.look .token fun next => ?_) agree_semicolon
  split
  · exact .ite (agree_advance.bind fun _ => agree_semicolon) agree_semicolon
  · exact agree_semicolon

theorem agree_returnStatement :
    Parser.Agree (fun cursor => here cursor ∧ cursor.token = .word word) true (left + 1)
      (returnStatement first) (returnStatement second) := by
  refine .bind_lt (agree_advance_lt rfl) fun _ => .look .afterLineBreak fun _ => ?_
  refine .look (.atSymbol _) fun _ => .look (.atSymbol _) fun _ => .look .token fun _ => ?_
  refine .ite ?_ agree_semicolon
  exact (agree_expressionValue agree true).lax.bind fun _ => agree_semicolon

theorem agree_keywordStatement :
    (keywordStatement? first word = none ∧ keywordStatement? second word = none) ∨
      ∃ known known', keywordStatement? first word = some known ∧
        keywordStatement? second word = some known' ∧
        Parser.Agree (fun cursor => here cursor ∧ cursor.token = .word word) true (left + 1)
          known known' := by
  unfold keywordStatement?
  split
  · refine .inr ⟨_, _, rfl, rfl, .bind_lt (agree_advance_lt rfl) fun _ => ?_⟩
    refine (agree_head agree).behind.bind fun _ => agree.statement.lax.bind fun _ => ?_
    refine (accepts_word "else").ite_of_lax (agree.statement.lax.bind fun _ => .pure _) (.pure _)
  · exact .inr ⟨_, _, rfl, rfl, agree_forStatement agree _⟩
  · refine .inr ⟨_, _, rfl, rfl, .bind_lt (agree_advance_lt rfl) fun _ => ?_⟩
    exact (agree_head agree).behind.bind fun _ => agree.statement.lax.bind fun _ => .pure _
  · refine .inr ⟨_, _, rfl, rfl, .bind_lt (agree_advance_lt rfl) fun _ => ?_⟩
    refine agree.statement.lax.bind fun _ => (agree_expectWord "while").lax.bind fun _ => ?_
    refine (agree_condition agree).behind.bind fun _ => (accepts_symbol ";").agree.bind fun _ => ?_
    exact .pure _
  · refine .inr ⟨_, _, rfl, rfl, .bind_lt (agree_advance_lt rfl) fun _ => ?_⟩
    refine (agree_head agree).behind.bind fun _ => (agree_expectSymbol _).lax.bind fun _ => ?_
    exact (agree_switchClauses agree).bind fun _ => .pure _
  · refine .inr ⟨_, _, rfl, rfl, .bind_lt (agree_advance_lt rfl) fun _ => ?_⟩
    exact (agree_head agree).behind.bind fun _ => agree.statement.lax.bind fun _ => .pure _
  · exact .inr ⟨_, _, rfl, rfl, .bind_lt (agree_tryStatement agree _) fun _ => .pure _⟩
  · refine .inr ⟨_, _, rfl, rfl, .bind_lt (agree_advance_lt rfl) fun _ => ?_⟩
    refine .look .afterLineBreak fun _ => .look (.require _) fun _ => ?_
    refine (agree_expressionValue agree true).lax.bind fun _ => agree_semicolon.bind fun _ => ?_
    exact .pure _
  · exact .inr ⟨_, _, rfl, rfl, .bind_lt (agree_returnStatement agree _) fun _ => .pure _⟩
  · exact .inr ⟨_, _, rfl, rfl, .bind_lt (agree_jumpStatement _) fun _ => .pure _⟩
  · exact .inr ⟨_, _, rfl, rfl, .bind_lt (agree_jumpStatement _) fun _ => .pure _⟩
  · refine .inr ⟨_, _, rfl, rfl, .bind_lt (agree_advance_lt rfl) fun _ => ?_⟩
    exact agree_semicolon.bind fun _ => .pure _
  · exact .inl ⟨rfl, rfl⟩

end Keywords

end Productions

/-! ## Statements -/

section Statements

variable {here : Cursor → Prop} {left : Nat} {first second : Grammar}
variable (agree : first.Agree (left + 1) left second)

include agree

theorem Grammar.Agree.inner : first.Agree left left second :=
  agree.mono (Nat.le_succ _) (Nat.le_refl _)

theorem agree_expressionStatement : Parser.Agree Anywhere true (left + 1)
    (expressionStatement first) (expressionStatement second) :=
  .bind_lt (agree_expressionValue agree true) fun _ => agree_semicolon.bind fun _ => .pure _

section Words

variable (word : String)

theorem agree_labelledOrExpression :
    Parser.Agree (fun cursor => here cursor ∧ cursor.token = .word word) true (left + 1)
      (labelledOrExpression first word) (labelledOrExpression second word) := by
  refine .look (.ahead _) fun _ => .ite ?_ (agree_expressionStatement agree).anywhere
  refine .bind_lt (agree_advance_lt rfl) fun _ => agree_advance.bind fun _ => ?_
  exact agree.statement.lax.bind fun _ => .pure _

theorem agree_wordStatement :
    Parser.Agree (fun cursor => here cursor ∧ cursor.token = .word word) true (left + 1)
      (wordStatement first word) (wordStatement second word) := by
  have inner := agree.inner
  refine .look looks_atVariables fun _ => .ite ?_ (.look looks_atUsing fun _ => .ite ?_ ?_)
  · exact .bind_lt (agree_variableDeclaration inner) fun _ => .pure _
  · exact .bind_lt (agree_usingDeclaration inner) fun _ => .pure _
  refine .look looks_atAsyncFunction fun _ => .ite ?_ (.ite ?_ ?_)
  · exact .bind_lt (agree_functionDeclaration inner) fun _ => .pure _
  · exact .bind_lt (agree_classDeclaration inner).anywhere fun _ => .pure _
  refine .look (.ahead _) fun _ => .ite (agree_importDeclaration inner) (.ite ?_ ?_)
  · exact .bind_lt (agree_advance_lt rfl) fun _ => agree_exportRest inner
  rcases agree_keywordStatement inner word with
    ⟨unknown, unknown'⟩ | ⟨known, known', isKnown, isKnown', agrees⟩
  · rw [unknown, unknown']
    exact agree_labelledOrExpression agree word
  · rw [isKnown, isKnown']
    exact .bind_lt agrees fun _ => .pure _

end Words

theorem agree_statement : Parser.Agree Anywhere true (left + 1) (statement first)
    (statement second) := by
  have inner := agree.inner
  refine .token fun next => ?_
  split
  · exact agree_wordStatement agree _
  · refine .ite (.bind_lt (agree_block inner) fun _ => .pure _) (.ite ?_ (.ite ?_ ?_))
    · exact .bind_lt (agree_advance_lt rfl) fun _ => .pure _
    · have ends : Parser.Agree Anywhere false (left + 1)
          (do decorators first first.bound; atWord "export")
          (do decorators second second.bound; atWord "export") :=
        (agree_decorators inner).bind fun _ => (Looks.atWord _).agree
      refine .glimpse ends.anywhere fun _ => .ite ?_ ?_
      · refine .bind (agree_decorators inner).anywhere fun _ => ?_
        exact .bind_lt (agree_expectWord "export") fun _ => agree_exportRest inner
      · exact .bind_lt (agree_classDeclaration inner).anywhere fun _ => .pure _
    · exact (agree_expressionStatement agree).anywhere
  · exact (agree_expressionStatement agree).anywhere

end Statements

theorem agree_statements {left : Nat} {first second : Grammar}
    (agree : first.Agree left left second) : Parser.Agree Anywhere false left
      (statements first first.bound) (statements second second.bound) := by
  refine .rounds (fun isShort ih => ?_) agree.le_bound agree.le_bound'
  have agree := agree.mono isShort isShort
  unfold statements
  refine .bind agree_reopenLine fun _ => .look .token fun _ => .ite (.pure _) ?_
  exact .bind_lt agree.statement fun _ => ih.bind fun _ => .pure _

/-! ## The bound of the grammar -/

variable {left bound bound' : Nat}

/-- Grammars that are one step deeper read expressions with a character more. -/
theorem grammar_agree_expressions (agree : (grammar bound).Agree left left (grammar bound'))
    (agreeNext : (grammar (bound + 1)).Agree left left (grammar (bound' + 1))) :
    (grammar (bound + 1)).Agree (left + 1) left (grammar (bound' + 1)) where
  bound := by simpa using agree.bound
  bound' := by simpa using agree.bound'
  assignment allowIn := agree_assignmentExpression agree allowIn
  binary allowIn precedence := agree_binaryExpression agree allowIn precedence
  unary := agree_unaryExpression agree
  constructed := agree_constructedOperand agree
  markup := agree_markupElement agree
  statement := agreeNext.statement

/-- Of the two steps that a character takes, the first is for expressions and the second for the
statements that begin with one. -/
theorem grammar_agree (enough : 2 * left < bound) (enough' : 2 * left < bound') :
    (grammar bound).Agree left left (grammar bound') := by
  induction left generalizing bound bound' with
  | zero =>
      obtain ⟨bound, rfl⟩ := Nat.exists_eq_add_one_of_ne_zero (Nat.ne_zero_of_lt enough)
      obtain ⟨bound', rfl⟩ := Nat.exists_eq_add_one_of_ne_zero (Nat.ne_zero_of_lt enough')
      exact ⟨Nat.succ_pos _, Nat.succ_pos _, fun _ => .zero, fun _ _ => .zero, .zero, .zero, .zero,
        .zero⟩
  | succ left ih =>
      obtain ⟨bound, rfl⟩ := Nat.exists_eq_add_of_le' (show 2 ≤ bound by omega)
      obtain ⟨bound', rfl⟩ := Nat.exists_eq_add_of_le' (show 2 ≤ bound' by omega)
      have agreeNext : (grammar (bound + 1)).Agree left left (grammar (bound' + 1)) :=
        ih (by omega) (by omega)
      have agreeLast : (grammar (bound + 2)).Agree left left (grammar (bound' + 2)) :=
        ih (by omega) (by omega)
      have expressions := grammar_agree_expressions agreeNext agreeLast
      have statements := grammar_agree_expressions (ih (by omega) (by omega)) agreeNext
      exact { expressions with statement := agree_statement statements }

theorem length_dropInterpreterLine (source : List Char) :
    (dropInterpreterLine source).1.length ≤ source.length := by
  unfold dropInterpreterLine
  split
  · simp only [List.length_drop, List.length_cons]
    omega
  · exact Nat.le_refl _

/-- A bound that is greater than twice the length of the source is never met. -/
theorem statementsWithin_eq {source : List Char} (enough : 2 * source.length + 2 < bound)
    (enough' : 2 * source.length + 2 < bound') :
    statementsWithin bound source = statementsWithin bound' source := by
  have agree := agree_statements (@grammar_agree (source.length + 1) _ _ enough enough')
  simp only [grammar_bound] at agree
  have skipped := Cursor.skips_opened (dropInterpreterLine source).1 (dropInterpreterLine source).2
  have isShort := Nat.le_trans skipped (length_dropInterpreterLine source)
  exact congrArg (Option.map Prod.fst) (agree _ trivial (Nat.lt_succ_of_le isShort)).1

/-- The parser for modules does the same with every bound that is great enough, so what it refuses
is refused by its productions. -/
theorem parseStatements_eq {source : List Char} (enough : 2 * source.length + 2 < bound) :
    parseStatements source = statementsWithin bound source :=
  statementsWithin_eq (Nat.lt_succ_self _) enough

end ComponentInliner.Script
