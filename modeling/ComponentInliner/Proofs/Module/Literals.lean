import ComponentInliner.Module.Parse
import ComponentInliner.Proofs.Outcome
import ComponentInliner.Proofs.Script.Escapes
import ComponentInliner.Proofs.Text.Scalars

/-!
# Literals without a value

The faults of a source are reported with it but for one: an escape sequence that stands for a
number beyond 32 bits. `Writes` says which escape sequences are decoded: those in the strings and
templates of expressions that are read, functions and classes left out. If the fault of a source is
not reported, one of them is to blame (`Module.exists_escape_of_parseWith`).
-/

namespace ComponentInliner

open Script

/-- The fault of a source in which an escape sequence stands for a number beyond 32 bits. -/
abbrev ModuleFault.tooLarge : ModuleFault :=
  .invalidLiteral .numberTooLarge

namespace Script

/-- The expressions that are read for a member of an object literal. -/
def Member.parts : Member → List Expression
  | .pair _ key _ value => [key, value]
  | .spread _ argument => [argument]
  | .shorthand _ _ | .method _ _ => []

/-- The expressions that are read for an expression. -/
def Expression.parts : Expression → List Expression
  | .template _ _ parts => parts.map fun
      | .mk substitution _ => substitution
  | .array _ tokens => tokens.filterMap fun
      | .element element => some element
      | .comma => none
  | .object _ members => members.flatMap Member.parts
  | .spread _ argument | .unary _ _ argument => [argument]
  | .binary _ _ left right | .logical _ _ left right => [left, right]
  | .conditional _ test consequent alternate => [test, consequent, alternate]
  | .member _ owner property _ => [owner, property]
  | .subscript _ owner index _ => [owner, index]
  | .call _ callee arguments _ => callee :: arguments
  | .parenthesized inner => [inner]
  | _ => []

/-- An escape sequence is written in a literal of an expression. -/
inductive Expression.Writes (body : Text) : Expression → Prop
  | string {span : Span} {literal : Text} {pieces : List LiteralPiece}
      (written : .escape body ∈ pieces) : Writes body (.string span literal pieces)
  | head {span : Span} {head : List LiteralPiece} {parts : List TemplatePart}
      (written : .escape body ∈ head) : Writes body (.template span head parts)
  | following {span : Span} {head following : List LiteralPiece} {parts : List TemplatePart}
      {substitution : Expression} (part : .mk substitution following ∈ parts)
      (written : .escape body ∈ following) : Writes body (.template span head parts)
  | inside {whole part : Expression} (isPart : part ∈ whole.parts) (written : part.Writes body) :
      Writes body whole

/-- The initial values of a declaration. -/
def Declaration.initials {Expr : Type} : Declaration Expr → List Expr
  | .variables _ declarators => declarators.filterMap Declarator.initial
  | .function _ | .classLike _ => []

/-- The expressions that are read for a statement. -/
def Statement.expressions {Expr Label : Type} : Statement Expr Label → List Expr
  | .declaration declared | .exportDeclaration declared | .exportDefault (.declaration declared) =>
      declared.initials
  | .exportDefault (.expression expression) => [expression]
  | .importing | .exportClause _ _ | .exportAll | .other _ => []

/-- The names in the export clause of a statement. -/
def Statement.labels {Expr Label : Type} : Statement Expr Label → List Label
  | .exportClause specifiers source =>
      specifiers.flatMap (fun specifier => specifier.localName :: specifier.alias?.toList) ++
        source.toList
  | _ => []

/-- An escape sequence is written in a literal of a statement. -/
def Statement.Writes (body : Text) (statement : WrittenStatement) : Prop :=
  (∃ expression ∈ statement.expressions, expression.Writes body) ∨
    ∃ span literal pieces, .string span literal pieces ∈ statement.labels ∧ .escape body ∈ pieces

/-- An escape sequence that stands for a number beyond 32 bits. -/
def IsTooLarge (body : Text) : Prop :=
  ∃ radix digits number, EscapeNumeral body radix digits ∧
    Number.SpellsInteger radix digits number ∧ (number < -0x80000000 ∨ 0x80000000 ≤ number)

theorem codePointText_tooLarge_iff (number : Int) :
    codePointText number = .error .numberTooLarge ↔
      number < -0x80000000 ∨ 0x80000000 ≤ number := by
  unfold codePointText
  by_cases tooLarge : number < -0x80000000 ∨ number ≥ 0x80000000
  · simp [tooLarge]
  · simp only [tooLarge, if_false, iff_false]
    split
    · simp
    · split <;> simp

theorem numeralText_tooLarge_iff {radix : Nat} (several : 0 < radix) (digits : Text) :
    numeralText radix digits = .error .numberTooLarge ↔
      ∃ number, Number.SpellsInteger radix digits number ∧
        (number < -0x80000000 ∨ 0x80000000 ≤ number) := by
  simp only [← Number.readInteger?_eq_some_iff several]
  unfold numeralText
  cases read : Number.readInteger? radix digits with
  | none => simp
  | some number => simp [codePointText_tooLarge_iff]

theorem decodeEscape_tooLarge_iff (body : Text) :
    decodeEscape body = .error .numberTooLarge ↔ IsTooLarge body := by
  constructor
  · intro failed
    rcases exists_numeral_of_decodeEscape failed with ⟨radix, digits, writes, onDigits⟩
    rcases (numeralText_tooLarge_iff writes.radix_pos digits).mp onDigits with
      ⟨number, spells, isLarge⟩
    exact ⟨radix, digits, number, writes, spells, isLarge⟩
  · rintro ⟨radix, digits, number, writes, spells, isLarge⟩
    rw [writes.decodes]
    exact (numeralText_tooLarge_iff writes.radix_pos digits).mpr ⟨number, spells, isLarge⟩

/-- A fault is that of an escape sequence that is written in an expression. -/
def Expression.IsToBlame (expression : Expression) (fault : ModuleFault) : Prop :=
  fault = .tooLarge ∧ ∃ body, expression.Writes body ∧ IsTooLarge body

theorem Expression.IsToBlame.inside {whole part : Expression} {fault : ModuleFault}
    (isPart : part ∈ whole.parts) (blame : part.IsToBlame fault) : whole.IsToBlame fault := by
  rcases blame with ⟨same, body, written, isTooLarge⟩
  exact ⟨same, body, .inside isPart written, isTooLarge⟩

theorem exists_escape_of_pieceTexts {readRaw : Text → Text} {pieces : List LiteralPiece}
    {fault : LiteralFault} (failed : pieceTexts readRaw pieces = .error fault) :
    ∃ body, .escape body ∈ pieces ∧ decodeEscape body = .error fault := by
  induction pieces with
  | nil => cases failed
  | cons piece rest ih =>
      cases piece with
      | raw text =>
          rcases bind_eq_error failed with onRest | ⟨texts, -, impossible⟩
          · rcases ih onRest with ⟨body, written, isAtFault⟩
            exact ⟨body, List.mem_cons_of_mem _ written, isAtFault⟩
          · cases impossible
      | escape body =>
          rcases bind_eq_error failed with onFirst | ⟨decoded, -, later⟩
          · exact ⟨body, List.mem_cons_self .., onFirst⟩
          · rcases bind_eq_error later with onRest | ⟨texts, -, impossible⟩
            · rcases ih onRest with ⟨body, written, isAtFault⟩
              exact ⟨body, List.mem_cons_of_mem _ written, isAtFault⟩
            · cases impossible

theorem exists_tooLarge_of_pieceTexts {readRaw : Text → Text} {pieces : List LiteralPiece}
    (failed : pieceTexts readRaw pieces = .error .numberTooLarge) :
    ∃ body, .escape body ∈ pieces ∧ IsTooLarge body := by
  rcases exists_escape_of_pieceTexts failed with ⟨body, written, isAtFault⟩
  exact ⟨body, written, (decodeEscape_tooLarge_iff body).mp isAtFault⟩

theorem exists_tooLarge_of_cookString {pieces : List LiteralPiece}
    (failed : cookString pieces = .error .numberTooLarge) :
    ∃ body, .escape body ∈ pieces ∧ IsTooLarge body := by
  rcases bind_eq_error failed with onTexts | ⟨texts, -, impossible⟩
  · exact exists_tooLarge_of_pieceTexts onTexts
  · cases impossible

theorem exists_tooLarge_of_cookTemplate {pieces : List LiteralPiece}
    (failed : cookTemplate pieces = .error .numberTooLarge) :
    ∃ body, .escape body ∈ pieces ∧ IsTooLarge body := by
  rcases bind_eq_error failed with onTexts | ⟨texts, -, impossible⟩
  · exact exists_tooLarge_of_pieceTexts onTexts
  · cases impossible

/-- A numeric literal may be malformed, but not too large. -/
theorem readNumber_ne_tooLarge (literal : Text) :
    readNumber literal ≠ .error .numberTooLarge := by
  unfold readNumber
  dsimp only
  repeat' split
  all_goals simp

end Script

section Cooking

variable {fault : ModuleFault} (unreported : fault.isReported = false)

include unreported

theorem cooked_unreported {Result : Type} {value : Except LiteralFault Result}
    (failed : cooked value = .error fault) :
    fault = .tooLarge ∧ value = .error .numberTooLarge := by
  rcases value with literalFault | result
  · cases failed
    cases literalFault with
    | numberTooLarge => exact ⟨rfl, rfl⟩
    | _ => cases unreported
  · cases failed

namespace Node

theorem ofString_unreported {span : Span} {raw : Text} {pieces : List LiteralPiece}
    (failed : ofString span raw pieces = .error fault) :
    fault = .tooLarge ∧ ∃ body, .escape body ∈ pieces ∧ IsTooLarge body := by
  rcases bind_eq_error failed with onText | ⟨text, -, impossible⟩
  · rcases cooked_unreported unreported onText with ⟨same, onPieces⟩
    exact ⟨same, exists_tooLarge_of_cookString onPieces⟩
  · cases impossible

theorem ofNumber_unreported {span : Span} {raw : Text} : ofNumber span raw ≠ .error fault := by
  intro failed
  rcases bind_eq_error failed with onNumber | ⟨number?, -, later⟩
  · exact readNumber_ne_tooLarge raw (cooked_unreported unreported onNumber).2
  · cases number? <;> cases later

theorem ofKey_unreported {key : Expression} (failed : ofKey key = .error fault) :
    key.IsToBlame fault := by
  cases key with
  | string span literal pieces =>
      rcases ofString_unreported unreported failed with ⟨same, body, written, isTooLarge⟩
      exact ⟨same, body, .string written, isTooLarge⟩
  | number span literal => exact absurd failed (ofNumber_unreported unreported)
  | _ => cases failed <;> cases unreported

omit unreported in
/-- The operands of a chain are parts of its operators. -/
theorem chain_blames {links : List ChainLink} {expression : Expression}
    (atFault : (chain links expression).1.IsToBlame fault ∨
      ∃ link ∈ (chain links expression).2, link.right.IsToBlame fault) :
    expression.IsToBlame fault ∨ ∃ link ∈ links, link.right.IsToBlame fault := by
  fun_induction chain links expression with
  | case1 links span operator left right ih | case2 links span operator left right ih =>
      rcases ih atFault with onLeft | ⟨link, mem, onLink⟩
      · exact .inl (onLeft.inside (List.mem_cons_self ..))
      · rcases List.mem_cons.mp mem with rfl | mem
        · exact .inl (onLink.inside (by simp [Expression.parts]))
        · exact .inr ⟨link, mem, onLink⟩
  | case3 links first => exact atFault

omit unreported in
theorem mem_of_mem_arraySlots {waiting : Option Expression} {tokens : List ArrayToken}
    {element : Expression} (mem : some element ∈ arraySlots waiting tokens) :
    waiting = some element ∨ .element element ∈ tokens := by
  induction tokens generalizing waiting with
  | nil =>
      cases waiting with
      | none => cases mem
      | some first => exact .inl (List.mem_singleton.mp mem).symm
  | cons token rest ih =>
      cases token with
      | comma =>
          rcases List.mem_cons.mp mem with isWaiting | later
          · exact .inl isWaiting.symm
          · rcases ih later with impossible | isElement
            · cases impossible
            · exact .inr (List.mem_cons_of_mem _ isElement)
      | element first =>
          rcases ih mem with isFirst | isElement
          · cases isFirst
            exact .inr (List.mem_cons_self ..)
          · exact .inr (List.mem_cons_of_mem _ isElement)

section Expressions

variable {self : Expression → Except ModuleFault Node}
  (blames : ∀ expression, self expression = .error fault → expression.IsToBlame fault)

include blames

theorem ofMember_unreported {member : Member} (failed : ofMember self member = .error fault) :
    ∃ part ∈ member.parts, part.IsToBlame fault := by
  cases member with
  | pair span key isComputed value =>
      have onParts : (if isComputed then self key else ofKey key) = .error fault ∨
          self value = .error fault := by
        cases isComputed <;>
        · rcases bind_eq_error failed with onKey | ⟨keyNode, -, later⟩
          · exact .inl onKey
          · rcases bind_eq_error later with onValue | ⟨valueNode, -, impossible⟩
            · exact .inr onValue
            · cases impossible
      rcases onParts with onKey | onValue
      · refine ⟨key, List.mem_cons_self .., ?_⟩
        cases isComputed with
        | true => exact blames key onKey
        | false => exact ofKey_unreported unreported onKey
      · exact ⟨value, by simp [Member.parts], blames value onValue⟩
  | shorthand span name => cases failed
  | spread span argument =>
      rcases bind_eq_error failed with onArgument | ⟨node, -, impossible⟩
      · exact ⟨argument, List.mem_cons_self .., blames argument onArgument⟩
      · cases impossible
  | method span kind => cases failed

omit unreported in
theorem ofChain_unreported {whole : Expression} (failed : ofChain self whole = .error fault) :
    whole.IsToBlame fault := by
  have atFault : (chain [] whole).1.IsToBlame fault ∨
      ∃ link ∈ (chain [] whole).2, link.right.IsToBlame fault := by
    rcases bind_eq_error failed with onFirst | ⟨node, -, later⟩
    · exact .inl (blames _ onFirst)
    · rcases exists_of_foldlM_error later with ⟨link, mem, left, onLink⟩
      rcases bind_eq_error onLink with onRight | ⟨right, -, impossible⟩
      · exact .inr ⟨link, mem, blames _ onRight⟩
      · cases impossible
  rcases chain_blames atFault with blame | ⟨link, mem, -⟩
  · exact blame
  · cases mem

theorem ofExpressionWith_unreported {expression : Expression}
    (failed : ofExpressionWith self expression = .error fault) : expression.IsToBlame fault := by
  have part {part whole : Expression} (isPart : part ∈ whole.parts)
      (onPart : self part = .error fault) : whole.IsToBlame fault :=
    (blames part onPart).inside isPart
  cases expression with
  | number span literal => exact absurd failed (ofNumber_unreported unreported)
  | string span literal pieces =>
      rcases ofString_unreported unreported failed with ⟨same, body, written, isTooLarge⟩
      exact ⟨same, body, .string written, isTooLarge⟩
  | template span head parts =>
      rcases bind_eq_error failed with onHead | ⟨first, -, later⟩
      · rcases cooked_unreported unreported onHead with ⟨same, onPieces⟩
        rcases exists_tooLarge_of_cookTemplate onPieces with ⟨body, written, isTooLarge⟩
        exact ⟨same, body, .head written, isTooLarge⟩
      rcases bind_eq_error later with onParts | ⟨nodes, -, impossible⟩
      · rcases exists_of_mapM_error onParts with ⟨⟨substitution, following⟩, mem, onPart⟩
        rcases bind_eq_error onPart with onSubstitution | ⟨node, -, later⟩
        · exact part (List.mem_map.mpr ⟨_, mem, rfl⟩) onSubstitution
        · rcases bind_eq_error later with onFollowing | ⟨text, -, impossible⟩
          · rcases cooked_unreported unreported onFollowing with ⟨same, onPieces⟩
            rcases exists_tooLarge_of_cookTemplate onPieces with ⟨body, written, isTooLarge⟩
            exact ⟨same, body, .following mem written, isTooLarge⟩
          · cases impossible
      · cases impossible
  | array span tokens =>
      rcases bind_eq_error failed with onSlots | ⟨nodes, -, impossible⟩
      · rcases exists_of_mapM_error onSlots with ⟨slot, mem, onSlot⟩
        cases slot with
        | none => cases onSlot
        | some element =>
            rcases mem_of_mem_arraySlots mem with impossible | isElement
            · cases impossible
            · refine part (List.mem_filterMap.mpr ⟨_, isElement, rfl⟩) ?_
              change some <$> self element = .error fault at onSlot
              rcases outcome : self element with fault | node
              · rw [outcome] at onSlot
                cases onSlot
                rfl
              · rw [outcome] at onSlot
                cases onSlot
      · cases impossible
  | object span members =>
      rcases bind_eq_error failed with onMembers | ⟨nodes, -, impossible⟩
      · rcases exists_of_mapM_error onMembers with ⟨member, mem, onMember⟩
        rcases ofMember_unreported unreported blames onMember with ⟨inner, isPart, blame⟩
        exact blame.inside (List.mem_flatMap.mpr ⟨member, mem, isPart⟩)
      · cases impossible
  | spread span argument | unary span operator argument =>
      rcases bind_eq_error failed with onArgument | ⟨node, -, impossible⟩
      · exact part (List.mem_cons_self ..) onArgument
      · cases impossible
  | binary span operator left right | logical span operator left right =>
      exact ofChain_unreported blames failed
  | conditional span test consequent alternate =>
      rcases bind_eq_error failed with onTest | ⟨testNode, -, later⟩
      · exact part (by simp [Expression.parts]) onTest
      rcases bind_eq_error later with onConsequent | ⟨consequentNode, -, later⟩
      · exact part (by simp [Expression.parts]) onConsequent
      rcases bind_eq_error later with onAlternate | ⟨alternateNode, -, impossible⟩
      · exact part (by simp [Expression.parts]) onAlternate
      · cases impossible
  | member span owner property isOptional =>
      rcases bind_eq_error failed with onProperty | ⟨propertyNode, -, later⟩
      · exact (ofKey_unreported unreported onProperty).inside (by simp [Expression.parts])
      rcases bind_eq_error later with onOwner | ⟨ownerNode, -, impossible⟩
      · exact part (by simp [Expression.parts]) onOwner
      · cases impossible
  | subscript span owner index isOptional =>
      rcases bind_eq_error failed with onOwner | ⟨ownerNode, -, later⟩
      · exact part (by simp [Expression.parts]) onOwner
      rcases bind_eq_error later with onIndex | ⟨indexNode, -, impossible⟩
      · exact part (by simp [Expression.parts]) onIndex
      · cases impossible
  | call span callee arguments isOptional =>
      rcases bind_eq_error failed with onCallee | ⟨calleeNode, -, later⟩
      · exact part (by simp [Expression.parts]) onCallee
      rcases bind_eq_error later with onArguments | ⟨nodes, -, impossible⟩
      · rcases exists_of_mapM_error onArguments with ⟨argument, mem, onArgument⟩
        exact part (List.mem_cons_of_mem _ mem) onArgument
      · cases impossible
  | parenthesized inner => exact part (List.mem_cons_self ..) failed
  | identifier | boolean | null | regularExpression | arrow | function | other => cases failed

end Expressions

/-- If the fault of an expression is not reported, an escape sequence in it is to blame. -/
theorem ofExpression_unreported {limit : Nat} {expression : Expression}
    (failed : ofExpression limit expression = .error fault) : expression.IsToBlame fault := by
  induction limit generalizing expression with
  | zero =>
      cases failed
      cases unreported
  | succ limit ih => exact ofExpressionWith_unreported unreported (fun _ => ih) failed

end Node

omit unreported in
theorem exists_of_option_mapM_error {Source Result : Type}
    {action : Source → Except ModuleFault Result} {source? : Option Source}
    (failed : source?.mapM action = .error fault) :
    ∃ source, source? = some source ∧ action source = .error fault := by
  cases source? with
  | none => cases failed
  | some source =>
      rcases bind_eq_error failed with onSource | ⟨result, -, impossible⟩
      · exact ⟨source, rfl, onSource⟩
      · cases impossible

theorem cookDeclaration_unreported {declaration : Declaration Expression}
    (failed : cookDeclaration declaration = .error fault) :
    ∃ expression ∈ declaration.initials, expression.IsToBlame fault := by
  rcases declaration with ⟨kind, declarators⟩ | head | head
  · rcases bind_eq_error failed with onDeclarators | ⟨cooked, -, impossible⟩
    · rcases exists_of_mapM_error onDeclarators with ⟨declarator, mem, onDeclarator⟩
      rcases bind_eq_error onDeclarator with onInitial | ⟨initial, -, impossible⟩
      · rcases exists_of_option_mapM_error onInitial with ⟨expression, isInitial, onExpression⟩
        exact ⟨expression, List.mem_filterMap.mpr ⟨declarator, mem, isInitial⟩,
          Node.ofExpression_unreported unreported onExpression⟩
      · cases impossible
    · cases impossible
  · cases failed
  · cases failed

theorem cookLabel_unreported {label : WrittenLabel} (failed : cookLabel label = .error fault) :
    fault = .tooLarge ∧ ∃ span literal pieces body, label = .string span literal pieces ∧
      .escape body ∈ pieces ∧ IsTooLarge body := by
  cases label with
  | identifier name => cases failed
  | string span literal pieces =>
      rcases bind_eq_error failed with onText | ⟨text, -, impossible⟩
      · rcases cooked_unreported unreported onText with ⟨same, onPieces⟩
        rcases exists_tooLarge_of_cookString onPieces with ⟨body, written, isTooLarge⟩
        exact ⟨same, span, literal, pieces, body, rfl, written, isTooLarge⟩
      · cases impossible

omit unreported in
theorem exists_label_of_cookSpecifier {specifier : Specifier WrittenLabel}
    (failed : cookSpecifier specifier = .error fault) :
    ∃ label ∈ specifier.localName :: specifier.alias?.toList, cookLabel label = .error fault := by
  rcases bind_eq_error failed with onLocal | ⟨localName, -, later⟩
  · exact ⟨specifier.localName, List.mem_cons_self .., onLocal⟩
  · rcases bind_eq_error later with onAlias | ⟨cooked, -, impossible⟩
    · rcases exists_of_option_mapM_error onAlias with ⟨label, isAlias, onLabel⟩
      exact ⟨label, by simp [isAlias], onLabel⟩
    · cases impossible

/-- If the fault of a statement is not reported, an escape sequence in it is to blame. -/
theorem cookStatement_unreported {statement : WrittenStatement}
    (failed : cookStatement statement = .error fault) :
    fault = .tooLarge ∧ ∃ body, statement.Writes body ∧ IsTooLarge body := by
  have inExpression (atFault : ∃ expression ∈ statement.expressions, expression.IsToBlame fault) :
      fault = .tooLarge ∧ ∃ body, statement.Writes body ∧ IsTooLarge body := by
    rcases atFault with ⟨expression, mem, same, body, written, isTooLarge⟩
    exact ⟨same, body, .inl ⟨expression, mem, written⟩, isTooLarge⟩
  have inLabel {label : WrittenLabel} (mem : label ∈ statement.labels)
      (onLabel : cookLabel label = .error fault) :
      fault = .tooLarge ∧ ∃ body, statement.Writes body ∧ IsTooLarge body := by
    obtain ⟨same, span, literal, pieces, body, rfl, written, isTooLarge⟩ :=
      cookLabel_unreported unreported onLabel
    exact ⟨same, body, .inr ⟨span, literal, pieces, mem, written⟩, isTooLarge⟩
  cases statement with
  | declaration declared | exportDeclaration declared =>
      rcases bind_eq_error failed with onDeclared | ⟨cooked, -, impossible⟩
      · exact inExpression (cookDeclaration_unreported unreported onDeclared)
      · cases impossible
  | exportDefault exported =>
      cases exported with
      | declaration declared =>
          rcases bind_eq_error failed with onDeclared | ⟨cooked, -, impossible⟩
          · exact inExpression (cookDeclaration_unreported unreported onDeclared)
          · cases impossible
      | expression expression =>
          rcases bind_eq_error failed with onExpression | ⟨cooked, -, impossible⟩
          · exact inExpression
              ⟨expression, List.mem_singleton_self _,
                Node.ofExpression_unreported unreported onExpression⟩
          · cases impossible
  | exportClause specifiers source =>
      rcases bind_eq_error failed with onSpecifiers | ⟨cooked, -, later⟩
      · rcases exists_of_mapM_error onSpecifiers with ⟨specifier, mem, onSpecifier⟩
        rcases exists_label_of_cookSpecifier onSpecifier with ⟨label, isLabel, onLabel⟩
        exact inLabel (List.mem_append_left _ (List.mem_flatMap.mpr ⟨specifier, mem, isLabel⟩))
          onLabel
      rcases bind_eq_error later with onSource | ⟨cookedSource, -, impossible⟩
      · rcases exists_of_option_mapM_error onSource with ⟨label, isSource, onLabel⟩
        exact inLabel (List.mem_append_right _ (by simp [isSource])) onLabel
      · cases impossible
  | importing | exportAll | other kind => cases failed

end Cooking

namespace Module

theorem characters_encode (characters : List Char) :
    (characters.map CodePoint.ofChar).mapM CodePoint.toChar? = some characters := by
  induction characters with
  | nil => rfl
  | cons character rest ih =>
      have encodes : CodePoint.toChar? (CodePoint.ofChar character) = some character := by
        have isScalar := CodePoint.isSurrogate_ofChar character
        simp only [CodePoint.toChar?, isScalar, Bool.false_eq_true, if_false]
        exact congrArg some character.ofNat_toNat
      rw [List.map_cons, List.mapM_cons, encodes, ih]
      rfl

/-- A source of scalar values is parsed once it has statements. -/
theorem parseWith_eq (read : SourceReader) (characters : List Char) :
    parseWith read (characters.map CodePoint.ofChar) =
      match read characters with
      | .error tree => .error (.invalidSource tree.fault)
      | .ok written => (written.mapM cookStatement).map (⟨characters, ·⟩) := by
  unfold parseWith
  simp only [characters_encode]
  cases read characters with
  | error tree => rfl
  | ok written =>
      dsimp only
      cases written.mapM cookStatement <;> rfl

/-- If the fault of a source is not reported, an escape sequence in a literal of its statements
stands for a number beyond 32 bits. -/
theorem exists_escape_of_parseWith {read : SourceReader} {characters : List Char}
    {fault : ModuleFault} (unreported : fault.isReported = false)
    (failed : parseWith read (characters.map CodePoint.ofChar) = .error fault) :
    fault = .tooLarge ∧ ∃ written, read characters = .ok written ∧
      ∃ statement ∈ written, ∃ body, statement.Writes body ∧ IsTooLarge body := by
  rw [parseWith_eq] at failed
  cases parsed : read characters with
  | error tree =>
      rw [parsed] at failed
      cases failed
      cases unreported
  | ok written =>
      rw [parsed] at failed
      dsimp only at failed
      cases outcome : written.mapM cookStatement with
      | error first =>
          rw [outcome] at failed
          cases failed
          rcases exists_of_mapM_error outcome with ⟨statement, mem, onStatement⟩
          rcases cookStatement_unreported unreported onStatement with ⟨same, atFault⟩
          exact ⟨same, written, rfl, statement, mem, atFault⟩
      | ok statements =>
          rw [outcome] at failed
          cases failed

end Module

end ComponentInliner
