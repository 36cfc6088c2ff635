import ComponentInliner.Module.Parse
import ComponentInliner.Proofs.Outcome
import ComponentInliner.Proofs.Script.Blanks
import ComponentInliner.Proofs.Script.Bodies

/-!
# Templates

A template as it is written: stretches of text with substitutions between them. If each
substitution is an expression of the grammar, the parser takes the template apart at just these
places (`templateLiteral_run`), whatever the stretches hold, and its texts are those of the
stretches, each on its own (`WrittenTemplate.IsReadable.yields`). The first stretch without a text
decides the fault of a template.
-/

namespace ComponentInliner

open Script

/-- The texts of a template. -/
def Node.quasis : Node → List Text
  | .template _ head parts => templateTexts head parts
  | _ => []

/-- The expressions between the texts of a template. -/
def Node.substitutions : Node → List Node
  | .template _ _ parts => parts.map Prod.fst
  | _ => []

namespace Script

/-- A substitution, without its braces, and the stretch of text behind it. -/
structure WrittenPart where
  substitution : List Char
  following : List Char

structure WrittenTemplate where
  head : List Char
  parts : List WrittenPart

namespace WrittenPart

def characters (part : WrittenPart) : List Char :=
  '$' :: '{' :: (part.substitution ++ '}' :: part.following)

end WrittenPart

namespace WrittenTemplate

def characters (template : WrittenTemplate) : List Char :=
  '\x60' :: (template.head ++ (template.parts.flatMap WrittenPart.characters ++ ['\x60']))

def stretches (template : WrittenTemplate) : List (List Char) :=
  template.head :: template.parts.map WrittenPart.following

end WrittenTemplate

/-- A stretch of text goes on up to the backtick behind it. -/
def IsStretch (stretch : List Char) : Prop :=
  ∃ pieces, scanTemplate (stretch ++ ['\x60']) = some ⟨pieces, stretch, ['\x60']⟩

/--
An expression that may be substituted: wherever it stands, the grammar reads it up to the closing
brace behind it, and it has a node that nests within the limit.
-/
def Grammar.Substitutes (grammar : Grammar) (limit : Nat) (substitution : List Char) : Prop :=
  ∀ (offset : Nat) (rest : List Char), ∃ expression after node,
    (expressionValue grammar true).run (Cursor.opened (substitution ++ '}' :: rest) offset) =
        some (expression, after) ∧
      after.token = .punctuator closeBrace ∧ after.rest = '}' :: rest ∧
      after.offset = offset + byteCount substitution ∧
      Node.ofExpression limit expression = .ok node

/-- A template can be read: its stretches are stretches and its substitutions expressions. -/
structure WrittenTemplate.IsReadable (grammar : Grammar) (limit : Nat)
    (template : WrittenTemplate) : Prop where
  stretches : ∀ stretch ∈ template.stretches, IsStretch stretch
  substitutions : ∀ part ∈ template.parts, grammar.Substitutes limit part.substitution
  few : template.parts.length ≤ grammar.bound

/-- Wherever a template stands, it is read to its end and has an expression for each substitution,
between the given texts, or the given fault. -/
def WrittenTemplate.Yields (grammar : Grammar) (limit : Nat) (template : WrittenTemplate)
    (outcome : Except ModuleFault (List Text)) : Prop :=
  ∀ (offset : Nat) (rest : List Char), ∃ operand,
    (primary grammar).run (Cursor.after (template.characters ++ rest) offset) =
        some (operand, Cursor.after rest (offset + byteCount template.characters)) ∧
      (Node.ofExpression (limit + 1) operand.expression).map
          (fun node => (node.quasis, node.substitutions.length)) =
        outcome.map fun quasis => (quasis, template.parts.length)

/-- The text of a stretch on its own. -/
def cookStretch (stretch : List Char) : Except LiteralFault Text :=
  match scanTemplate (stretch ++ ['\x60']) with
  | some body => cookTemplate body.pieces
  | none => .error .malformed

section Stretches

variable {stretch : List Char} {pieces : List LiteralPiece}

theorem cookStretch_of_isBody (isBody : IsBody StandsInTemplate stretch pieces) :
    cookStretch stretch = cookTemplate pieces := by
  rw [cookStretch, (scanTemplate_iff (.backtick [])).mpr isBody]

theorem isStretch_iff : IsStretch stretch ↔ ∃ pieces, IsBody StandsInTemplate stretch pieces :=
  exists_congr fun _ => scanTemplate_iff (.backtick [])

end Stretches

section Reading

variable {grammar : Grammar} {limit : Nat} {rest : List Char}

theorem WrittenPart.byteCount_characters (part : WrittenPart) :
    byteCount part.characters = byteCount part.substitution + byteCount part.following + 3 := by
  have oneByte : '$'.utf8Size = 1 ∧ '{'.utf8Size = 1 ∧ '}'.utf8Size = 1 := by decide
  rw [characters, byteCount_cons, byteCount_cons, byteCount_append, byteCount_cons, oneByte.1,
    oneByte.2.1, oneByte.2.2]
  omega

theorem WrittenPart.flatMap_characters (part : WrittenPart) (more : List WrittenPart)
    (input : List Char) : (part :: more).flatMap characters ++ input =
      '$' :: '{' :: (part.substitution ++
        '}' :: (part.following ++ (more.flatMap characters ++ input))) := by
  simp [characters]

/-- What is read of a part of a template. -/
def WrittenPart.IsReadAs (limit : Nat) (part : WrittenPart) (read : TemplatePart) : Prop :=
  ∃ expression pieces node, read = .mk expression pieces ∧
    IsBody StandsInTemplate part.following pieces ∧ Node.ofExpression limit expression = .ok node

/-- The parser reads a substitution, then the stretch behind its brace, then the other parts. -/
theorem templateParts_succ {substitution tail : List Char} {expression : Expression}
    {after : Cursor} {bound offset : Nat}
    (read : (expressionValue grammar true).run (Cursor.opened substitution offset) =
      some (expression, after))
    (atBrace : after.token = .punctuator closeBrace) (isTail : after.rest = '}' :: tail) :
    (templateParts grammar (bound + 1)).run (Cursor.opened substitution offset) =
      (do
        let (pieces, ended) ← templateStretch tail (after.offset + 1)
        if ended then
          return [.mk expression pieces]
        return .mk expression pieces :: (← templateParts grammar bound) :
        Parser (List TemplatePart)).run after := by
  rw [templateParts, StateT.run_bind, read]
  simp [Parser.atSymbol, Parser.token, Parser.require, atBrace, isTail]

/-- The parser takes the parts of a template apart, the first substitution and what follows it. -/
theorem templateParts_run {part : WrittenPart} {more : List WrittenPart} {bound : Nat}
    (stretches : ∀ stretch ∈ (part :: more).map WrittenPart.following, IsStretch stretch)
    (substitutions : ∀ other ∈ part :: more, grammar.Substitutes limit other.substitution)
    (few : more.length < bound) (offset : Nat) (rest : List Char) :
    ∃ reads, (templateParts grammar bound).run (Cursor.opened (part.substitution ++
          '}' :: (part.following ++ (more.flatMap WrittenPart.characters ++ '\x60' :: rest)))
          offset) =
        some (reads, Cursor.after rest (offset + byteCount part.substitution + 1 +
          byteCount part.following + byteCount (more.flatMap WrittenPart.characters) + 1)) ∧
      List.Forall₂ (WrittenPart.IsReadAs limit) (part :: more) reads := by
  induction more generalizing part bound offset with
  | nil =>
      obtain ⟨left, rfl⟩ := Nat.exists_eq_add_one_of_ne_zero (Nat.ne_zero_of_lt few)
      obtain ⟨onStretch, -⟩ := List.forall_mem_cons.mp stretches
      obtain ⟨pieces, isBody⟩ := isStretch_iff.mp onStretch
      obtain ⟨expression, after, node, read, atBrace, isTail, isOffset, isNode⟩ :=
        substitutions part (List.mem_cons_self ..) offset
          (part.following ++ '\x60' :: rest)
      refine ⟨[.mk expression pieces], ?_, .cons ⟨_, _, _, rfl, isBody, isNode⟩ .nil⟩
      rw [List.flatMap_nil, List.nil_append, templateParts_succ read atBrace isTail,
        StateT.run_bind, templateStretch_last isBody, isOffset]
      rfl
  | cons second later ih =>
      obtain ⟨left, rfl⟩ := Nat.exists_eq_add_one_of_ne_zero (Nat.ne_zero_of_lt few)
      obtain ⟨onStretch, onLater⟩ := List.forall_mem_cons.mp stretches
      obtain ⟨pieces, isBody⟩ := isStretch_iff.mp onStretch
      obtain ⟨expression, after, node, read, atBrace, isTail, isOffset, isNode⟩ :=
        substitutions part (List.mem_cons_self ..) offset
          (part.following ++ ((second :: later).flatMap WrittenPart.characters ++ '\x60' :: rest))
      obtain ⟨reads, onReads, areReads⟩ := ih onLater (List.forall_mem_cons.mp substitutions).2
        (Nat.lt_of_succ_lt_succ few) (after.offset + 1 + byteCount part.following + 2)
      refine ⟨.mk expression pieces :: reads, ?_, .cons ⟨_, _, _, rfl, isBody, isNode⟩ areReads⟩
      rw [templateParts_succ read atBrace isTail, StateT.run_bind,
        second.flatMap_characters, templateStretch_between isBody]
      have sameEnd : offset + byteCount part.substitution + 1 + byteCount part.following + 2 +
          byteCount second.substitution + 1 + byteCount second.following +
            byteCount (later.flatMap WrittenPart.characters) + 1 =
          offset + byteCount part.substitution + 1 + byteCount part.following +
            byteCount ((second :: later).flatMap WrittenPart.characters) + 1 := by
        rw [List.flatMap_cons, byteCount_append, second.byteCount_characters]
        omega
      rw [isOffset, sameEnd] at onReads
      simp [isOffset, onReads]

theorem WrittenTemplate.characters_append (template : WrittenTemplate) :
    template.characters ++ rest = '\x60' :: (template.head ++
      (template.parts.flatMap WrittenPart.characters ++ '\x60' :: rest)) := by
  simp [characters]

theorem WrittenTemplate.byteCount_characters (template : WrittenTemplate) :
    byteCount template.characters = byteCount template.head +
      byteCount (template.parts.flatMap WrittenPart.characters) + 2 := by
  have oneByte : '\x60'.utf8Size = 1 ∧ byteCount ['\x60'] = 1 := by decide
  rw [characters, byteCount_cons, byteCount_append, byteCount_append, oneByte.1, oneByte.2]
  omega

/-- The parser takes a template apart at its substitutions. -/
theorem templateLiteral_run {template : WrittenTemplate}
    (isReadable : template.IsReadable grammar limit) (offset : Nat) (rest : List Char) :
    ∃ head reads, (templateLiteral grammar).run
          (Cursor.after (template.characters ++ rest) offset) =
        some (.template ⟨offset, offset + byteCount template.characters⟩ head reads,
          Cursor.after rest (offset + byteCount template.characters)) ∧
      IsBody StandsInTemplate template.head head ∧
      List.Forall₂ (WrittenPart.IsReadAs limit) template.parts reads := by
  obtain ⟨stretch, parts⟩ := template
  obtain ⟨stretches, substitutions, few⟩ := isReadable
  obtain ⟨onHead, onParts⟩ := List.forall_mem_cons.mp stretches
  obtain ⟨head, isBody⟩ := isStretch_iff.mp onHead
  rw [WrittenTemplate.characters_append, WrittenTemplate.byteCount_characters]
  dsimp only at isBody ⊢
  have started (input : List Char) : Cursor.after ('\x60' :: input) offset =
      ⟨'\x60' :: input, offset, offset, false, .backtick, .inr rfl⟩ := rfl
  have ended (stop : Nat) : (Cursor.after rest stop).previousEnd = stop := rfl
  cases parts with
  | nil =>
      have sameEnd : offset + 1 + byteCount stretch + 1 =
          offset + (byteCount stretch + byteCount [] + 2) := by
        rw [show byteCount [] = 0 from rfl]
        omega
      have stretchRun := templateStretch_last isBody (offset + 1) rest
      rw [sameEnd] at stretchRun
      refine ⟨head, [], ?_, isBody, .nil⟩
      rw [started]
      simp [templateLiteral, Parser.spanFrom, stretchRun, ended]
  | cons part more =>
      have stretchRun := templateStretch_between isBody (offset + 1) (part.substitution ++ '}' ::
        (part.following ++ (more.flatMap WrittenPart.characters ++ '\x60' :: rest)))
      obtain ⟨reads, onReads, areReads⟩ := templateParts_run onParts substitutions few
        (offset + 1 + byteCount stretch + 2) rest
      have sameEnd : offset + 1 + byteCount stretch + 2 + byteCount part.substitution + 1 +
          byteCount part.following + byteCount (more.flatMap WrittenPart.characters) + 1 =
          offset + (byteCount stretch +
            byteCount ((part :: more).flatMap WrittenPart.characters) + 2) := by
        rw [List.flatMap_cons, byteCount_append, part.byteCount_characters]
        omega
      rw [sameEnd] at onReads
      refine ⟨head, reads, ?_, isBody, areReads⟩
      rw [started, part.flatMap_characters]
      simp [templateLiteral, Parser.spanFrom, stretchRun, onReads, ended]

theorem primary_template {cursor after : Cursor} {expression : Expression}
    (isBacktick : cursor.token = .backtick)
    (read : (templateLiteral grammar).run cursor = some (expression, after)) :
    (primary grammar).run cursor = some (valueOperand cursor.offset expression, after) := by
  have isTemplate : (primary grammar).run cursor =
      (valueOperand cursor.offset <$> templateLiteral grammar).run cursor := by
    obtain ⟨rest, offset, previousEnd, lineBreak, token⟩ := cursor
    subst isBacktick
    rfl
  rw [isTemplate, StateT.run_map, read]
  rfl

theorem cases_of_map_eq_cooked {Source Result : Type} {read : Except ModuleFault Source}
    {value : Except LiteralFault Result} {convert : Source → Result}
    (same : read.map convert = cooked value) :
    (∃ fault, read = .error (.invalidLiteral fault) ∧ value = .error fault) ∨
      ∃ source, read = .ok source ∧ value = .ok (convert source) := by
  cases read with
  | error first =>
      cases value with
      | error fault =>
          cases same
          exact .inl ⟨fault, rfl, rfl⟩
      | ok result => cases same
  | ok source =>
      cases value with
      | error fault => cases same
      | ok result =>
          cases same
          exact .inr ⟨source, rfl, rfl⟩

theorem mapM_ofPart {parts : List WrittenPart} {reads : List TemplatePart}
    (areReads : List.Forall₂ (WrittenPart.IsReadAs limit) parts reads) :
    (reads.mapM (Node.ofPart (Node.ofExpression limit))).map (List.map Prod.snd) =
      cooked ((parts.map WrittenPart.following).mapM cookStretch) := by
  induction areReads with
  | nil => rfl
  | @cons part read parts reads isRead _ ih =>
      obtain ⟨expression, pieces, node, rfl, isBody, isNode⟩ := isRead
      rw [List.mapM_cons, List.map_cons, List.mapM_cons, cookStretch_of_isBody isBody,
        Node.ofPart, isNode]
      cases cookTemplate pieces with
      | error fault => rfl
      | ok text =>
          rcases cases_of_map_eq_cooked ih with
            ⟨fault, onReads, onParts⟩ | ⟨nodes, onReads, onParts⟩
          all_goals
            rw [onReads, onParts]
            rfl

/-- A template has the texts of its stretches, each on its own. -/
theorem WrittenTemplate.IsReadable.yields {template : WrittenTemplate}
    (isReadable : template.IsReadable grammar limit) :
    template.Yields grammar limit (cooked (template.stretches.mapM cookStretch)) := by
  intro offset rest
  obtain ⟨head, reads, onTemplate, isBody, areReads⟩ := templateLiteral_run isReadable offset rest
  have isBacktick : (Cursor.after (template.characters ++ rest) offset).token = .backtick := rfl
  refine ⟨_, primary_template isBacktick onTemplate, ?_⟩
  rw [WrittenTemplate.stretches, List.mapM_cons, cookStretch_of_isBody isBody,
    Node.ofExpression, valueOperand, Node.ofExpressionWith]
  cases cookTemplate head with
  | error fault => rfl
  | ok text =>
      rcases cases_of_map_eq_cooked (mapM_ofPart areReads) with
        ⟨fault, onReads, onParts⟩ | ⟨nodes, onReads, onParts⟩
      · rw [onReads, onParts]
        rfl
      · have sameLength : nodes.length = template.parts.length :=
          (areReads.length_eq.trans (forall₂_of_mapM onReads).length_eq).symm
        rw [onReads, onParts, ← sameLength, ← List.length_map Prod.fst]
        rfl

/-- A template has one outcome. -/
theorem WrittenTemplate.Yields.unique {template : WrittenTemplate}
    {outcome other : Except ModuleFault (List Text)}
    (yields : template.Yields grammar limit outcome)
    (others : template.Yields grammar limit other) : outcome = other := by
  obtain ⟨operand, read, isOutcome⟩ := yields 0 []
  obtain ⟨again, readAgain, isOther⟩ := others 0 []
  cases read.symm.trans readAgain
  rw [isOutcome] at isOther
  cases outcome <;> cases other <;> cases isOther <;> rfl

end Reading

end Script

end ComponentInliner
