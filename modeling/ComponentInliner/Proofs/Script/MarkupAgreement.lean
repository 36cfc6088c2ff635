import ComponentInliner.Proofs.Script.ExpressionAgreement
import ComponentInliner.Script.Markup

/-!
# Markup read with different bounds

Text between tags is read by its characters, so the places of its parts are known by what is left of
the source instead of by a token. Each child, attribute and name takes a character at least, and a
nested element is entered behind its first sign.
-/

namespace ComponentInliner.Script

open ComponentInliner.Script.Parser

variable {here : Cursor → Prop} {left : Nat}

/-! ## Marks -/

theorem looks_characters : Looks characters :=
  Looks.get.bind fun _ => .pure _

theorem looks_atMark (mark : List Char) : Looks (atMark mark) :=
  looks_characters.bind fun _ => .pure _

/-- The characters that are left are known behind a look at them. -/
theorem Parser.Agree.characters {Answer : Type} {takes : Bool}
    {next next' : List Char → Parser Answer}
    (onNext : ∀ input, Parser.Agree (fun cursor => here cursor ∧ cursor.rest = input) takes left
      (next input) (next' input)) :
    Parser.Agree here takes left (Script.characters >>= next) (Script.characters >>= next') :=
  fun cursor isHere isShort => onNext cursor.rest cursor ⟨isHere, rfl⟩ isShort

/-- Characters are passed where some are left. -/
theorem agree_pass_cons {resume : List Char → Nat → Cursor} {first : Char} {rest : List Char}
    {count : Nat} (skips : Cursor.Skips resume) (several : 0 < count) :
    Parser.Agree (fun cursor => here cursor ∧ cursor.rest = first :: rest) true left
      (pass count resume) (pass count resume) := by
  refine agree_pass_lt skips count several ?_
  rintro cursor ⟨-, isRest⟩
  rw [Cursor.left, isRest]
  exact Nat.succ_pos _

theorem accepts_mark {mark : List Char} {resume : List Char → Nat → Cursor}
    (skips : Cursor.Skips resume) (several : 0 < mark.length) :
    Accepts (acceptMark mark resume) := by
  refine .of_look (looks_atMark mark) fun cursor after looked taken => ?_
  cases taken
  have isNext : mark.isPrefixOf cursor.rest = true := (Prod.mk.inj (Option.some.inj looked)).1
  have fits : mark.length ≤ cursor.left := (List.isPrefixOf_iff_prefix.mp isNext).length_le
  have shorter := Cursor.left_past skips cursor mark.length
  change (cursor.past mark.length resume).left < cursor.left
  omega

theorem agree_expectMark {mark : List Char} {resume : List Char → Nat → Cursor}
    (skips : Cursor.Skips resume) (several : 0 < mark.length) :
    Parser.Agree here true left (expectMark mark resume) (expectMark mark resume) :=
  (accepts_mark skips several).expect

/-! ## Names -/

theorem agree_markupIdentifier : Parser.Agree here true left markupIdentifier
    markupIdentifier := by
  refine .token fun next => ?_
  split
  · next word =>
    refine .look looks_characters fun input => .bind_true (agree_modify ?_) fun _ => .pure _
    rintro cursor ⟨-, isWord⟩
    have atWord : cursor.AtSpelled := by
      rw [Cursor.AtSpelled, isWord]
      rfl
    have several := atWord.pos
    have shorter := Cursor.left_past Cursor.skips_opened cursor
      (word.length + hyphenatedLength word (input.drop word.length))
    rw [isWord, Token.length] at several
    rw [Bool.toNat_true]
    omega
  · exact .failure

theorem agree_namespaceRest : Parser.Agree here false left namespaceRest namespaceRest := by
  refine .bind (accepts_symbol ":").agree fun _ => .ite ?_ (.pure _)
  exact agree_markupIdentifier.lax.bind fun _ => .pure _

section Names

variable {bound bound' : Nat} (enough : left ≤ bound) (enough' : left ≤ bound')

include enough enough'

theorem agree_markupPath : Parser.Agree Anywhere false left (markupPath bound)
    (markupPath bound') := by
  refine .rounds (fun _ ih => (accepts_symbol ".").ite ?_ (.pure _)) enough enough'
  exact agree_markupIdentifier.lax.bind fun _ => .look (.require _) fun _ => ih

theorem agree_markupName : Parser.Agree here true (left + 1) (markupName bound)
    (markupName bound') := by
  refine .bind_lt agree_markupIdentifier fun _ => .look (.atSymbol _) fun _ => ?_
  exact .ite (agree_markupPath enough enough') agree_namespaceRest

theorem agree_closingTag : Parser.Agree here true (left + 1) (closingTag bound)
    (closingTag bound') := by
  refine .bind_lt (agree_expectMark Cursor.skips_opened (by decide)) fun _ => ?_
  have last : Parser.Agree Anywhere false left (expectMark ['>'] .bare) (expectMark ['>'] .bare) :=
    (agree_expectMark Cursor.skips_bare (by decide)).lax
  refine .look (looks_atMark _) fun _ => .ite ?_ last
  exact (agree_markupName enough enough').behind.bind fun _ => last

end Names

/-! ## Tags -/

theorem agree_quotedValue (mark : Char) : Parser.Agree here false left (quotedValue mark)
    (quotedValue mark) := by
  refine .look looks_characters fun _ => ?_
  split
  · exact agree_pass Cursor.skips_opened _
  · exact .failure

section Elements

variable {first second : Grammar} (agree : first.Agree left left second)

include agree

theorem agree_markupExpression : Parser.Agree Anywhere false left (markupExpression first)
    (markupExpression second) := by
  refine (accepts_symbol "...").ite_of_lax ?_ (.look (.atSymbol _) fun _ => .ite ?_ (.pure _))
  · exact (agree_value agree true).lax.bind fun _ => .pure _
  · exact (agree_expressionValue agree true).lax.bind fun _ => .pure _

/-- An expression with its closing brace. -/
theorem agree_bracedExpression {rest rest' : Parser Unit} {resume : List Char → Nat → Cursor}
    (skips : Cursor.Skips resume) (onRest : Parser.Agree Anywhere false left rest rest') :
    Parser.Agree Anywhere false left
      (do markupExpression first; expectMark ['}'] resume; rest)
      (do markupExpression second; expectMark ['}'] resume; rest') := by
  refine (agree_markupExpression agree).bind fun _ => ?_
  exact (agree_expectMark skips (by decide)).lax.bind fun _ => onRest

theorem agree_attributeValue : Parser.Agree Anywhere false left (attributeValue first)
    (attributeValue second) := by
  refine .look .token fun next => ?_
  split
  · exact agree_quotedValue _
  · refine (accepts_symbol openBrace).ite_of_lax ?_ ?_
    · refine (agree_markupExpression agree).bind fun _ => ?_
      exact (agree_expectMark Cursor.skips_opened (by decide)).lax
    · refine (agree_expectSymbol "<").lax.bind fun _ => agree.markup.lax.bind fun _ => ?_
      exact agree_pass Cursor.skips_opened 0

theorem agree_attributes : Parser.Agree Anywhere false left (attributes first first.bound)
    (attributes second second.bound) := by
  refine .rounds (fun isShort ih => ?_) agree.le_bound agree.le_bound'
  have agree := agree.below isShort
  unfold attributes
  refine .look .token fun next => ?_
  split
  · refine .bind_lt agree_markupIdentifier fun _ => agree_namespaceRest.bind fun _ => ?_
    refine (accepts_symbol "=").ite_of_lax ?_ ih
    exact (agree_attributeValue agree).bind fun _ => ih
  · refine (accepts_symbol openBrace).ite ?_ (.pure _)
    exact agree_bracedExpression agree Cursor.skips_opened ih

/-! ## Elements -/

theorem agree_children : Parser.Agree Anywhere false left (children first first.bound)
    (children second second.bound) := by
  refine .rounds (fun isShort ih => ?_) agree.le_bound agree.le_bound'
  have agree := agree.below isShort
  unfold children
  refine .characters fun input => ?_
  split
  · exact .bind_lt (agree_pass_cons Cursor.skips_bare (by omega)) fun _ => ih
  · exact (agree_closingTag agree.le_bound agree.le_bound').lax
  · refine .bind_lt (agree_pass_cons Cursor.skips_opened (by omega)) fun _ => ?_
    exact agree.markup.lax.bind fun _ => ih
  · refine .bind_lt (agree_pass_cons Cursor.skips_opened (by omega)) fun _ => ?_
    exact agree_bracedExpression agree Cursor.skips_bare ih
  · split
    · exact .bind_lt (agree_pass_cons Cursor.skips_bare (by omega)) fun _ => ih
    · exact .failure
  · refine .require fun several => .bind_lt (agree_pass_lt Cursor.skips_bare _ ?_ ?_) fun _ => ih
    · exact of_decide_eq_true several
    · rintro cursor ⟨-, isRest⟩
      rw [Cursor.left, isRest]
      exact Nat.lt_of_lt_of_le (of_decide_eq_true several)
        (List.takeWhile_prefix isMarkupText).length_le

theorem agree_markupElement : Parser.Agree here true (left + 1) (markupElement first)
    (markupElement second) := by
  have body : Parser.Agree Anywhere false left
      (do children first first.bound; return true) (do children second second.bound; return true) :=
    (agree_children agree).bind fun _ => .pure _
  refine (accepts_mark Cursor.skips_bare (by decide)).ite body ?_
  refine .bind_lt (agree_markupName agree.le_bound agree.le_bound') fun _ => ?_
  refine (agree_attributes agree).bind fun _ => ?_
  refine (accepts_mark Cursor.skips_bare (by decide)).ite_of_lax (.pure _) ?_
  exact (agree_expectMark Cursor.skips_bare (by decide)).lax.bind fun _ => body

end Elements

end ComponentInliner.Script
