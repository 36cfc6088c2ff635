import ComponentInliner.Script.Parser

/-!
# Parsers that agree

A production is used with grammars of different bounds. Where little enough is left of the source,
it does the same with all of them: `Parser.Agree` says that two parsers do the same at all places
with fewer characters left than a bound, and how many characters they take at least, so that what is
read behind them is held to a smaller bound. Each way to put parsers together has a rule that leads
from parts that agree to a whole that does.
-/

namespace ComponentInliner.Script

/-! ## Tokens with characters -/

/-- Whether a token is known with its characters: a word, a private name or a punctuator. -/
def Token.isSpelled : Token → Bool
  | .word _ | .privateName _ | .punctuator _ => true
  | _ => false

theorem punctuatorAt_length {input : List Char} {symbol : String}
    (found : punctuatorAt input = some symbol) : 0 < symbol.length := by
  unfold punctuatorAt at found
  split at found
  all_goals
    cases found
    try decide
  split <;> decide

theorem takeName_ne_nil {first : Char} {rest name after : List Char}
    (begins : isNameStart first = true ∨ first = '\\')
    (taken : takeName false (first :: rest) = some (name, after)) : name ≠ [] := by
  have noBrace : first ≠ '}' := by
    rintro rfl
    revert begins
    decide
  rintro rfl
  unfold takeName at taken
  split at taken
  all_goals
    simp_all [isNamePart]
  split at taken
  · simp_all
  · split at taken <;> simp_all

theorem Token.length_pos_of_at {input : List Char} (isSpelled : (Token.at input).isSpelled = true) :
    0 < (Token.at input).length := by
  have onName {first : Char} {rest name after : List Char}
      (begins : (isNameStart first || decide (first = '\\')) = true)
      (taken : takeName false (first :: rest) = some (name, after)) :
      0 < (String.ofList name).length := by
    have several := takeName_ne_nil (by simpa using begins) taken
    simpa [List.length_pos_iff] using several
  have onSymbol {rest : List Char} {symbol : String} (found : punctuatorAt rest = some symbol) :
      0 < (Token.punctuator symbol).length := punctuatorAt_length found
  revert isSpelled
  unfold Token.at
  intro isSpelled
  repeat' split
  all_goals
    first
    | exact onSymbol ‹_›
    | exact Nat.succ_pos _
    | exact onName ‹_› ‹_›
    | simp_all [Token.isSpelled]

/-! ## Places in a source -/

namespace Cursor

/-- How many characters are left of the source. -/
def left (cursor : Cursor) : Nat :=
  cursor.rest.length

/-- A token with characters comes next. -/
def AtSpelled (cursor : Cursor) : Prop :=
  cursor.token.isSpelled = true

theorem AtSpelled.pos {cursor : Cursor} (atSpelled : cursor.AtSpelled) :
    0 < cursor.token.length ∧ 0 < cursor.left := by
  unfold AtSpelled at atSpelled
  rcases cursor with ⟨rest, offset, previousEnd, lineBreak, token, rfl | rfl⟩
  · cases atSpelled
  · refine ⟨Token.length_pos_of_at atSpelled, ?_⟩
    cases rest with
    | nil => cases atSpelled
    | cons first rest => exact Nat.succ_pos _

theorem length_skipTrivia (knowsMarkup : Bool) (mode : TriviaMode) (offset : Nat)
    (lineBreak : Bool) (input : List Char) :
    (skipTrivia knowsMarkup mode offset lineBreak input).rest.length ≤ input.length := by
  fun_induction skipTrivia knowsMarkup mode offset lineBreak input with
  | _ => simp_all <;> omega

/-- What is skipped from a place on is left out. -/
def Skips (resume : List Char → Nat → Cursor) : Prop :=
  ∀ rest offset, (resume rest offset).left ≤ rest.length

theorem skips_after : Skips after :=
  fun rest offset => length_skipTrivia false .between offset false rest

theorem skips_opened : Skips opened :=
  fun rest offset => length_skipTrivia true .between offset false rest

theorem skips_bare : Skips bare :=
  fun _ _ => Nat.le_refl _

theorem left_past {resume : List Char → Nat → Cursor} (skips : Skips resume) (cursor : Cursor)
    (count : Nat) : (cursor.past count resume).left ≤ cursor.left - count := by
  refine Nat.le_trans (skips _ _) ?_
  rw [List.length_drop]
  exact Nat.le_refl _

theorem left_reopened (cursor : Cursor) : cursor.reopened.left ≤ cursor.left := by
  unfold reopened
  split
  · exact length_skipTrivia true .between cursor.offset cursor.lineBreak cursor.rest
  · exact Nat.le_refl _

theorem left_next (cursor : Cursor) : cursor.next.left ≤ cursor.left - cursor.token.length := by
  unfold next
  split
  · exact left_past skips_after cursor _
  · exact left_past skips_opened cursor _

end Cursor

/-! ## Agreement -/

namespace Parser

variable {Answer Result : Type}

/-- Two parsers do the same from places `here` with fewer characters left than a bound. They give
nothing back, and take a character at least if so is said. -/
def Agree (here : Cursor → Prop) (takes : Bool) (bound : Nat) (first second : Parser Answer) :
    Prop :=
  ∀ cursor, here cursor → cursor.left < bound → first.run cursor = second.run cursor ∧
    ∀ answer after, first.run cursor = some (answer, after) →
      after.left + takes.toNat ≤ cursor.left

/-- No place is left out. -/
def Anywhere : Cursor → Prop :=
  fun _ => True

/-- A parser looks at the source and reads nothing. -/
def Looks (parser : Parser Answer) : Prop :=
  ∀ cursor answer after, parser.run cursor = some (answer, after) → after = cursor

namespace Agree

variable {here : Cursor → Prop} {takes : Bool} {bound : Nat} {first second : Parser Answer}

theorem mono {small : Nat} (agree : Agree here takes bound first second)
    (isSmall : small ≤ bound) : Agree here takes small first second :=
  fun cursor isHere isShort => agree cursor isHere (Nat.lt_of_lt_of_le isShort isSmall)

theorem lax (agree : Agree here takes bound first second) :
    Agree here false bound first second := by
  intro cursor isHere isShort
  rcases agree cursor isHere isShort with ⟨same, leaves⟩
  exact ⟨same, fun answer after ran =>
    Nat.le_trans (Nat.add_le_add_left (Nat.zero_le _) _) (leaves answer after ran)⟩

/-- What takes a character does all that may be asked of it. -/
theorem of_taking (agree : Agree here true bound first second) :
    Agree here takes bound first second := by
  cases takes with
  | false => exact agree.lax
  | true => exact agree

/-- What agrees before something is read also agrees behind it. -/
theorem behind (agree : Agree here takes (bound + 1) first second) :
    Agree here false bound first second :=
  (agree.mono (Nat.le_succ _)).lax

theorem anywhere (agree : Agree Anywhere takes bound first second) :
    Agree here takes bound first second :=
  fun cursor _ isShort => agree cursor trivial isShort

/-- There is no place with fewer than no characters. -/
theorem zero : Agree here takes 0 first second :=
  fun _ _ isShort => nomatch isShort

theorem pure (answer : Answer) :
    Agree here false bound (Pure.pure answer : Parser Answer) (Pure.pure answer) := by
  refine fun cursor _ _ => ⟨rfl, ?_⟩
  rintro _ _ ⟨⟩
  exact Nat.le_refl _

theorem failure : Agree here takes bound (failure : Parser Answer) failure :=
  fun _ _ _ => ⟨rfl, nofun⟩

theorem ite {condition : Prop} [Decidable condition] {yes no yes' no' : Parser Answer}
    (onYes : Agree here takes bound yes yes') (onNo : Agree here takes bound no no') :
    Agree here takes bound (if condition then yes else no) (if condition then yes' else no') := by
  split
  · exact onYes
  · exact onNo

variable {next next' : Answer → Parser Result}

/-- The characters that are taken by the first part are not left for the second. -/
theorem bind_add {takesFirst : Bool}
    (agree : Agree here takesFirst (bound + takesFirst.toNat) first second)
    (onNext : ∀ answer, Agree Anywhere takes bound (next answer) (next' answer)) :
    Agree here (takesFirst || takes) (bound + takesFirst.toNat) (first >>= next)
      (second >>= next') := by
  intro cursor isHere isShort
  rcases agree cursor isHere isShort with ⟨same, leaves⟩
  rw [StateT.run_bind, StateT.run_bind, ← same]
  cases ran : first.run cursor with
  | none => exact ⟨rfl, nofun⟩
  | some read =>
      rcases read with ⟨answer, between⟩
      have shorter := leaves answer between ran
      rcases onNext answer between trivial (by omega) with ⟨sameNext, leavesNext⟩
      refine ⟨sameNext, fun result after ranNext => ?_⟩
      have shortest := leavesNext result after ranNext
      cases takesFirst with
      | false => exact Nat.le_trans shortest shorter
      | true =>
          simp only [Bool.true_or, Bool.toNat_true] at shorter ⊢
          omega

theorem bind (agree : Agree here false bound first second)
    (onNext : ∀ answer, Agree Anywhere takes bound (next answer) (next' answer)) :
    Agree here takes bound (first >>= next) (second >>= next') := by
  simpa using agree.bind_add onNext

/-- Once a character is taken, the rest is held to a smaller bound. -/
theorem bind_lt (agree : Agree here true (bound + 1) first second)
    (onNext : ∀ answer, Agree Anywhere false bound (next answer) (next' answer)) :
    Agree here takes (bound + 1) (first >>= next) (second >>= next') :=
  (agree.bind_add onNext).of_taking

theorem bind_true (agree : Agree here true bound first second)
    (onNext : ∀ answer, Agree Anywhere false bound (next answer) (next' answer)) :
    Agree here true bound (first >>= next) (second >>= next') := by
  cases bound with
  | zero => exact .zero
  | succ bound => exact .bind_lt agree fun answer => (onNext answer).mono (Nat.le_succ _)

theorem map (agree : Agree here takes bound first second) (change : Answer → Result) :
    Agree here takes bound (change <$> first) (change <$> second) := by
  intro cursor isHere isShort
  rcases agree cursor isHere isShort with ⟨same, leaves⟩
  rw [StateT.run_map, StateT.run_map, ← same]
  refine ⟨rfl, fun result after ran => ?_⟩
  rcases Option.map_eq_some_iff.mp ran with ⟨⟨answer, place⟩, ranFirst, ⟨⟩⟩
  exact leaves answer place ranFirst

/-- Each round of a loop reads a character before the next one, so a bound that is not smaller than
what is left does not cut the loop short. -/
theorem loop {State : Type} {limit : Nat} {loop loop' : Nat → State → Parser Answer}
    (round : ∀ {left bound bound'}, left < limit →
      (∀ state, Agree Anywhere false left (loop bound state) (loop' bound' state)) →
        ∀ state, Agree Anywhere false (left + 1) (loop (bound + 1) state)
          (loop' (bound' + 1) state))
    {bound bound' : Nat} (enough : limit ≤ bound) (enough' : limit ≤ bound') (state : State) :
    Agree Anywhere false limit (loop bound state) (loop' bound' state) := by
  have reaches (left : Nat) : ∀ {bound bound' : Nat}, left ≤ limit → left ≤ bound →
      left ≤ bound' → ∀ state, Agree Anywhere false left (loop bound state)
        (loop' bound' state) := by
    induction left with
    | zero => exact fun _ _ _ _ => .zero
    | succ left ih =>
        intro bound bound' isShort enough enough' state
        obtain ⟨bound, rfl⟩ := Nat.exists_eq_add_one_of_ne_zero (Nat.ne_zero_of_lt enough)
        obtain ⟨bound', rfl⟩ := Nat.exists_eq_add_one_of_ne_zero (Nat.ne_zero_of_lt enough')
        exact round isShort (ih (Nat.le_of_succ_le isShort) (Nat.le_of_succ_le_succ enough)
          (Nat.le_of_succ_le_succ enough')) state
  exact reaches limit (Nat.le_refl _) enough enough' state

/-- A loop without a state. -/
theorem rounds {limit : Nat} {rounds rounds' : Nat → Parser Answer}
    (round : ∀ {left bound bound'}, left < limit →
      Agree Anywhere false left (rounds bound) (rounds' bound') →
        Agree Anywhere false (left + 1) (rounds (bound + 1)) (rounds' (bound' + 1)))
    {bound bound' : Nat} (enough : limit ≤ bound) (enough' : limit ≤ bound') :
    Agree Anywhere false limit (rounds bound) (rounds' bound') :=
  @loop _ Unit limit (fun bound _ => rounds bound) (fun bound _ => rounds' bound)
    (fun isShort ih _ => round isShort (ih ())) _ _ enough enough' ()

/-- A look at the source changes nothing. -/
theorem look {parser : Parser Answer} (looks : Looks parser)
    (onNext : ∀ answer, Agree here takes bound (next answer) (next' answer)) :
    Agree here takes bound (parser >>= next) (parser >>= next') := by
  intro cursor isHere isShort
  rw [StateT.run_bind, StateT.run_bind]
  cases ran : parser.run cursor with
  | none => exact ⟨rfl, nofun⟩
  | some read =>
      rcases read with ⟨answer, after⟩
      cases looks cursor answer after ran
      exact onNext answer cursor isHere isShort

/-- What is required holds behind it. -/
theorem require {condition : Bool} {next next' : Unit → Parser Result}
    (onNext : condition = true → Agree here takes bound (next ()) (next' ())) :
    Agree here takes bound (Parser.require condition >>= next)
      (Parser.require condition >>= next') := by
  cases condition with
  | false => exact fun _ _ _ => ⟨rfl, nofun⟩
  | true => exact onNext rfl

/-- The next token is known behind a look at it. -/
theorem token {next next' : Token → Parser Result}
    (onNext : ∀ token, Agree (fun cursor => here cursor ∧ cursor.token = token) takes bound
      (next token) (next' token)) :
    Agree here takes bound (Parser.token >>= next) (Parser.token >>= next') :=
  fun cursor isHere isShort => onNext cursor.token cursor ⟨isHere, rfl⟩ isShort

/-- The place is known behind a look at it. -/
theorem get {next next' : Cursor → Parser Result}
    (onNext : ∀ place, Agree (fun cursor => here cursor ∧ cursor = place) takes bound
      (next place) (next' place)) :
    Agree here takes bound (MonadState.get >>= next) (MonadState.get >>= next') :=
  fun cursor isHere isShort => onNext cursor cursor ⟨isHere, rfl⟩ isShort

theorem set {place : Cursor}
    (leaves : ∀ cursor, here cursor → place.left + takes.toNat ≤ cursor.left) :
    Agree here takes bound (MonadStateOf.set place : Parser PUnit) (MonadStateOf.set place) := by
  refine fun cursor isHere _ => ⟨rfl, ?_⟩
  rintro _ _ ⟨⟩
  exact leaves cursor isHere

/-- A parser that gives nothing back agrees with itself. -/
theorem self {parser : Parser Answer}
    (leaves : ∀ cursor answer after, here cursor → parser.run cursor = some (answer, after) →
      after.left + takes.toNat ≤ cursor.left) : Agree here takes bound parser parser :=
  fun cursor isHere _ => ⟨rfl, fun answer after ran => leaves cursor answer after isHere ran⟩

end Agree

/-! ## Looks -/

namespace Looks

variable {parser : Parser Answer} {next : Answer → Parser Result}

theorem pure (answer : Answer) : Looks (Pure.pure answer : Parser Answer) := by
  rintro cursor _ _ ⟨⟩
  rfl

theorem failure : Looks (failure : Parser Answer) :=
  nofun

theorem bind (looks : Looks parser) (onNext : ∀ answer, Looks (next answer)) :
    Looks (parser >>= next) := by
  intro cursor result after ran
  rw [StateT.run_bind] at ran
  cases ranFirst : parser.run cursor with
  | none =>
      rw [ranFirst] at ran
      cases ran
  | some read =>
      rcases read with ⟨answer, between⟩
      rw [ranFirst] at ran
      cases looks cursor answer between ranFirst
      exact onNext answer _ result after ran

theorem ite {condition : Prop} [Decidable condition] {yes no : Parser Answer} (onYes : Looks yes)
    (onNo : Looks no) : Looks (if condition then yes else no) := by
  split
  · exact onYes
  · exact onNo

theorem get : Looks (get : Parser Cursor) := by
  rintro cursor _ _ ⟨⟩
  rfl

theorem token : Looks token :=
  get.bind fun _ => pure _

theorem position : Looks position :=
  get.bind fun _ => pure _

theorem spanFrom (start : Nat) : Looks (spanFrom start) :=
  get.bind fun _ => pure _

theorem afterLineBreak : Looks afterLineBreak :=
  get.bind fun _ => pure _

theorem require (condition : Bool) : Looks (require condition) :=
  ite (pure _) failure

theorem atSymbol (symbol : String) : Looks (atSymbol symbol) :=
  token.bind fun _ => pure _

theorem atWord (word : String) : Looks (atWord word) :=
  token.bind fun _ => pure _

/-- Whatever is read for a glimpse, the parser goes back. -/
theorem glimpse (condition : Parser Bool) : Looks (glimpse condition) := by
  intro cursor answer after ran
  simp only [Parser.glimpse, StateT.run_bind, StateT.run_get, StateT.run_set, StateT.run_pure,
    Option.bind_eq_bind, Option.bind_eq_some_iff, Option.pure_def, Option.some.injEq] at ran
  rcases ran with ⟨_, ⟨⟩, _, -, _, ⟨⟩, ⟨⟩⟩
  rfl

theorem ahead (condition : Parser Bool) : Looks (ahead condition) :=
  glimpse _

theorem agree {here : Cursor → Prop} {bound : Nat} (looks : Looks parser) :
    Agree here false bound parser parser := by
  refine .self fun cursor answer after _ ran => ?_
  cases looks cursor answer after ran
  exact Nat.le_refl _

end Looks

/-- Conditions that agree are glimpsed alike. -/
theorem Agree.glimpse {here : Cursor → Prop} {takes takesFirst : Bool} {bound : Nat}
    {first second : Parser Bool} {next next' : Bool → Parser Result}
    (agree : Agree here takesFirst bound first second)
    (onNext : ∀ answer, Agree here takes bound (next answer) (next' answer)) :
    Agree here takes bound (Parser.glimpse first >>= next) (Parser.glimpse second >>= next') := by
  intro cursor isHere isShort
  have same : (Parser.glimpse first).run cursor = (Parser.glimpse second).run cursor := by
    simp only [Parser.glimpse, StateT.run_bind, StateT.run_get, Option.bind_eq_bind,
      Option.pure_def, Option.bind_some, (agree cursor isHere isShort).1]
  rcases Agree.look (Looks.glimpse first) onNext cursor isHere isShort with ⟨sameNext, leaves⟩
  refine ⟨sameNext.trans ?_, leaves⟩
  rw [StateT.run_bind, StateT.run_bind, same]

/-! ## Reading on -/

section Reading

variable {here : Cursor → Prop} {takes : Bool} {bound : Nat}

theorem agree_modify {change : Cursor → Cursor}
    (leaves : ∀ cursor, here cursor → (change cursor).left + takes.toNat ≤ cursor.left) :
    Agree here takes bound (modify change : Parser Unit) (modify change) := by
  refine .self ?_
  rintro cursor _ _ isHere ⟨⟩
  exact leaves cursor isHere

theorem agree_advance : Agree here false bound advance advance :=
  agree_modify fun cursor _ => Nat.le_trans cursor.left_next (Nat.sub_le _ _)

/-- A token with characters is left behind. -/
theorem agree_advance_lt {token : Token} (isSpelled : token.isSpelled = true) :
    Agree (fun cursor => here cursor ∧ cursor.token = token) true bound advance advance := by
  refine agree_modify ?_
  rintro cursor ⟨-, rfl⟩
  have several := Cursor.AtSpelled.pos isSpelled
  have next := cursor.left_next
  rw [Bool.toNat_true]
  omega

theorem agree_advanceName_lt {token : Token} (isSpelled : token.isSpelled = true) :
    Agree (fun cursor => here cursor ∧ cursor.token = token) true bound advanceName
      advanceName := by
  refine agree_modify ?_
  rintro cursor ⟨-, rfl⟩
  have several := Cursor.AtSpelled.pos isSpelled
  have next := Cursor.left_past Cursor.skips_after cursor cursor.token.length
  rw [Bool.toNat_true]
  omega

variable {resume : List Char → Nat → Cursor} (skips : Cursor.Skips resume) (count : Nat)

include skips

theorem agree_pass : Agree here false bound (pass count resume) (pass count resume) :=
  agree_modify fun cursor _ => Nat.le_trans (Cursor.left_past skips cursor count) (Nat.sub_le _ _)

theorem agree_pass_lt (several : 0 < count) (isHere : ∀ cursor, here cursor → 0 < cursor.left) :
    Agree here true bound (pass count resume) (pass count resume) := by
  refine agree_modify fun cursor at_ => ?_
  have next := Cursor.left_past skips cursor count
  have some := isHere cursor at_
  rw [Bool.toNat_true]
  omega

omit skips

theorem agree_reopen : Agree here false bound reopen reopen :=
  agree_modify fun cursor _ => cursor.left_reopened

theorem agree_reopenLine : Agree here false bound reopenLine reopenLine := by
  refine agree_modify fun cursor _ => ?_
  split
  · exact cursor.left_reopened
  · exact Nat.le_refl _

end Reading

/-! ## Accepting what comes next -/

/-- A parser reads something if it answers so, and nothing otherwise. -/
def Accepts (parser : Parser Bool) : Prop :=
  ∀ cursor answer after, parser.run cursor = some (answer, after) →
    (answer = true → after.left < cursor.left) ∧ (answer = false → after = cursor)

namespace Accepts

variable {here : Cursor → Prop} {takes : Bool} {bound : Nat} {parser : Parser Bool}

theorem agree (accepts : Accepts parser) : Agree here false bound parser parser := by
  refine .self fun cursor answer after _ ran => ?_
  rcases accepts cursor answer after ran with ⟨onYes, onNo⟩
  cases answer with
  | false =>
      cases onNo rfl
      exact Nat.le_refl _
  | true => exact Nat.le_of_lt (onYes rfl)

/-- Behind what is accepted, the rest is held to a smaller bound. -/
theorem ite {yes no yes' no' : Parser Answer} (accepts : Accepts parser)
    (onYes : Agree Anywhere false bound yes yes') (onNo : Agree here takes (bound + 1) no no') :
    Agree here takes (bound + 1) (parser >>= fun answer => if answer = true then yes else no)
      (parser >>= fun answer => if answer = true then yes' else no') := by
  intro cursor isHere isShort
  rw [StateT.run_bind, StateT.run_bind]
  cases ran : parser.run cursor with
  | none => exact ⟨rfl, nofun⟩
  | some read =>
      rcases read with ⟨answer, between⟩
      rcases accepts cursor answer between ran with ⟨accepted, refused⟩
      cases answer with
      | false =>
          cases refused rfl
          exact onNo cursor isHere isShort
      | true =>
          have shorter := accepted rfl
          rcases onYes between trivial (by omega) with ⟨same, leaves⟩
          refine ⟨same, fun result after ranYes => ?_⟩
          have shortest := leaves result after ranYes
          cases takes <;> simp only [Bool.toNat_true, Bool.toNat_false] at shortest ⊢ <;> omega

theorem ite_of_lax {yes no yes' no' : Parser Answer} (accepts : Accepts parser)
    (onYes : Agree Anywhere false bound yes yes') (onNo : Agree here takes bound no no') :
    Agree here takes bound (parser >>= fun answer => if answer = true then yes else no)
      (parser >>= fun answer => if answer = true then yes' else no') := by
  cases bound with
  | zero => exact .zero
  | succ bound => exact accepts.ite onYes.behind onNo

/-- What is required to come next is taken. -/
theorem expect (accepts : Accepts parser) :
    Agree here true bound (parser >>= fun answer => require answer)
      (parser >>= fun answer => require answer) := by
  refine .self fun cursor _ _ _ ran => ?_
  rw [StateT.run_bind] at ran
  cases ranFirst : parser.run cursor with
  | none =>
      rw [ranFirst] at ran
      cases ran
  | some read =>
      rcases read with ⟨answer, between⟩
      rw [ranFirst] at ran
      cases answer with
      | false => cases ran
      | true =>
          cases ran
          exact (accepts cursor true between ranFirst).1 rfl

end Accepts

/-- What comes next is looked at before it is taken. -/
theorem Accepts.of_look {look : Parser Bool} {take : Parser Unit} (looks : Looks look)
    (shorter : ∀ cursor after, look.run cursor = some (true, cursor) →
      take.run cursor = some ((), after) → after.left < cursor.left) :
    Accepts (do
      if ← look then
        take
        return true
      return false) := by
  intro cursor answer after ran
  rw [StateT.run_bind] at ran
  cases looked : look.run cursor with
  | none =>
      rw [looked] at ran
      cases ran
  | some read =>
      rcases read with ⟨isNext, place⟩
      cases looks cursor isNext place looked
      rw [looked] at ran
      cases isNext with
      | false =>
          cases ran
          exact ⟨nofun, fun _ => rfl⟩
      | true =>
          change (take >>= fun _ => pure true).run cursor = some (answer, after) at ran
          rw [StateT.run_bind] at ran
          cases taken : take.run cursor with
          | none =>
              rw [taken] at ran
              cases ran
          | some read =>
              rw [taken] at ran
              cases ran
              exact ⟨fun _ => shorter cursor _ looked taken, nofun⟩

/-- A token with characters is read if it comes next. -/
theorem accepts_token {expected : Token} (isSpelled : expected.isSpelled = true) :
    Accepts (do
      if ← (do return (← token) == expected) then
        advance
        return true
      return false) := by
  refine .of_look (Looks.token.bind fun _ => .pure _) fun cursor after looked taken => ?_
  cases taken
  have isNext : (cursor.token == expected) = true := (Prod.mk.inj (Option.some.inj looked)).1
  have several : cursor.AtSpelled := by rwa [Cursor.AtSpelled, eq_of_beq isNext]
  have next := cursor.left_next
  have positive := several.pos
  omega

theorem accepts_symbol (symbol : String) : Accepts (acceptSymbol symbol) :=
  accepts_token rfl

theorem accepts_word (word : String) : Accepts (acceptWord word) :=
  accepts_token rfl

theorem agree_expectSymbol {here : Cursor → Prop} {bound : Nat} (symbol : String) :
    Agree here true bound (expectSymbol symbol) (expectSymbol symbol) :=
  (accepts_symbol symbol).expect

theorem agree_expectWord {here : Cursor → Prop} {bound : Nat} (word : String) :
    Agree here true bound (expectWord word) (expectWord word) :=
  (accepts_word word).expect

end Parser

end ComponentInliner.Script
