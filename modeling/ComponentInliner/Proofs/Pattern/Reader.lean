import ComponentInliner.Pattern.Parse

/-!
# The reader of patterns makes all its steps

What is read in several steps has a bound on their number. It is never met, because each step that
goes on takes a lexeme: the bound can be forgotten, and one step after the other is read for as long
as they go on.
-/

namespace ComponentInliner.Pattern

variable {State Result Next : Type} {before after : Reading}

namespace Reader

theorem ext {reader other : Reader Result} (same : ∀ before, reader.run before = other.run before) :
    reader = other := by
  cases reader
  cases other
  congr
  exact funext same

theorem exists_of_run_bind {first : Reader Result} {next : Result → Reader Next} {last : Next}
    (returned : (first >>= next).run before = .ok (last, after)) :
    ∃ result middle, first.run before = .ok (result, middle) ∧
      (next result).run middle = .ok (last, after) := by
  simp only [Bind.bind, andThen] at returned
  split at returned
  · cases returned
  · next result middle onFirst => exact ⟨result, middle, onFirst, returned⟩

end Reader

theorem run_failBack_ne {problem : PatternProblem} {back : Nat} {result : Result} :
    (failBack problem back : Reader Result).run before ≠ .ok (result, after) := by
  intro returned
  rcases Reader.exists_of_run_bind returned with ⟨_, _, _, failed⟩
  cases failed

/-- Reading on gives the next lexeme and leaves what comes after it. -/
theorem of_run_advance {lexeme? : Option Lexeme}
    (returned : advance.run before = .ok (lexeme?, after)) :
    before.next? = lexeme? ∧ after.left = before.rest.length := by
  unfold advance at returned
  dsimp only at returned
  cases found : nextLexeme before.size before.rest with
  | error fault =>
      rw [found] at returned
      cases returned
  | ok next =>
      rw [found] at returned
      cases returned
      exact ⟨rfl, length_nextLexeme found⟩

/-- Behind a lexeme less is left than before it. -/
theorem left_advance {lexeme : Lexeme} (returned : advance.run before = .ok (some lexeme, after)) :
    after.left < before.left := by
  rcases of_run_advance returned with ⟨isNext, isLeft⟩
  rw [isLeft, Reading.left, isNext]
  cases lexeme <;> simp [Lexeme.text]

/-- A lexeme that was seen is taken. -/
theorem left_lt_of_advance {Value : Type} {next : Option Lexeme → Reader Value} {value : Value}
    (seen : before.next?.isSome) (returned : (advance >>= next).run before = .ok (value, after)) :
    after.left < before.left := by
  rcases Reader.exists_of_run_bind returned with ⟨lexeme?, middle, onAdvance, onNext⟩
  rw [(of_run_advance onAdvance).1] at seen
  rcases Option.isSome_iff_exists.mp seen with ⟨lexeme, rfl⟩
  exact Nat.lt_of_le_of_lt ((next _).keeps onNext) (left_advance onAdvance)

section Steps

/-- When a step goes on, it has taken a lexeme. -/
def Takes (step : Reader (Step State Result)) : Prop :=
  ∀ {before state after}, step.run before = .ok (.again state, after) → after.left < before.left

/-- A step does not go on. -/
def Ends (step : Reader (Step State Result)) : Prop :=
  ∀ {before state after}, step.run before ≠ .ok (.again state, after)

theorem ends_failBack {problem : PatternProblem} {back : Nat} :
    Ends (failBack problem back : Reader (Step State Result)) :=
  run_failBack_ne

theorem ends_failAt {problem : PatternProblem} {position : Nat} :
    Ends (failAt problem position : Reader (Step State Result)) :=
  nofun

theorem ends_done {result : Result} : Ends (pure (.done result) : Reader (Step State Result)) :=
  nofun

variable {Value : Type} {first : Reader Value} {next : Value → Reader (Step State Result)}

/-- A step takes a lexeme if a later part of it does. -/
theorem Takes.bind (takes : ∀ value, Takes (next value)) : Takes (first >>= next) := by
  intro before state after returned
  rcases Reader.exists_of_run_bind returned with ⟨value, middle, onFirst, onNext⟩
  exact Nat.lt_of_lt_of_le (takes value onNext) (first.keeps onFirst)

/-- A step takes a lexeme if its first part does whenever the step does not end. -/
theorem Takes.of_first
    (taken : ∀ {before value after}, first.run before = .ok (value, after) →
      Ends (next value) ∨ after.left < before.left) : Takes (first >>= next) := by
  intro before state after returned
  rcases Reader.exists_of_run_bind returned with ⟨value, middle, onFirst, onNext⟩
  rcases taken onFirst with ends | less
  · exact absurd onNext ends
  · exact Nat.lt_of_le_of_lt ((next value).keeps onNext) less

/-- A step takes a lexeme if it begins with that and ends where there is none. -/
theorem Takes.advance {next : Option Lexeme → Reader (Step State Result)}
    (ends : Ends (next none)) : Takes (Pattern.advance >>= next) :=
  Takes.of_first fun {_ value _} returned => match value with
    | none => .inl ends
    | some _ => .inr (left_advance returned)

end Steps

section Bound

variable {step : State → Reader (Step State Result)} (takes : ∀ state, Takes (step state))

include takes

/-- More steps than there are code points left make no difference. -/
theorem run_readSteps_eq {count other : Nat} {state : State} (enough : before.left < count)
    (otherEnough : before.left < other) :
    (readSteps step count state).run before = (readSteps step other state).run before := by
  induction count generalizing other before state with
  | zero => exact absurd enough (Nat.not_lt_zero _)
  | succ count ih =>
      obtain _ | other := other
      · exact absurd otherEnough (Nat.not_lt_zero _)
      · change (step state >>= _).run before = (step state >>= _).run before
        simp only [Bind.bind, Reader.andThen]
        split
        · rfl
        · next result middle onStep =>
            cases result with
            | done result => rfl
            | again next =>
                have less := takes state onStep
                exact ih (by omega) (by omega)

/-- What is read in steps is read step by step, without a bound. -/
theorem readOn_eq (state : State) : readOn step state = do
    match ← step state with
    | .again next => readOn step next
    | .done result => return result := by
  refine Reader.ext fun before => ?_
  change (step state >>= _).run before = (step state >>= _).run before
  simp only [Bind.bind, Reader.andThen]
  split
  · rfl
  · next result middle onStep =>
      cases result with
      | done result => rfl
      | again next =>
          exact run_readSteps_eq takes (takes state onStep) (Nat.lt_succ_self _)

end Bound

section Takes

theorem takes_classStep (accepts : CodePoint → Bool) (read : Text) :
    Takes (classStep accepts read) := by
  refine Takes.of_first fun {before value after} returned => ?_
  cases value with
  | none => exact .inl ends_done
  | some point =>
      rcases Reader.exists_of_run_bind returned with ⟨next?, middle, onPeek, onNext⟩
      cases onPeek
      split at onNext
      · next isNext =>
          split at onNext
          · exact .inr (left_lt_of_advance (by rw [isNext]; rfl) onNext)
          · cases onNext
      · cases onNext

theorem takes_nameStep (terminator : Char) (what : String) (read : Text) :
    Takes (nameStep terminator what read) := by
  refine Takes.advance ?_
  dsimp only
  split <;> exact ends_failBack

theorem takes_memberStep (start : Nat) (members : List SetMember) :
    Takes (memberStep start members) :=
  Takes.advance ends_failAt

theorem takes_removedStep (added : List Char) (read : FlagsRead) :
    Takes (removedStep added read) := by
  unfold removedStep
  dsimp only
  split
  · exact Takes.bind fun _ => Takes.advance ends_failBack
  · exact Takes.advance ends_failBack

theorem takes_addedStep (read : FlagsRead) : Takes (addedStep read) := by
  unfold addedStep
  dsimp only
  split
  · refine Takes.bind fun _ => ?_
    split
    · exact Takes.bind fun _ => Takes.advance ends_failBack
    · exact Takes.advance ends_failBack
  · split
    · exact Takes.bind fun _ => Takes.advance ends_failBack
    · exact Takes.advance ends_failBack

theorem takes_commentStep (start : Nat) (nothing : Unit) : Takes (commentStep start nothing) :=
  Takes.advance ends_failAt

theorem takes_lineStep (nothing : Unit) : Takes (lineStep nothing) :=
  Takes.advance ends_done

theorem left_endAlternative {level next : Level} (seen : before.next?.isSome)
    (returned : (endAlternative level).run before = .ok (next, after)) :
    after.left < before.left := by
  unfold endAlternative at returned
  dsimp only at returned
  split at returned
  · split at returned
    · rcases Reader.exists_of_run_bind returned with ⟨_, _, failed, -⟩
      exact absurd failed run_failBack_ne
    · exact left_lt_of_advance seen returned
  · exact left_lt_of_advance seen returned

theorem takes_levelStep (levels : Levels) : Takes (levelStep levels) := by
  intro before state after returned
  unfold levelStep at returned
  rcases Reader.exists_of_run_bind returned with ⟨start, _, onPosition, onRest⟩
  cases onPosition
  rcases Reader.exists_of_run_bind onRest with ⟨next?, _, onPeek, onItem⟩
  cases onPeek
  split at onItem
  · split at onItem
    · cases onItem
    · exact absurd onItem ends_failAt
  · next lexeme isNext =>
      have seen : before.next?.isSome := by rw [isNext]; rfl
      split at onItem
      · rcases Reader.exists_of_run_bind onItem with ⟨level, middle, onLevel, given⟩
        cases given
        exact left_endAlternative seen onLevel
      · split at onItem
        · split at onItem
          · cases onItem
          · rcases Reader.exists_of_run_bind onItem with ⟨level, middle, onLevel, given⟩
            cases given
            exact left_lt_of_advance seen onLevel
        · exact left_lt_of_advance seen onItem

end Takes

end ComponentInliner.Pattern
