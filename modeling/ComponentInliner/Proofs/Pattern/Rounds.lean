import ComponentInliner.Pattern.Basic

/-!
# Rounds of a repetition

A repetition without a bound is given as many rounds as a text has code points left, and one more.
More rounds would make no difference: a round either moves on in the text, or it takes nothing and
is the last one.
-/

namespace ComponentInliner

/-- A place is further on in the same text. -/
def Place.LeadsTo (place later : Place) : Prop :=
  ∃ taken, place.rest = taken ++ later.rest ∧ later.offset = place.offset + taken.length

namespace Place

variable {place middle later : Place}

theorem leadsTo_self (place : Place) : place.LeadsTo place :=
  ⟨[], rfl, rfl⟩

theorem LeadsTo.trans (first : place.LeadsTo middle) (second : middle.LeadsTo later) :
    place.LeadsTo later := by
  rcases first with ⟨taken, split, offset⟩
  rcases second with ⟨more, splitMore, offsetMore⟩
  refine ⟨taken ++ more, by rw [split, splitMore, List.append_assoc], ?_⟩
  rw [offsetMore, offset, List.length_append, Nat.add_assoc]

theorem LeadsTo.length_le (leads : place.LeadsTo later) :
    later.rest.length ≤ place.rest.length := by
  rcases leads with ⟨taken, split, -⟩
  rw [split, List.length_append]
  exact Nat.le_add_left ..

/-- What leads to another offset leaves less of the text. -/
theorem LeadsTo.length_lt (leads : place.LeadsTo later) (moved : place.offset ≠ later.offset) :
    later.rest.length < place.rest.length := by
  rcases leads with ⟨taken, split, offset⟩
  rw [split, List.length_append]
  omega

theorem leadsTo_of_step? {accepts : CodePoint → Bool} (stepped : place.step? accepts = some later) :
    place.LeadsTo later := by
  unfold step? at stepped
  split at stepped
  · cases stepped
  · next point rest split =>
      split at stepped
      · cases stepped
        exact ⟨[point], split, rfl⟩
      · cases stepped

theorem leadsTo_of_behind? {isTakenFor : CodePoint → CodePoint → Bool} {text : Text}
    (found : place.behind? isTakenFor text = some later) : place.LeadsTo later := by
  induction text generalizing place with
  | nil =>
      cases found
      exact leadsTo_self _
  | cons expected text ih =>
      rcases Option.bind_eq_some_iff.mp found with ⟨middle, stepped, rest⟩
      exact (leadsTo_of_step? stepped).trans (ih rest)

end Place

namespace Pattern

variable {body : Onward → Onward} {next other : Onward} {progress : Progress}

/--
What matches a part of a pattern asks what goes on behind it only about places that are further on,
and comes to nothing else than that does.
-/
structure MovesOn (body : Onward → Onward) : Prop where
  asks : ∀ {next other : Onward} {progress : Progress},
    (∀ reached : Progress, progress.place.LeadsTo reached.place → next reached = other reached) →
      body next progress = body other progress
  comes : ∀ {next : Onward} {progress result : Progress}, body next progress = some result →
    ∃ reached : Progress, progress.place.LeadsTo reached.place ∧ next reached = some result

namespace MovesOn

theorem nothing : MovesOn fun next => next where
  asks same := same _ (Place.leadsTo_self _)
  comes found := ⟨_, Place.leadsTo_self _, found⟩

theorem never : MovesOn fun _ _ => none where
  asks _ := rfl
  comes found := nomatch found

/-- One part after the other, which may know where the first one began. -/
theorem comp {first : Onward → Onward} {second : Progress → Onward → Onward}
    (onFirst : MovesOn first) (onSecond : ∀ start, MovesOn (second start)) :
    MovesOn fun next start => first (second start next) start where
  asks same := onFirst.asks fun _ leads => (onSecond _).asks fun _ leadsOn =>
    same _ (leads.trans leadsOn)
  comes found := by
    rcases onFirst.comes found with ⟨middle, leads, foundNext⟩
    rcases (onSecond _).comes foundNext with ⟨reached, leadsOn, foundLast⟩
    exact ⟨reached, leads.trans leadsOn, foundLast⟩

/-- One part, or else another one. -/
theorem orElse {left right : Onward → Onward} (onLeft : MovesOn left) (onRight : MovesOn right) :
    MovesOn fun next progress => (left next progress).orElse fun _ => right next progress where
  asks same := by
    rw [onLeft.asks same, onRight.asks same]
  comes {next progress result} found := by
    cases first : left next progress with
    | none =>
        rw [first] at found
        exact onRight.comes found
    | some other =>
        rw [first] at found
        exact onLeft.comes (first.trans found)

theorem ite {condition : Progress → Prop} [DecidablePred condition] {left right : Onward → Onward}
    (onLeft : MovesOn left) (onRight : MovesOn right) :
    MovesOn fun next progress =>
      if condition progress then left next progress else right next progress where
  asks same := by
    rw [onLeft.asks same, onRight.asks same]
  comes found := by
    split at found
    · exact onLeft.comes found
    · exact onRight.comes found

/-- What goes on from a place that is further on, if something is found. -/
theorem onward {Found : Type} {found? : Progress → Option Found}
    {move : Progress → Found → Progress}
    (leads : ∀ {progress found}, found? progress = some found →
      progress.place.LeadsTo (move progress found).place) :
    MovesOn fun next progress => (found? progress).bind fun found => next (move progress found) where
  asks {_ _ progress} same := by
    cases isFound : found? progress with
    | none => rfl
    | some found => exact same _ (leads isFound)
  comes returned := by
    rcases Option.bind_eq_some_iff.mp returned with ⟨found, isFound, foundNext⟩
    exact ⟨_, leads isFound, foundNext⟩

theorem mark (groupMark : GroupMark) :
    MovesOn fun next progress => next (progress.mark groupMark) where
  asks same := same _ (Place.leadsTo_self _)
  comes {_ progress _} found := ⟨progress.mark groupMark, Place.leadsTo_self _, found⟩

theorem firstWay (moves : MovesOn body) : MovesOn (Pattern.firstWay body) :=
  onward fun found => by
    rcases moves.comes found with ⟨reached, leads, same⟩
    cases same
    exact leads

theorem allRounds (moves : MovesOn body) (count : Nat) :
    MovesOn (Pattern.allRounds body count) := by
  induction count with
  | zero => exact nothing
  | succ count ih => exact moves.comp fun _ => ih

theorem someRounds (moves : MovesOn body) (isLazy : Bool) (count : Nat) (lastStart? : Option Nat) :
    MovesOn (Pattern.someRounds isLazy body count lastStart?) := by
  induction count generalizing lastStart? with
  | zero => exact nothing
  | succ count ih =>
      have round := moves.comp fun start : Progress => ih (some start.place.offset)
      cases isLazy with
      | false => exact nothing.ite (round.orElse nothing)
      | true => exact nothing.ite (nothing.orElse round)

theorem repeated (moves : MovesOn body) (isLazy : Bool) (least : Nat) (most : Option Nat) :
    MovesOn (Pattern.repeated isLazy least most body) :=
  (moves.allRounds least).comp fun _ => moves.someRounds isLazy _ none

theorem looked (isNegated : Bool) (found? : Progress → Option Progress) :
    MovesOn fun next progress => Pattern.looked isNegated (found? progress) next progress := by
  cases isNegated with
  | true => exact never.ite nothing
  | false => exact onward fun _ => Place.leadsTo_self _

end MovesOn

theorem movesOn_run (pattern : Pattern) : MovesOn pattern.run := by
  induction pattern with
  | empty => exact .nothing
  | oneOf mode isNegated members => exact .onward Place.leadsTo_of_step?
  | boundary mode condition => exact MovesOn.nothing.ite .never
  | sequence first second onFirst onSecond => exact onFirst.comp fun _ => onSecond
  | choice left right onLeft onRight => exact onLeft.orElse onRight
  | repetition kind least most body onBody =>
      cases kind with
      | greedy => exact onBody.repeated false least most
      | lazy => exact onBody.repeated true least most
      | possessive => exact (onBody.firstWay.repeated false least most).firstWay
  | atomic body onBody => exact onBody.firstWay
  | capture group body onBody =>
      exact (MovesOn.mark (.first group)).comp fun _ => onBody.comp fun _ => .mark (.last group)
  | reference mode group widths =>
      have moves : MovesOn fun next progress => ((progress.taken? group).bind
          fun taken => progress.place.behind? (isTakenFor mode) taken).bind
            fun place => next (progress.moveTo place) :=
        .onward fun found => by
          rcases Option.bind_eq_some_iff.mp found with ⟨taken, -, isBehind⟩
          exact Place.leadsTo_of_behind? isBehind
      simp only [Option.bind_assoc] at moves
      exact moves
  | conditional group taken untaken onTaken onUntaken => exact onTaken.ite onUntaken
  | lookahead isNegated body => exact .looked isNegated (body.run some)
  | lookbehind isNegated body => exact .looked isNegated _

/-- After a round that took nothing there is no other one. -/
theorem someRounds_stop {isLazy : Bool} {count : Nat} :
    someRounds isLazy body count (some progress.place.offset) next progress = next progress := by
  cases count with
  | zero => rfl
  | succ count => exact if_pos rfl

/-- More rounds than there are code points left make no difference. -/
theorem someRounds_eq (moves : MovesOn body) {isLazy : Bool} {count other : Nat}
    {lastStart? : Option Nat} (enough : progress.place.rest.length < count)
    (otherEnough : progress.place.rest.length < other) :
    someRounds isLazy body count lastStart? next progress =
      someRounds isLazy body other lastStart? next progress := by
  induction count generalizing other lastStart? progress with
  | zero => exact absurd enough (Nat.not_lt_zero _)
  | succ count ih =>
      obtain _ | other := other
      · exact absurd otherEnough (Nat.not_lt_zero _)
      · have rounds : body (someRounds isLazy body count (some progress.place.offset) next) progress =
            body (someRounds isLazy body other (some progress.place.offset) next) progress := by
          refine moves.asks fun reached leads => ?_
          by_cases moved : progress.place.offset = reached.place.offset
          · rw [moved, someRounds_stop, someRounds_stop]
          · have less := leads.length_lt moved
            exact ih (by omega) (by omega)
        rw [someRounds, someRounds, rounds]

/-- A repetition without a bound is one with a bound that the text has no room for. -/
theorem repeated_none (moves : MovesOn body) (isLazy : Bool) (least : Nat) {count : Nat}
    (enough : progress.place.rest.length < count) :
    repeated isLazy least none body next progress =
      repeated isLazy least (some (least + count)) body next progress := by
  refine (moves.allRounds least).asks fun reached leads => someRounds_eq moves ?_ ?_
  · exact Nat.lt_succ_of_le leads.length_le
  · have bound : ((some (least + count)).map (· - least)).getD (progress.place.rest.length + 1) =
        count := Nat.add_sub_cancel_left ..
    rw [bound]
    exact Nat.lt_of_le_of_lt leads.length_le enough

/-- A pattern that may stand any number of times stands as often as the text has room for it. -/
theorem run_repetition_none (pattern : Pattern) (kind : RepetitionKind) (least : Nat) {count : Nat}
    (enough : progress.place.rest.length < count) :
    (repetition kind least none pattern).run next progress =
      (repetition kind least (some (least + count)) pattern).run next progress := by
  have moves := movesOn_run pattern
  cases kind with
  | greedy => exact repeated_none moves false least enough
  | lazy => exact repeated_none moves true least enough
  | possessive =>
      exact congrArg (Option.bind · next) (repeated_none moves.firstWay false least enough)

end Pattern

end ComponentInliner
