import Mathlib.Data.List.Basic

/-!
# Outcomes that may be faults

What is known of the parts of a computation that has come to a result, or has failed.
-/

namespace ComponentInliner

theorem bind_eq_error {Fault Result Next : Type} {action : Except Fault Result}
    {next : Result → Except Fault Next} {fault : Fault} (failed : action >>= next = .error fault) :
    action = .error fault ∨ ∃ result, action = .ok result ∧ next result = .error fault := by
  cases action with
  | error first =>
      cases failed
      exact .inl rfl
  | ok result => exact .inr ⟨result, rfl, failed⟩

theorem exists_of_bind_ok {Fault Result Next : Type} {action : Except Fault Result}
    {next : Result → Except Fault Next} {last : Next} (returned : action >>= next = .ok last) :
    ∃ result, action = .ok result ∧ next result = .ok last := by
  cases action with
  | error fault => cases returned
  | ok result => exact ⟨result, rfl, returned⟩

/-- A computation comes to a result exactly if its first part does and what follows does. -/
theorem exists_bind_ok_iff {Fault Result Next : Type} {action : Except Fault Result}
    {next : Result → Except Fault Next} : (∃ last, action >>= next = .ok last) ↔
      ∃ result, action = .ok result ∧ ∃ last, next result = .ok last := by
  constructor
  · rintro ⟨last, returned⟩
    rcases exists_of_bind_ok returned with ⟨result, onAction, onNext⟩
    exact ⟨result, onAction, last, onNext⟩
  · rintro ⟨result, onAction, last, onNext⟩
    exact ⟨last, by rw [onAction]; exact onNext⟩

theorem mapM_cons_eq_error_iff {Fault Source Result : Type} {action : Source → Except Fault Result}
    {source : Source} {rest : List Source} {fault : Fault} :
    (source :: rest).mapM action = .error fault ↔ action source = .error fault ∨
      ∃ result, action source = .ok result ∧ rest.mapM action = .error fault := by
  rw [List.mapM_cons]
  constructor
  · intro failed
    rcases bind_eq_error failed with onFirst | ⟨result, returned, later⟩
    · exact .inl onFirst
    · rcases bind_eq_error later with onRest | ⟨results, -, impossible⟩
      · exact .inr ⟨result, returned, onRest⟩
      · cases impossible
  · rintro (onFirst | ⟨result, returned, onRest⟩)
    · rw [onFirst]
      rfl
    · rw [returned, onRest]
      rfl

/-- A list fails with the fault of the first of its items that fails. -/
theorem mapM_eq_error_iff {Fault Source Result : Type} {action : Source → Except Fault Result}
    {sources : List Source} {fault : Fault} : sources.mapM action = .error fault ↔
      ∃ before source after, sources = before ++ source :: after ∧
        (∀ other ∈ before, ∃ result, action other = .ok result) ∧ action source = .error fault := by
  induction sources with
  | nil => simp [pure, Except.pure]
  | cons first rest ih =>
      rw [mapM_cons_eq_error_iff]
      constructor
      · rintro (onFirst | ⟨result, returned, onRest⟩)
        · exact ⟨[], first, rest, rfl, nofun, onFirst⟩
        · rcases ih.mp onRest with ⟨before, source, after, rfl, succeed, failed⟩
          refine ⟨first :: before, source, after, rfl, ?_, failed⟩
          exact List.forall_mem_cons.mpr ⟨⟨result, returned⟩, succeed⟩
      · rintro ⟨before, source, after, split, succeed, failed⟩
        cases before with
        | nil =>
            cases split
            exact .inl failed
        | cons earlier before =>
            cases split
            rcases List.forall_mem_cons.mp succeed with ⟨⟨result, returned⟩, succeedLater⟩
            exact .inr ⟨result, returned, ih.mpr ⟨before, source, after, rfl, succeedLater, failed⟩⟩

theorem exists_of_mapM_error {Fault Source Result : Type} {action : Source → Except Fault Result}
    {sources : List Source} {fault : Fault} (failed : sources.mapM action = .error fault) :
    ∃ source ∈ sources, action source = .error fault := by
  rcases mapM_eq_error_iff.mp failed with ⟨before, source, after, rfl, -, onSource⟩
  exact ⟨source, List.mem_append_right _ (List.mem_cons_self ..), onSource⟩

/-- A list comes to the results of its items. -/
theorem forall₂_of_mapM {Fault Source Result : Type} {action : Source → Except Fault Result}
    {sources : List Source} {results : List Result}
    (returned : sources.mapM action = .ok results) :
    List.Forall₂ (fun source result => action source = .ok result) sources results := by
  induction sources generalizing results with
  | nil =>
      cases returned
      exact .nil
  | cons source rest ih =>
      rw [List.mapM_cons] at returned
      obtain ⟨result, onSource, later⟩ := exists_of_bind_ok returned
      obtain ⟨others, onRest, whole⟩ := exists_of_bind_ok later
      cases whole
      exact .cons onSource (ih onRest)

theorem exists_ok_of_mapM {Fault Source Result : Type} {action : Source → Except Fault Result}
    {sources : List Source} {results : List Result}
    (returned : sources.mapM action = .ok results) :
    ∀ source ∈ sources, ∃ result, action source = .ok result := by
  have onItems := forall₂_of_mapM returned
  clear returned
  induction onItems with
  | nil => nofun
  | cons onSource _ ih => exact List.forall_mem_cons.mpr ⟨⟨_, onSource⟩, ih⟩

/--
Two ways to treat the items of a list that fail on the same items, with the same faults, agree on
the list exactly if they fail on it or agree on each item.
-/
theorem mapM_eq_mapM_iff {Fault Source Result : Type} {first second : Source → Except Fault Result}
    {sources : List Source} (failAlike : ∀ source ∈ sources, ∀ fault,
      second source = .error fault ↔ first source = .error fault) :
    sources.mapM second = sources.mapM first ↔
      (∃ fault, sources.mapM first = .error fault) ∨
        ∀ source ∈ sources, second source = first source := by
  induction sources with
  | nil => exact ⟨fun _ => .inr nofun, fun _ => rfl⟩
  | cons source rest ih =>
      obtain ⟨onSource, onRest⟩ := List.forall_mem_cons.mp failAlike
      have ih := ih onRest
      rw [List.mapM_cons, List.mapM_cons, List.forall_mem_cons]
      cases ofFirst : first source with
      | error fault =>
          rw [(onSource fault).mpr ofFirst]
          exact ⟨fun _ => .inl ⟨fault, rfl⟩, fun _ => rfl⟩
      | ok result =>
          cases ofSecond : second source with
          | error fault => cases ofFirst.symm.trans ((onSource fault).mp ofSecond)
          | ok other =>
              cases restFirst : rest.mapM first with
              | error fault =>
                  rw [ih.mpr (.inl ⟨fault, restFirst⟩), restFirst]
                  exact ⟨fun _ => .inl ⟨fault, rfl⟩, fun _ => rfl⟩
              | ok results =>
                  rw [restFirst] at ih
                  have noFault : ¬∃ fault, (.ok results : Except Fault (List Result)) =
                      .error fault := nofun
                  rw [or_iff_right noFault] at ih
                  rw [← ih, or_iff_right nofun]
                  cases rest.mapM second with
                  | error fault => exact ⟨nofun, nofun⟩
                  | ok others =>
                      simp [bind, Except.bind, pure, Except.pure]

theorem exists_of_foldlM_error {Fault Source Result : Type}
    {action : Result → Source → Except Fault Result} {sources : List Source} {initial : Result}
    {fault : Fault} (failed : sources.foldlM action initial = .error fault) :
    ∃ source ∈ sources, ∃ before, action before source = .error fault := by
  induction sources generalizing initial with
  | nil => cases failed
  | cons source rest ih =>
      rw [List.foldlM_cons] at failed
      rcases bind_eq_error failed with onFirst | ⟨result, -, later⟩
      · exact ⟨source, List.mem_cons_self .., initial, onFirst⟩
      · rcases ih later with ⟨other, mem, onOther⟩
        exact ⟨other, List.mem_cons_of_mem _ mem, onOther⟩

end ComponentInliner
