namespace RouteTemplate

variable {ε α β : Type} (visit : α → Except ε β)

/-- Whether the first of the items that fail does so with the error. -/
def FirstFailure (items : List α) (error : ε) : Prop :=
  ∃ before item after, items = before ++ item :: after ∧
    (∀ earlier ∈ before, ∃ value, visit earlier = .ok value) ∧ visit item = .error error

theorem firstFailure_nil (error : ε) : ¬ FirstFailure visit [] error := by
  intro failure
  obtain ⟨before, item, after, split, _⟩ := failure
  cases before <;> cases split

theorem firstFailure_error (item : α) (items : List α) (found error : ε)
    (failed : visit item = .error found) :
    FirstFailure visit (item :: items) error ↔ found = error := by
  constructor
  · intro failure
    obtain ⟨before, last, after, split, accepted, refused⟩ := failure
    cases before with
    | nil =>
      cases split
      exact Except.error.inj (failed.symm.trans refused)
    | cons first before =>
      cases split
      obtain ⟨value, passed⟩ := accepted item List.mem_cons_self
      cases failed.symm.trans passed
  · intro same
    exact ⟨[], item, items, rfl, fun _ member => absurd member List.not_mem_nil, same ▸ failed⟩

theorem firstFailure_ok (item : α) (items : List α) (value : β) (error : ε)
    (passed : visit item = .ok value) :
    FirstFailure visit (item :: items) error ↔ FirstFailure visit items error := by
  constructor
  · intro failure
    obtain ⟨before, last, after, split, accepted, refused⟩ := failure
    cases before with
    | nil =>
      cases split
      cases passed.symm.trans refused
    | cons first before =>
      cases split
      exact ⟨before, last, after, rfl, (List.forall_mem_cons.mp accepted).2, refused⟩
  · intro failure
    obtain ⟨before, last, after, rfl, accepted, refused⟩ := failure
    exact ⟨item :: before, last, after, rfl,
      List.forall_mem_cons.mpr ⟨⟨value, passed⟩, accepted⟩, refused⟩

theorem mapM_eq_ok (items : List α) (values : List β) :
    items.mapM visit = .ok values ↔ items.map visit = values.map .ok := by
  induction items generalizing values with
  | nil => cases values <;> simp [pure, Except.pure]
  | cons item items ih =>
    rw [List.mapM_cons, List.map_cons]
    cases visited : visit item with
    | error error => cases values <;> simp [bind, Except.bind]
    | ok value =>
      cases values with
      | nil => cases items.mapM visit <;> simp [bind, Except.bind, pure, Except.pure]
      | cons first others =>
        rw [List.map_cons, List.cons.injEq, ← ih others]
        cases items.mapM visit <;> simp [bind, Except.bind, pure, Except.pure]

theorem mapM_eq_error (items : List α) (error : ε) :
    items.mapM visit = .error error ↔ FirstFailure visit items error := by
  induction items with
  | nil => simp [firstFailure_nil, pure, Except.pure]
  | cons item items ih =>
    rw [List.mapM_cons]
    cases visited : visit item with
    | error found =>
      simp [firstFailure_error visit item items found error visited, bind, Except.bind]
    | ok value =>
      rw [firstFailure_ok visit item items value error visited, ← ih]
      cases items.mapM visit <;> simp [bind, Except.bind, pure, Except.pure]

theorem exists_mapM (items : List α) :
    (∃ values, items.mapM visit = .ok values) ↔
      ∀ item ∈ items, ∃ value, visit item = .ok value := by
  simp only [mapM_eq_ok]
  induction items with
  | nil => exact iff_of_true ⟨[], rfl⟩ fun _ member => absurd member List.not_mem_nil
  | cons item items ih =>
    rw [List.forall_mem_cons, ← ih]
    constructor
    · intro accepted
      obtain ⟨values, each⟩ := accepted
      obtain ⟨first, others, rfl, same, rest⟩ := List.map_eq_cons_iff.mp each.symm
      exact ⟨⟨first, same.symm⟩, others, rest.symm⟩
    · intro accepted
      obtain ⟨⟨first, same⟩, others, rest⟩ := accepted
      exact ⟨first :: others, by rw [List.map_cons, List.map_cons, same, rest]⟩

section Ends

variable {δ : Type} (action : Except ε α)

theorem mapError_eq_ok (change : ε → δ) (value : α) :
    action.mapError change = .ok value ↔ action = .ok value := by
  cases action with
  | ok found =>
    show (Except.ok found : Except δ α) = .ok value ↔ _
    rw [Except.ok.injEq, Except.ok.injEq]
  | error error => exact iff_of_false nofun nofun

theorem mapError_eq_error (change : ε → δ) (failure : δ) :
    action.mapError change = .error failure ↔
      ∃ error, action = .error error ∧ change error = failure := by
  cases action with
  | ok value => exact iff_of_false nofun nofun
  | error found =>
    show (Except.error (change found) : Except δ α) = .error failure ↔ _
    simp

theorem bind_eq_ok (next : α → Except ε β) (result : β) :
    action >>= next = .ok result ↔ ∃ value, action = .ok value ∧ next value = .ok result := by
  cases action <;> simp [bind, Except.bind]

theorem bind_eq_error (next : α → Except ε β) (error : ε) :
    action >>= next = .error error ↔
      action = .error error ∨ ∃ value, action = .ok value ∧ next value = .error error := by
  cases action <;> simp [bind, Except.bind]

theorem bind_pure_eq_ok (finish : α → β) (result : β) :
    (do return finish (← action)) = (Except.ok result : Except ε β) ↔
      ∃ value, action = .ok value ∧ result = finish value := by
  cases action <;> simp [bind, Except.bind, pure, Except.pure, eq_comm]

theorem bind_pure_eq_error (finish : α → β) (error : ε) :
    (do return finish (← action)) = (Except.error error : Except ε β) ↔
      action = .error error := by
  cases action <;> simp [bind, Except.bind, pure, Except.pure]

end Ends

end RouteTemplate
