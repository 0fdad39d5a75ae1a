import RouteTemplate.Proofs.Template.Nesting

namespace RouteTemplate.Pattern

/-- Whether a group stands at the place and another one above it. -/
def Enclosed (pattern : Pattern) (place : Place) : Prop :=
  (∃ child, pattern.node? place = some (group child)) ∧
    ∃ above child, above <+: place ∧ above ≠ place ∧ pattern.node? above = some (group child)

theorem visited_prefix (pattern : Pattern) (above place : Place) (prior : above <+: place)
    (visited : pattern.Visited place) : pattern.Visited above := by
  induction above generalizing pattern place with
  | nil => trivial
  | cons index above ih =>
    cases place with
    | nil => exact absurd (List.prefix_nil.mp prior) (List.cons_ne_nil _ _)
    | cons other place =>
      obtain ⟨rfl, lower⟩ := List.cons_prefix_cons.mp prior
      obtain ⟨clear, child, found, below⟩ := visited
      constructor
      · intro star member entered
        exact clear star member (entered.trans prior)
      · exact ⟨child, found, ih child place lower below⟩

theorem nested_iff_enclosed (pattern : Pattern) (place : Place) :
    pattern.Nested place ↔ pattern.Enclosed place ∧ pattern.Visited place := by
  constructor
  · intro nested
    obtain ⟨⟨visited, here⟩, above, prior, other, _, child, there⟩ := nested
    exact ⟨⟨here, above, child, prior, other, there⟩, visited⟩
  · intro both
    obtain ⟨⟨here, above, child, prior, other, there⟩, visited⟩ := both
    have visitedAbove := visited_prefix pattern above place prior visited
    exact ⟨⟨visited, here⟩, above, prior, other, visitedAbove, child, there⟩

theorem node?_consumed (pattern : Pattern) (place : Place)
    (consumed : pattern.consumed? = some place) :
    ∃ child, pattern.node? place = some (star child) := by
  unfold consumed? at consumed
  split at consumed <;> simp only [Option.some.injEq, reduceCtorEq] at consumed
  all_goals
    subst consumed
    exact ⟨_, rfl⟩

theorem visited_or_below_star (pattern node : Pattern) (place : Place)
    (here : pattern.node? place = some node) :
    pattern.Visited place ∨
      ∃ above child, above <+: place ∧ pattern.node? above = some (star child) := by
  induction place generalizing pattern with
  | nil => exact Or.inl trivial
  | cons index place ih =>
    have entered : (∀ star ∈ pattern.consumed?, ¬ star <+: index :: place) ∨
        ∃ star, pattern.consumed? = some star ∧ star <+: index :: place := by
      cases pattern.consumed? with
      | none => simp
      | some star =>
        by_cases prior : star <+: index :: place
        · exact Or.inr ⟨star, rfl, prior⟩
        · simp [prior]
    rcases entered with clear | ⟨above, consumed, prior⟩
    · simp only [node?, Option.bind_eq_some_iff] at here
      obtain ⟨part, found, below⟩ := here
      rcases ih part below with visited | ⟨above, child, prior, starred⟩
      · exact Or.inl ⟨clear, part, found, visited⟩
      · refine Or.inr ⟨index :: above, child, List.cons_prefix_cons.mpr ⟨rfl, prior⟩, ?_⟩
        rw [node?, found]
        exact starred
    · obtain ⟨child, starred⟩ := node?_consumed pattern above consumed
      exact Or.inr ⟨above, child, prior, starred⟩

theorem compilePath_nestedGroups_iff (ignored : Names) (pattern : Pattern) :
    (∃ inner, pattern.compilePath ignored = .error (.nestedGroups inner)) ↔
      ∃ place, pattern.Enclosed place ∧ pattern.Visited place := by
  simp only [← nested_iff_enclosed]
  rw [← compilePath_fails_iff ignored pattern]
  constructor
  · intro refused
    obtain ⟨inner, failed⟩ := refused
    exact ⟨.nestedGroups inner, failed⟩
  · intro refused
    obtain ⟨⟨inner⟩, failed⟩ := refused
    exact ⟨inner, failed⟩

/-- A pattern with a group in a group is refused exactly if one of the groups that stand in others
is visited, and so in particular if one of them has no star above it. -/
theorem compilePath_refuses_enclosed (ignored : Names) (pattern : Pattern) :
    ((∃ inner, pattern.compilePath ignored = .error (.nestedGroups inner)) ↔
      ∃ place, pattern.Enclosed place ∧ pattern.Visited place) ∧
    ∀ place, pattern.Enclosed place →
      (∀ above child, above <+: place → pattern.node? above ≠ some (star child)) →
      ∃ inner, pattern.compilePath ignored = .error (.nestedGroups inner) := by
  refine ⟨compilePath_nestedGroups_iff ignored pattern, ?_⟩
  intro place enclosed starless
  obtain ⟨child, here⟩ := enclosed.1
  have visited : pattern.Visited place := by
    rcases visited_or_below_star pattern (group child) place here with visited | below
    · exact visited
    · obtain ⟨above, inner, prior, starred⟩ := below
      exact absurd starred (starless above inner prior)
  exact (compilePath_nestedGroups_iff ignored pattern).mpr ⟨place, enclosed, visited⟩

theorem compilePath_refuses_enclosed_twice :
    (group (group slash)).Enclosed [0] ∧
    ∃ inner, (group (group slash)).compilePath .empty = .error (.nestedGroups inner) := by
  have enclosed : (group (group slash)).Enclosed [0] :=
    ⟨⟨_, rfl⟩, [], _, List.nil_prefix, (List.cons_ne_nil _ _).symm, rfl⟩
  refine ⟨enclosed, (compilePath_refuses_enclosed .empty _).2 [0] enclosed ?_⟩
  intro above child prior same
  cases above with
  | nil => cases same
  | cons index above =>
    obtain ⟨rfl, lower⟩ := List.cons_prefix_cons.mp prior
    rw [List.prefix_nil.mp lower] at same
    cases same

/-- The group in the star is written as part of a name. -/
theorem compilePath_enclosed_in_star :
    (group (cat slash (star (group (symbol "x"))))).Enclosed [0, 1, 0] ∧
    (group (cat slash (star (group (symbol "x"))))).compilePath .empty = .ok "\x7b/(x)*\x7d" ∧
    ¬ ∀ (ignored : Names) (pattern : Pattern) (place : Place), pattern.Enclosed place →
      ∃ inner, pattern.compilePath ignored = .error (.nestedGroups inner) := by
  have enclosed : (group (cat slash (star (group (symbol "x"))))).Enclosed [0, 1, 0] :=
    ⟨⟨_, rfl⟩, [], _, List.nil_prefix, (List.cons_ne_nil _ _).symm, rfl⟩
  have compiled : (group (cat slash (star (group (symbol "x"))))).compilePath .empty =
      .ok "\x7b/(x)*\x7d" := rfl
  refine ⟨enclosed, compiled, ?_⟩
  intro refused
  obtain ⟨inner, failed⟩ := refused .empty _ _ enclosed
  rw [compiled] at failed
  cases failed

end RouteTemplate.Pattern
