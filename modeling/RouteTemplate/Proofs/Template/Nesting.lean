import RouteTemplate.Proofs.Template.Visited

namespace RouteTemplate.Pattern

/-- What an outcome tells of the nested groups: that there are none, or which one is the first. -/
def Verdict (nested : Place → Pattern → Prop) : Except CompileError String → Prop
  | .ok _ => ∀ place inner, ¬ nested place inner
  | .error error => ∃ place inner, nested place inner ∧ error = .nestedGroups inner ∧
      ∀ other group, nested other group → NoLater place other

theorem verdict_map (nested : Place → Pattern → Prop) (outcome : Except CompileError String)
    (f : String → String) (verdict : Verdict nested outcome) :
    Verdict nested (do return f (← outcome)) := by
  cases outcome with
  | ok text => exact verdict
  | error error => exact verdict

theorem verdict_below (above : Place) (nested whole : Place → Pattern → Prop)
    (outcome : Except CompileError String)
    (parts : ∀ place inner, whole place inner ↔
      ∃ lower, place = above ++ lower ∧ nested lower inner)
    (verdict : Verdict nested outcome) : Verdict whole outcome := by
  cases outcome with
  | ok text =>
    intro place inner inside
    obtain ⟨lower, _, inside⟩ := (parts place inner).mp inside
    exact verdict lower inner inside
  | error error =>
    obtain ⟨lower, inner, inside, same, first⟩ := verdict
    refine ⟨above ++ lower, inner, (parts _ _).mpr ⟨lower, rfl, inside⟩, same, ?_⟩
    intro other group elsewhere
    obtain ⟨otherLower, rfl, below⟩ := (parts other group).mp elsewhere
    exact noLater_append above lower otherLower (first otherLower group below)

theorem verdict_both (left right whole : Place → Pattern → Prop)
    (leading following : Except CompileError String)
    (parts : ∀ place inner, whole place inner ↔ left place inner ∨ right place inner)
    (ordered : ∀ place inner other group, left place inner → right other group →
      NoLater place other)
    (verdictLeft : Verdict left leading) (verdictRight : Verdict right following) :
    Verdict whole (do return (← leading) ++ (← following)) := by
  cases leading with
  | error error =>
    obtain ⟨place, inner, inside, same, first⟩ := verdictLeft
    refine ⟨place, inner, (parts place inner).mpr (Or.inl inside), same, ?_⟩
    intro other group later
    rcases (parts other group).mp later with inLeft | inRight
    · exact first other group inLeft
    · exact ordered place inner other group inside inRight
  | ok leadingText =>
    cases following with
    | error error =>
      obtain ⟨place, inner, inside, same, first⟩ := verdictRight
      refine ⟨place, inner, (parts place inner).mpr (Or.inr inside), same, ?_⟩
      intro other group later
      rcases (parts other group).mp later with inLeft | inRight
      · exact (verdictLeft other group inLeft).elim
      · exact first other group inRight
    | ok followingText =>
      intro place inner inside
      rcases (parts place inner).mp inside with inLeft | inRight
      · exact verdictLeft place inner inLeft
      · exact verdictRight place inner inRight

theorem verdict_branches (ignored : Names) (context : Context) (branches : List Pattern)
    (below : ∀ branch ∈ branches,
      Verdict (NestedWithin context.grouped branch) (render ignored context branch))
    (offset : Nat) :
    Verdict (fun place inner => ∃ index lower branch, place = (offset + index) :: lower ∧
        branches[index]? = some branch ∧ NestedWithin context.grouped branch lower inner)
      (renderBranches ignored context branches) := by
  induction branches generalizing offset with
  | nil => simp [renderBranches, Verdict]
  | cons branch others ih =>
    have head : Verdict (fun place inner => ∃ lower, place = offset :: lower ∧
        NestedWithin context.grouped branch lower inner) (render ignored context branch) :=
      verdict_below [offset] _ _ _ (fun _ _ => Iff.rfl) (below branch List.mem_cons_self)
    have tail := ih (fun other member => below other (List.mem_cons_of_mem branch member))
      (offset + 1)
    have shift (index : Nat) : offset + 1 + index = offset + (index + 1) := by omega
    refine verdict_both _ _ _ _ _ ?_ ?_ head tail
    · intro place inner
      constructor
      · rintro ⟨index, lower, part, rfl, found, nested⟩
        cases index with
        | zero => exact Or.inl ⟨lower, rfl, Option.some.inj found ▸ nested⟩
        | succ index => exact Or.inr ⟨index, lower, part, by rw [shift], found, nested⟩
      · rintro (⟨lower, rfl, nested⟩ | ⟨index, lower, part, rfl, found, nested⟩)
        · exact ⟨0, lower, branch, rfl, rfl, nested⟩
        · exact ⟨index + 1, lower, part, by rw [shift], found, nested⟩
    · rintro _ inner _ group ⟨lower, rfl, _⟩ ⟨index, otherLower, part, rfl, _⟩
      exact Or.inl (by omega)

theorem verdict_render (ignored : Names) (pattern : Pattern) (context : Context) :
    Verdict (NestedWithin context.grouped pattern) (render ignored context pattern) := by
  induction pattern using joint_induction generalizing context with
  | literal text => exact not_nestedWithin_terminal _ _ rfl
  | slash => exact not_nestedWithin_terminal _ _ rfl
  | dot => exact not_nestedWithin_terminal _ _ rfl
  | symbol name => exact not_nestedWithin_terminal _ _ rfl
  | star child ih =>
    exact verdict_below [0] _ _ _ (nestedWithin_star context.grouped child) (ih context.within)
  | separated separator name =>
    rw [render_separated]
    exact not_nestedWithin_separated context.grouped separator name
  | splat child => exact not_nestedWithin_splat context.grouped child
  | splatThen child rest ih =>
    rw [render_splatThen]
    exact verdict_map _ _ _ (verdict_below [1, 1] _ _ _
      (nestedWithin_splatThen context.grouped child rest) (ih context.within))
  | thenSplat first second child ih =>
    rw [render_thenSplat]
    exact verdict_map _ _ _ (verdict_below [0] _ _ _
      (nestedWithin_thenSplat context.grouped first second child) (ih context.within))
  | apart left right apart ihLeft ihRight =>
    rw [render_apart ignored context left right apart]
    refine verdict_both _ _ _ _ _ (nestedWithin_apart context.grouped left right apart) ?_
      (verdict_below [0] _ _ _ (fun _ _ => Iff.rfl) (ihLeft context.within))
      (verdict_below [1] _ _ _ (fun _ _ => Iff.rfl) (ihRight context.within))
    rintro _ inner _ group ⟨lower, rfl, _⟩ ⟨otherLower, rfl, _⟩
    exact Or.inl Nat.zero_lt_one
  | or branches ih =>
    have verdict := verdict_branches ignored context.within branches
      (fun branch member => ih branch member context.within) 0
    refine verdict_below [] _ _ _ (fun place inner => ?_) verdict
    simp [nestedWithin_or, Context.within]
  | group child ih =>
    simp only [render]
    cases inside : context.grouped with
    | true =>
      refine ⟨[], group child, ?_, rfl, fun _ _ _ => trivial⟩
      rw [nestedWithin_group]
      exact Or.inl ⟨rfl, rfl, rfl⟩
    | false =>
      refine verdict_below [0] _ _ _ (fun place inner => ?_) (ih .group)
      simp [nestedWithin_group, Context.group]

theorem compilePath_verdict (ignored : Names) (pattern : Pattern) :
    Verdict (fun place inner => pattern.Nested place ∧ pattern.node? place = some inner)
      (pattern.compilePath ignored) := by
  rw [compilePath_eq_render]
  apply verdict_below [] _ _ _ _ (verdict_render ignored pattern .root)
  intro place inner
  simp [← nestedWithin_root, Context.root]

theorem compilePath_error_iff_first (ignored : Names) (pattern : Pattern) (error : CompileError) :
    pattern.compilePath ignored = .error error ↔
      ∃ place inner, pattern.FirstNested place inner ∧ error = .nestedGroups inner := by
  have verdict := compilePath_verdict ignored pattern
  cases outcome : pattern.compilePath ignored with
  | ok template =>
    rw [outcome] at verdict
    constructor
    · nofun
    · rintro ⟨place, inner, ⟨nested, here, _⟩, _⟩
      exact (verdict place inner ⟨nested, here⟩).elim
  | error actual =>
    rw [outcome] at verdict
    obtain ⟨place, inner, ⟨nested, here⟩, rfl, earliest⟩ := verdict
    have first : pattern.FirstNested place inner := by
      refine ⟨nested, here, fun other otherNested => ?_⟩
      obtain ⟨child, there⟩ := otherNested.1.2
      exact earliest other (group child) ⟨otherNested, there⟩
    constructor
    · intro same
      exact ⟨place, inner, first, (Except.error.inj same).symm⟩
    · rintro ⟨other, group, otherFirst, rfl⟩
      rw [firstNested_unique pattern place other inner group first otherFirst]

theorem compilePath_fails_iff (ignored : Names) (pattern : Pattern) :
    (∃ error, pattern.compilePath ignored = .error error) ↔ ∃ place, pattern.Nested place := by
  have verdict := compilePath_verdict ignored pattern
  constructor
  · rintro ⟨error, failed⟩
    rw [failed] at verdict
    obtain ⟨place, inner, ⟨nested, _⟩, _⟩ := verdict
    exact ⟨place, nested⟩
  · rintro ⟨place, nested⟩
    cases outcome : pattern.compilePath ignored with
    | error error => exact ⟨error, rfl⟩
    | ok template =>
      rw [outcome] at verdict
      obtain ⟨child, here⟩ := nested.1.2
      exact (verdict place (group child) ⟨nested, here⟩).elim

/-- A pattern is refused exactly if a visited group stands inside another one. The error tells the
first such group as it is written in a route. Which names are ignored makes no difference. -/
theorem compilePath_refuses_nested_groups (ignored : Names) (pattern : Pattern) :
    ((∃ error, pattern.compilePath ignored = .error error) ↔ ∃ place, pattern.Nested place) ∧
    (∀ error, pattern.compilePath ignored = .error error ↔
      ∃ place inner, pattern.FirstNested place inner ∧ error = .nestedGroups inner ∧
        error.message = "nested groups not permitted: `" ++ inner.text ++ "`") ∧
    ∀ other error, pattern.compilePath ignored = .error error ↔
      pattern.compilePath other = .error error := by
  refine ⟨compilePath_fails_iff ignored pattern, fun error => ?_, fun other error => ?_⟩
  · rw [compilePath_error_iff_first]
    constructor
    · rintro ⟨place, inner, first, rfl⟩
      exact ⟨place, inner, first, rfl, rfl⟩
    · rintro ⟨place, inner, first, same, _⟩
      exact ⟨place, inner, first, same⟩
  · rw [compilePath_error_iff_first, compilePath_error_iff_first]

end RouteTemplate.Pattern
