import RouteTemplate.Proofs.Template.Rendering

namespace RouteTemplate

/-- The way down to a node: at each level, which operand or branch to go on with. -/
abbrev Place := List Nat

/-- Whether a walk from left to right, each node before what is below it, comes to the first place
no later than to the second. -/
def NoLater : Place → Place → Prop
  | [], _ => True
  | _ :: _, [] => False
  | index :: place, other :: otherPlace =>
    index < other ∨ index = other ∧ NoLater place otherPlace

theorem noLater_antisymm (place other : Place) (before : NoLater place other)
    (after : NoLater other place) : place = other := by
  induction place generalizing other with
  | nil =>
    cases other with
    | nil => rfl
    | cons index other => exact after.elim
  | cons index place ih =>
    cases other with
    | nil => exact before.elim
    | cons otherIndex other =>
      rcases before with smaller | ⟨same, before⟩
      · rcases after with larger | ⟨same, _⟩ <;> omega
      · rcases after with larger | ⟨_, after⟩
        · omega
        · rw [same, ih other before after]

theorem noLater_append (above place other : Place) (before : NoLater place other) :
    NoLater (above ++ place) (above ++ other) := by
  induction above with
  | nil => exact before
  | cons index above ih => exact Or.inr ⟨rfl, ih⟩

namespace Pattern

def children : Pattern → List Pattern
  | literal _ => []
  | slash => []
  | dot => []
  | symbol _ => []
  | star child => [child]
  | cat left right => [left, right]
  | or branches => branches
  | group child => [child]

def node? : Pattern → Place → Option Pattern
  | pattern, [] => some pattern
  | pattern, index :: place => pattern.children[index]?.bind (·.node? place)

/-- Where the star stands that a `cat` writes together with what is in front of it. -/
def consumed? : Pattern → Option Place
  | cat slash (star _) => some [1]
  | cat (cat _ _) (star _) => some [1]
  | cat slash (cat (star _) _) => some [1, 0]
  | _ => none

/-- Whether there is a node at the place, and the way down to it enters no consumed star. -/
def Visited : Pattern → Place → Prop
  | _, [] => True
  | pattern, index :: place =>
    (∀ star ∈ pattern.consumed?, ¬ star <+: index :: place) ∧
      ∃ child ∈ pattern.children[index]?, child.Visited place

def VisitedGroup (pattern : Pattern) (place : Place) : Prop :=
  pattern.Visited place ∧ ∃ child, pattern.node? place = some (group child)

/-- Whether a visited group stands at the place and another one above it. -/
def Nested (pattern : Pattern) (place : Place) : Prop :=
  pattern.VisitedGroup place ∧
    ∃ above, above <+: place ∧ above ≠ place ∧ pattern.VisitedGroup above

theorem visitedGroup_nil (pattern : Pattern) :
    pattern.VisitedGroup [] ↔ pattern.kind = .group := by
  cases pattern <;> simp [VisitedGroup, Visited, node?, kind]

theorem visitedGroup_cons (pattern : Pattern) (index : Nat) (place : Place) :
    pattern.VisitedGroup (index :: place) ↔
      (∀ star ∈ pattern.consumed?, ¬ star <+: index :: place) ∧
        ∃ child ∈ pattern.children[index]?, child.VisitedGroup place := by
  cases found : pattern.children[index]? with
  | none => simp [VisitedGroup, Visited, found]
  | some child => simp [VisitedGroup, Visited, node?, found, and_assoc]

/-- The nested group that a walk from left to right comes to first. -/
def FirstNested (pattern : Pattern) (place : Place) (inner : Pattern) : Prop :=
  pattern.Nested place ∧ pattern.node? place = some inner ∧
    ∀ other, pattern.Nested other → NoLater place other

theorem firstNested_unique (pattern : Pattern) (place other : Place) (inner group : Pattern)
    (first : pattern.FirstNested place inner) (second : pattern.FirstNested other group) :
    inner = group := by
  have same : place = other :=
    noLater_antisymm place other (first.2.2 other second.1) (second.2.2 place first.1)
  rw [same] at first
  exact Option.some.inj (first.2.1.symm.trans second.2.1)

/-- Whether `inner` is a visited group at the place and stands in a group, which may be one around
the whole pattern. -/
def NestedWithin (grouped : Bool) (pattern : Pattern) (place : Place) (inner : Pattern) : Prop :=
  pattern.VisitedGroup place ∧ pattern.node? place = some inner ∧
    (grouped = true ∨ ∃ above, above <+: place ∧ above ≠ place ∧ pattern.VisitedGroup above)

theorem nestedWithin_root (pattern inner : Pattern) (place : Place) :
    NestedWithin false pattern place inner ↔
      pattern.Nested place ∧ pattern.node? place = some inner := by
  constructor
  · intro nested
    rcases nested with ⟨visited, here, inside⟩
    exact ⟨⟨visited, inside.resolve_left Bool.false_ne_true⟩, here⟩
  · intro both
    rcases both with ⟨⟨visited, above⟩, here⟩
    exact ⟨visited, here, Or.inr above⟩

theorem nestedWithin_nil (grouped : Bool) (pattern inner : Pattern) :
    NestedWithin grouped pattern [] inner ↔
      grouped = true ∧ pattern.kind = .group ∧ inner = pattern := by
  have alone : ¬ ∃ above : Place, above <+: [] ∧ above ≠ [] ∧ pattern.VisitedGroup above := by
    rintro ⟨above, prior, other, _⟩
    exact other (List.prefix_nil.mp prior)
  simp only [NestedWithin, visitedGroup_nil, node?, alone, or_false, Option.some.injEq]
  constructor
  · rintro ⟨isGroup, rfl, inside⟩
    exact ⟨inside, isGroup, rfl⟩
  · rintro ⟨inside, isGroup, rfl⟩
    exact ⟨isGroup, rfl, inside⟩

theorem nestedWithin_cons (grouped : Bool) (pattern : Pattern) (index : Nat) (place : Place)
    (inner : Pattern) :
    NestedWithin grouped pattern (index :: place) inner ↔
      (∀ star ∈ pattern.consumed?, ¬ star <+: index :: place) ∧
        ∃ child ∈ pattern.children[index]?,
          NestedWithin (grouped || pattern.kind == .group) child place inner := by
  constructor
  · rintro ⟨visited, here, inside⟩
    obtain ⟨clear, child, found, visitedChild⟩ := (visitedGroup_cons ..).mp visited
    have found' : pattern.children[index]? = some child := found
    refine ⟨clear, child, found, visitedChild, by simpa [node?, found'] using here, ?_⟩
    rcases inside with around | ⟨above, prior, other, visitedAbove⟩
    · exact Or.inl (by simp [around])
    · cases above with
      | nil => exact Or.inl (by simp [(visitedGroup_nil pattern).mp visitedAbove])
      | cons first above =>
        obtain ⟨rfl, lower⟩ := List.cons_prefix_cons.mp prior
        obtain ⟨_, parent, foundAbove, visitedParent⟩ := (visitedGroup_cons ..).mp visitedAbove
        have same : parent = child := Option.mem_unique foundAbove found
        exact Or.inr ⟨above, lower, fun equal => other (by rw [equal]), same ▸ visitedParent⟩
  · rintro ⟨clear, child, found, visitedChild, here, inside⟩
    have found' : pattern.children[index]? = some child := found
    refine ⟨(visitedGroup_cons ..).mpr ⟨clear, child, found, visitedChild⟩,
      by simpa [node?, found'] using here, ?_⟩
    rcases inside with around | ⟨above, prior, other, visitedAbove⟩
    · rcases Bool.or_eq_true_iff.mp around with outer | isGroup
      · exact Or.inl outer
      · exact Or.inr ⟨[], List.nil_prefix, (List.cons_ne_nil _ _).symm,
          (visitedGroup_nil pattern).mpr (beq_iff_eq.mp isGroup)⟩
    · have longer : index :: above <+: index :: place := List.cons_prefix_cons.mpr ⟨rfl, prior⟩
      have clearAbove : ∀ star ∈ pattern.consumed?, ¬ star <+: index :: above :=
        fun star member entered => clear star member (entered.trans longer)
      refine Or.inr ⟨index :: above, longer, ?_, ?_⟩
      · intro equal
        exact other (List.cons.inj equal).2
      · exact (visitedGroup_cons ..).mpr ⟨clearAbove, child, found, visitedAbove⟩

theorem nestedWithin_below (grouped : Bool) (pattern : Pattern)
    (ordinary : (pattern.kind == .group) = false) (place : Place) (inner : Pattern) :
    NestedWithin grouped pattern place inner ↔
      ∃ index lower child, place = index :: lower ∧ pattern.children[index]? = some child ∧
        (∀ star ∈ pattern.consumed?, ¬ star <+: index :: lower) ∧
        NestedWithin grouped child lower inner := by
  cases place with
  | nil => simp [nestedWithin_nil, beq_eq_false_iff_ne.mp ordinary]
  | cons index lower =>
    rw [nestedWithin_cons, ordinary, Bool.or_false]
    constructor
    · rintro ⟨clear, child, found, nested⟩
      exact ⟨index, lower, child, rfl, found, clear, nested⟩
    · rintro ⟨_, _, child, same, found, clear, nested⟩
      obtain ⟨rfl, rfl⟩ := List.cons.inj same
      exact ⟨clear, child, found, nested⟩

theorem not_nestedWithin_terminal (grouped : Bool) (pattern : Pattern)
    (terminal : pattern.kind.isTerminal = true) (place : Place) (inner : Pattern) :
    ¬ NestedWithin grouped pattern place inner := by
  intro nested
  have ordinary : (pattern.kind == .group) = false := by
    refine beq_eq_false_iff_ne.mpr fun isGroup => ?_
    rw [isGroup] at terminal
    exact Bool.false_ne_true terminal
  obtain ⟨index, lower, child, _, found, _⟩ := (nestedWithin_below _ _ ordinary _ _).mp nested
  cases pattern <;> simp_all [children, kind, Kind.isTerminal]

theorem nestedWithin_star (grouped : Bool) (child : Pattern) (place : Place) (inner : Pattern) :
    NestedWithin grouped (star child) place inner ↔
      ∃ lower, place = [0] ++ lower ∧ NestedWithin grouped child lower inner := by
  rw [nestedWithin_below _ _ rfl]
  constructor
  · rintro ⟨index, lower, part, rfl, found, _, nested⟩
    match index with
    | 0 => exact ⟨lower, rfl, Option.some.inj found ▸ nested⟩
    | index + 1 => simp [children] at found
  · rintro ⟨lower, rfl, nested⟩
    exact ⟨0, lower, child, rfl, rfl, by simp [consumed?], nested⟩

theorem not_nestedWithin_separated (grouped : Bool) (separator : Separator) (name : String)
    (place : Place) (inner : Pattern) :
    ¬ NestedWithin grouped (cat separator.pattern (symbol name)) place inner := by
  rw [nestedWithin_below _ _ rfl]
  rintro ⟨index, lower, part, _, found, _, nested⟩
  refine not_nestedWithin_terminal grouped part ?_ lower inner nested
  match index with
  | 0 => cases separator <;> exact Option.some.inj found ▸ rfl
  | 1 => exact Option.some.inj found ▸ rfl
  | index + 2 => simp [children] at found

theorem not_nestedWithin_splat (grouped : Bool) (child : Pattern) (place : Place)
    (inner : Pattern) : ¬ NestedWithin grouped (cat slash (star child)) place inner := by
  rw [nestedWithin_below _ _ rfl]
  rintro ⟨index, lower, part, _, found, clear, nested⟩
  match index with
  | 0 =>
    obtain rfl : slash = part := Option.some.inj found
    exact not_nestedWithin_terminal grouped slash rfl lower inner nested
  | 1 => exact clear [1] rfl (List.cons_prefix_cons.mpr ⟨rfl, List.nil_prefix⟩)
  | index + 2 => simp [children] at found

theorem nestedWithin_splatThen (grouped : Bool) (child rest : Pattern) (place : Place)
    (inner : Pattern) :
    NestedWithin grouped (cat slash (cat (star child) rest)) place inner ↔
      ∃ lower, place = [1, 1] ++ lower ∧ NestedWithin grouped rest lower inner := by
  have unconsumed : (cat (star child) rest).consumed? = none := by simp [consumed?]
  rw [nestedWithin_below _ _ rfl]
  constructor
  · rintro ⟨index, lower, part, rfl, found, clear, nested⟩
    match index with
    | 0 =>
      obtain rfl : slash = part := Option.some.inj found
      exact (not_nestedWithin_terminal grouped slash rfl lower inner nested).elim
    | 1 =>
      obtain rfl : cat (star child) rest = part := Option.some.inj found
      obtain ⟨operand, lower, part, rfl, found, _, below⟩ :=
        (nestedWithin_below _ _ rfl _ _).mp nested
      match operand with
      | 0 => simp [consumed?] at clear
      | 1 => exact ⟨lower, rfl, Option.some.inj found ▸ below⟩
      | operand + 2 => simp [children] at found
    | index + 2 => simp [children] at found
  · rintro ⟨lower, rfl, nested⟩
    refine ⟨1, 1 :: lower, cat (star child) rest, rfl, rfl, by simp [consumed?], ?_⟩
    rw [nestedWithin_below _ _ rfl]
    exact ⟨1, lower, rest, rfl, rfl, by simp [unconsumed], nested⟩

theorem nestedWithin_thenSplat (grouped : Bool) (first second child : Pattern) (place : Place)
    (inner : Pattern) :
    NestedWithin grouped (cat (cat first second) (star child)) place inner ↔
      ∃ lower, place = [0] ++ lower ∧ NestedWithin grouped (cat first second) lower inner := by
  rw [nestedWithin_below _ _ rfl]
  constructor
  · rintro ⟨index, lower, part, rfl, found, clear, nested⟩
    match index with
    | 0 => exact ⟨lower, rfl, Option.some.inj found ▸ nested⟩
    | 1 => exact (clear [1] rfl (List.cons_prefix_cons.mpr ⟨rfl, List.nil_prefix⟩)).elim
    | index + 2 => simp [children] at found
  · rintro ⟨lower, rfl, nested⟩
    exact ⟨0, lower, cat first second, rfl, rfl, by simp [consumed?], nested⟩

theorem apart_consumed? (left right : Pattern) (apart : Apart left right) :
    (cat left right).consumed? = none := by
  unfold consumed?
  split <;> simp_all [Apart]

theorem nestedWithin_apart (grouped : Bool) (left right : Pattern) (apart : Apart left right)
    (place : Place) (inner : Pattern) :
    NestedWithin grouped (cat left right) place inner ↔
      (∃ lower, place = 0 :: lower ∧ NestedWithin grouped left lower inner) ∨
        ∃ lower, place = 1 :: lower ∧ NestedWithin grouped right lower inner := by
  have clear (place : Place) : ∀ star ∈ (cat left right).consumed?, ¬ star <+: place := by
    simp [apart_consumed? left right apart]
  rw [nestedWithin_below _ _ rfl]
  constructor
  · rintro ⟨index, lower, part, rfl, found, _, nested⟩
    match index with
    | 0 => exact Or.inl ⟨lower, rfl, Option.some.inj found ▸ nested⟩
    | 1 => exact Or.inr ⟨lower, rfl, Option.some.inj found ▸ nested⟩
    | index + 2 => simp [children] at found
  · rintro (⟨lower, rfl, nested⟩ | ⟨lower, rfl, nested⟩)
    · exact ⟨0, lower, left, rfl, rfl, clear _, nested⟩
    · exact ⟨1, lower, right, rfl, rfl, clear _, nested⟩

theorem nestedWithin_group (grouped : Bool) (child : Pattern) (place : Place) (inner : Pattern) :
    NestedWithin grouped (group child) place inner ↔
      (grouped = true ∧ place = [] ∧ inner = group child) ∨
        ∃ lower, place = 0 :: lower ∧ NestedWithin true child lower inner := by
  cases place with
  | nil => simp [nestedWithin_nil, kind]
  | cons index place =>
    cases index with
    | zero => simp [nestedWithin_cons, consumed?, children, kind]
    | succ index => simp [nestedWithin_cons, children]

theorem nestedWithin_or (grouped : Bool) (branches : List Pattern) (place : Place)
    (inner : Pattern) :
    NestedWithin grouped (or branches) place inner ↔
      ∃ index lower branch, place = index :: lower ∧ branches[index]? = some branch ∧
        NestedWithin grouped branch lower inner := by
  simp [nestedWithin_below _ (or branches) rfl, consumed?, children]

end Pattern

end RouteTemplate
