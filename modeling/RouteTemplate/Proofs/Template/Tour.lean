import RouteTemplate.Proofs.Template.Visited

/-!
The tour of a walk: the nodes that it reports, each where it stands, before what is below it and
from left to right. A node that a `cat` writes as a part of itself is not on the tour, and a star
that is written so takes with it all that is below it.
-/

namespace RouteTemplate

theorem noLater_refl (place : Place) : NoLater place place := by
  induction place with
  | nil => trivial
  | cons index place ih => exact Or.inr ⟨rfl, ih⟩

structure Spot where
  place : Place
  node : Pattern

namespace Spot

def under (way : Place) (spot : Spot) : Spot := { spot with place := way ++ spot.place }

/-- Whether the first spot comes earlier from left to right, where each spot comes before the spots
below it. -/
def Before (first second : Spot) : Prop :=
  NoLater first.place second.place ∧ first.place ≠ second.place

theorem before_under (way : Place) (first second : Spot) (before : Before first second) :
    Before (first.under way) (second.under way) := by
  constructor
  · exact noLater_append way first.place second.place before.1
  · intro same
    exact before.2 (List.append_cancel_left same)

end Spot

namespace Pattern

mutual

/-- All nodes, each before what is below it, and from left to right. -/
def spots : Pattern → List Spot
  | literal text => [⟨[], literal text⟩]
  | slash => [⟨[], slash⟩]
  | dot => [⟨[], dot⟩]
  | symbol name => [⟨[], symbol name⟩]
  | star child => ⟨[], star child⟩ :: (spots child).map (·.under [0])
  | cat left right =>
    ⟨[], cat left right⟩ :: ((spots left).map (·.under [0]) ++ (spots right).map (·.under [1]))
  | or branches => ⟨[], or branches⟩ :: branchSpots 0 branches
  | group child => ⟨[], group child⟩ :: (spots child).map (·.under [0])

def branchSpots (index : Nat) : List Pattern → List Spot
  | [] => []
  | branch :: others => (spots branch).map (·.under [index]) ++ branchSpots (index + 1) others

end

/-- Where the nodes stand that a `cat` writes as parts of itself, apart from a star. -/
def joined : Pattern → List Place
  | cat dot (symbol _) => [[0], [1]]
  | cat slash (symbol _) => [[0], [1]]
  | cat slash (star _) => [[0]]
  | cat slash (cat (star _) _) => [[0], [1]]
  | _ => []

/-- Whether the pattern writes the node at the place as a part of itself. -/
def takesIn (pattern : Pattern) (place : Place) : Bool :=
  pattern.joined.contains place || pattern.consumed?.any (·.isPrefixOf place)

/-- Whether there is a node at the place, and no node above it takes it in. -/
def comesTo : Pattern → Place → Bool
  | _, [] => true
  | pattern, index :: place =>
    !pattern.takesIn (index :: place) && pattern.children[index]?.any (·.comesTo place)

def tour (pattern : Pattern) : List Spot :=
  pattern.spots.filter fun spot => pattern.comesTo spot.place

/-- One more than the number of nodes on the tour that stand above the place. -/
def depth (pattern : Pattern) (place : Place) : Nat :=
  1 + (List.range place.length).countP fun level => pattern.comesTo (place.take level)

/-- Induction that treats all kinds of node alike. -/
theorem children_induction {motive : Pattern → Prop}
    (step : ∀ pattern, (∀ part ∈ pattern.children, motive part) → motive pattern)
    (pattern : Pattern) : motive pattern := by
  apply spots.induct motive (fun _ parts => ∀ part ∈ parts, motive part)
  case case1 => exact fun text => step (literal text) (List.forall_mem_nil motive)
  case case2 => exact step slash (List.forall_mem_nil motive)
  case case3 => exact step dot (List.forall_mem_nil motive)
  case case4 => exact fun name => step (symbol name) (List.forall_mem_nil motive)
  case case5 => exact fun child below => step (star child) (List.forall_mem_singleton.mpr below)
  case case6 =>
    intro left right belowLeft belowRight
    apply step (cat left right)
    exact List.forall_mem_cons.mpr ⟨belowLeft, List.forall_mem_singleton.mpr belowRight⟩
  case case7 => exact fun branches below => step (or branches) below
  case case8 => exact fun child below => step (group child) (List.forall_mem_singleton.mpr below)
  case case9 => exact fun _ => List.forall_mem_nil motive
  case case10 => exact fun _ branch others first rest => List.forall_mem_cons.mpr ⟨first, rest⟩

theorem spots_eq (pattern : Pattern) :
    pattern.spots = ⟨[], pattern⟩ :: branchSpots 0 pattern.children := by
  cases pattern <;> simp [spots, branchSpots, children]

theorem mem_branchSpots (parts : List Pattern) (start : Nat) (spot : Spot) :
    spot ∈ branchSpots start parts ↔ ∃ (index : Nat) (part : Pattern) (lower : Spot),
      parts[index]? = some part ∧ lower ∈ part.spots ∧ spot = lower.under [start + index] := by
  induction parts generalizing start with
  | nil => simp [branchSpots]
  | cons part parts ih =>
    rw [branchSpots, List.mem_append, List.mem_map, ih]
    constructor
    · intro found
      rcases found with ⟨lower, member, rfl⟩ | ⟨index, other, lower, there, member, rfl⟩
      · exact ⟨0, part, lower, rfl, member, rfl⟩
      · exact ⟨index + 1, other, lower, there, member, by rw [Nat.add_right_comm, Nat.add_assoc]⟩
    · intro found
      rcases found with ⟨index, other, lower, there, member, rfl⟩
      cases index with
      | zero =>
        cases there
        exact Or.inl ⟨lower, member, rfl⟩
      | succ index =>
        exact Or.inr ⟨index, other, lower, there, member, by rw [Nat.add_right_comm, Nat.add_assoc]⟩

theorem mem_spots (pattern : Pattern) (spot : Spot) :
    spot ∈ pattern.spots ↔ pattern.node? spot.place = some spot.node := by
  rcases spot with ⟨place, node⟩
  induction place generalizing pattern with
  | nil =>
    rw [spots_eq, List.mem_cons, mem_branchSpots, node?]
    simp [Spot.under, eq_comm]
  | cons index place ih =>
    rw [spots_eq, List.mem_cons, mem_branchSpots, node?, Option.bind_eq_some_iff]
    constructor
    · intro found
      rcases found with root | ⟨other, part, ⟨lower, below⟩, there, member, same⟩
      · cases root
      · simp only [Spot.under, Spot.mk.injEq, List.singleton_append, List.cons.injEq,
          Nat.zero_add] at same
        rcases same with ⟨⟨rfl, rfl⟩, rfl⟩
        exact ⟨part, there, (ih part).mp member⟩
    · intro found
      rcases found with ⟨part, there, below⟩
      exact Or.inr ⟨index, part, ⟨place, node⟩, there, (ih part).mpr below,
        by rw [Nat.zero_add]; rfl⟩

theorem mem_tour (pattern : Pattern) (spot : Spot) :
    spot ∈ pattern.tour ↔
      pattern.node? spot.place = some spot.node ∧ pattern.comesTo spot.place = true := by
  rw [tour, List.mem_filter, mem_spots]

theorem branchSpots_ordered (parts : List Pattern) (start : Nat)
    (below : ∀ part ∈ parts, part.spots.Pairwise Spot.Before) :
    (branchSpots start parts).Pairwise Spot.Before := by
  induction parts generalizing start with
  | nil => exact List.Pairwise.nil
  | cons part parts ih =>
    have others := ih (start + 1) fun other member => below other (List.mem_cons_of_mem part member)
    rw [branchSpots, List.pairwise_append, List.pairwise_map]
    refine ⟨?_, others, ?_⟩
    · exact (below part List.mem_cons_self).imp (Spot.before_under [start] _ _)
    · intro first inFirst second inOthers
      rcases List.mem_map.mp inFirst with ⟨lower, member, rfl⟩
      rcases (mem_branchSpots parts (start + 1) second).mp inOthers with
        ⟨index, other, upper, there, among, rfl⟩
      have earlier : start < start + 1 + index := by omega
      constructor
      · exact Or.inl earlier
      · intro same
        exact absurd (List.cons.inj same).1 (Nat.ne_of_lt earlier)

theorem spots_ordered (pattern : Pattern) : pattern.spots.Pairwise Spot.Before := by
  induction pattern using children_induction with
  | step pattern below =>
    rw [spots_eq, List.pairwise_cons]
    constructor
    · intro spot member
      rcases (mem_branchSpots _ 0 spot).mp member with ⟨index, part, lower, there, among, rfl⟩
      exact ⟨trivial, (List.cons_ne_nil _ _).symm⟩
    · exact branchSpots_ordered pattern.children 0 below

theorem tour_ordered (pattern : Pattern) : pattern.tour.Pairwise Spot.Before :=
  (spots_ordered pattern).filter _

theorem takesIn_eq_false_iff (pattern : Pattern) (place : Place) :
    pattern.takesIn place = false ↔
      place ∉ pattern.joined ∧ ∀ star ∈ pattern.consumed?, ¬ star <+: place := by
  cases consumed : pattern.consumed? <;>
    simp [takesIn, consumed, ← Bool.not_eq_true, List.isPrefixOf_iff_prefix]

theorem joined_not_group (pattern child : Pattern) (place : Place)
    (member : place ∈ pattern.joined) : pattern.node? place ≠ some (group child) := by
  unfold joined at member
  split at member <;> simp only [List.mem_cons, List.not_mem_nil, or_false] at member
  case h_3 =>
    subst member
    nofun
  all_goals
    rcases member with rfl | rfl
    · nofun
    · nofun

theorem comesTo_visitedGroup (pattern : Pattern) (place : Place)
    (visited : pattern.VisitedGroup place) : pattern.comesTo place = true := by
  induction place generalizing pattern with
  | nil => rw [comesTo]
  | cons index place ih =>
    rcases (visitedGroup_cons pattern index place).mp visited with ⟨clear, part, found, below⟩
    have there : pattern.children[index]? = some part := found
    have apart : index :: place ∉ pattern.joined := by
      intro member
      rcases visited.2 with ⟨child, here⟩
      exact joined_not_group pattern child (index :: place) member here
    rw [comesTo, (takesIn_eq_false_iff pattern _).mpr ⟨apart, clear⟩, there]
    exact ih part below

structure Leads (pattern : Pattern) (way : Place) (part : Pattern) : Prop where
  comes (place : Place) : pattern.comesTo (way ++ place) = part.comesTo place
  once : (List.range way.length).countP (fun level => pattern.comesTo (way.take level)) = 1
  nested (grouped : Bool) (place : Place) (inner : Pattern) :
    NestedWithin grouped pattern (way ++ place) inner ↔
      NestedWithin (grouped || pattern.kind == .group) part place inner

theorem leads_child (pattern part : Pattern) (index : Nat)
    (there : pattern.children[index]? = some part)
    (clear : ∀ place, pattern.takesIn (index :: place) = false) :
    Leads pattern [index] part where
  comes place := by simp [comesTo, clear, there]
  once := by simp [comesTo]
  nested grouped place inner := by
    have spared := ((takesIn_eq_false_iff pattern _).mp (clear place)).2
    rw [List.singleton_append, nestedWithin_cons, there]
    constructor
    · intro nested
      rcases nested with ⟨_, child, same, nested⟩
      cases same
      exact nested
    · intro nested
      exact ⟨spared, part, rfl, nested⟩

/-- Of the two nodes above what follows a splat, the walk comes to the first only. -/
theorem leads_rest (child rest : Pattern) :
    Leads (cat slash (cat (star child) rest)) [1, 1] rest where
  comes place := by
    simp [comesTo, takesIn, joined, consumed?, children, List.isPrefixOf]
  once := rfl
  nested grouped place inner := by
    have ordinary : (grouped || (cat slash (cat (star child) rest)).kind == .group) = grouped :=
      Bool.or_false grouped
    rw [nestedWithin_splatThen, ordinary]
    simp

theorem leads_leading (first second child : Pattern) :
    Leads (cat (cat first second) (star child)) [0] (cat first second) := by
  apply leads_child _ _ 0 rfl
  intro place
  simp [takesIn_eq_false_iff, joined, consumed?]

section

variable {pattern part : Pattern} {way : Place} (leads : Leads pattern way part)

include leads

theorem depth_under (place : Place) : pattern.depth (way ++ place) = part.depth place + 1 := by
  have above : (List.range way.length).countP (fun level =>
      pattern.comesTo ((way ++ place).take level)) = 1 := by
    rw [← leads.once]
    apply List.countP_congr
    intro level member
    rw [List.take_append_of_le_length (Nat.le_of_lt (List.mem_range.mp member))]
  have below : ((List.range place.length).map (way.length + ·)).countP (fun level =>
      pattern.comesTo ((way ++ place).take level)) =
        (List.range place.length).countP fun level => part.comesTo (place.take level) := by
    rw [List.countP_map]
    apply List.countP_congr
    intro level _
    rw [Function.comp_apply, List.take_length_add_append, leads.comes]
  rw [depth, depth, List.length_append, List.range_add, List.countP_append, above, below]
  omega

theorem filter_under :
    (part.spots.map (·.under way)).filter (fun spot => pattern.comesTo spot.place) =
      part.tour.map (·.under way) := by
  rw [tour, List.filter_map]
  congr 1
  apply List.filter_congr
  intro spot _
  exact leads.comes spot.place

end

theorem filter_taken (pattern part : Pattern) (way : Place)
    (taken : ∀ place, pattern.comesTo (way ++ place) = false) :
    (part.spots.map (·.under way)).filter (fun spot => pattern.comesTo spot.place) = [] := by
  rw [List.filter_eq_nil_iff]
  intro spot member
  rcases List.mem_map.mp member with ⟨lower, _, rfl⟩
  rw [Spot.under, taken]
  decide

theorem tour_terminal (pattern : Pattern) (terminal : pattern.children = []) :
    pattern.tour = [⟨[], pattern⟩] := by
  simp [tour, spots_eq, terminal, branchSpots, comesTo]

theorem tour_only (pattern child : Pattern) (only : pattern.children = [child])
    (clear : ∀ place, pattern.takesIn (0 :: place) = false) :
    pattern.tour = ⟨[], pattern⟩ :: child.tour.map (·.under [0]) := by
  have leads : Leads pattern [0] child := leads_child pattern child 0 (by simp [only]) clear
  rw [tour, spots_eq, only, branchSpots, branchSpots, List.append_nil,
    List.filter_cons_of_pos (by rw [comesTo]), filter_under leads]

theorem tour_group (child : Pattern) :
    (group child).tour = ⟨[], group child⟩ :: child.tour.map (·.under [0]) :=
  tour_only (group child) child rfl fun _ => rfl

theorem tour_cat (left right : Pattern) :
    (cat left right).tour = ⟨[], cat left right⟩ ::
      (((left.spots.map (·.under [0])).filter fun spot => (cat left right).comesTo spot.place) ++
        (right.spots.map (·.under [1])).filter
          fun spot => (cat left right).comesTo spot.place) := by
  rw [tour, spots, List.filter_cons_of_pos (by rw [comesTo]), List.filter_append]

theorem takesIn_apart (left right : Pattern) (apart : Apart left right) (place : Place) :
    (cat left right).takesIn place = false := by
  have separate : (cat left right).joined = [] := by
    unfold joined
    split <;> simp_all [Apart]
  simp [takesIn, separate, apart_consumed? left right apart]

theorem tour_apart (left right : Pattern) (apart : Apart left right) :
    (cat left right).tour =
      ⟨[], cat left right⟩ :: (left.tour.map (·.under [0]) ++ right.tour.map (·.under [1])) := by
  rw [tour_cat,
    filter_under (leads_child _ left 0 rfl fun place => takesIn_apart left right apart _),
    filter_under (leads_child _ right 1 rfl fun place => takesIn_apart left right apart _)]

theorem tour_separated (separator : Separator) (name : String) :
    (cat separator.pattern (symbol name)).tour = [⟨[], cat separator.pattern (symbol name)⟩] := by
  rw [tour_cat, filter_taken, filter_taken, List.append_nil]
  all_goals
    intro place
    cases place <;> cases separator <;>
      simp [Separator.pattern, comesTo, takesIn, joined, children]

theorem tour_splat (child : Pattern) :
    (cat slash (star child)).tour = [⟨[], cat slash (star child)⟩] := by
  have taken (place : Place) : (cat slash (star child)).comesTo ([0] ++ place) = false := by
    cases place <;> simp [comesTo, takesIn, joined, children]
  rw [tour_cat, filter_taken _ _ _ taken, filter_taken, List.append_nil]
  intro place
  simp [comesTo, takesIn, consumed?]

theorem tour_splatThen (child rest : Pattern) :
    (cat slash (cat (star child) rest)).tour =
      ⟨[], cat slash (cat (star child) rest)⟩ :: rest.tour.map (·.under [1, 1]) := by
  have taken (place : Place) :
      (cat slash (cat (star child) rest)).comesTo ([0] ++ place) = false := by
    cases place <;> simp [comesTo, takesIn, joined, children]
  have consumed (place : Place) :
      (cat slash (cat (star child) rest)).comesTo ([1, 0] ++ place) = false := by
    simp [comesTo, takesIn, consumed?]
  have inner : (cat (star child) rest).spots.map (·.under [1]) =
      ⟨[1], cat (star child) rest⟩ ::
        ((star child).spots.map (·.under [1, 0]) ++ rest.spots.map (·.under [1, 1])) := by
    rw [spots_eq (cat (star child) rest)]
    simp only [children, branchSpots, List.append_nil, List.map_cons, List.map_append, List.map_map]
    rfl
  have skipped : (cat slash (cat (star child) rest)).comesTo [1] = false := rfl
  rw [tour_cat, filter_taken _ _ _ taken, inner, List.filter_cons_of_neg (by simp [skipped]),
    List.filter_append, filter_taken _ _ _ consumed, filter_under (leads_rest child rest)]
  simp only [List.nil_append]

theorem tour_thenSplat (first second child : Pattern) :
    (cat (cat first second) (star child)).tour =
      ⟨[], cat (cat first second) (star child)⟩ :: (cat first second).tour.map (·.under [0]) := by
  rw [tour_cat, filter_under (leads_leading first second child), filter_taken, List.append_nil]
  intro place
  simp [comesTo, takesIn, consumed?]

end Pattern

end RouteTemplate
