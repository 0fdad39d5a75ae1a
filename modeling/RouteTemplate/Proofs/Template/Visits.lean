import RouteTemplate.Proofs.Template.Tour
import RouteTemplate.Template.Compiler

namespace RouteTemplate

/-- Going over the spots in order, up to the first one that stops it: the outcome, and the spots
that it comes to. -/
inductive Reaches (stops : Spot → Prop) (spots : List Spot) :
    Except CompileError String → List Spot → Prop
  | all (text : String) (clear : ∀ spot ∈ spots, ¬ stops spot) :
      Reaches stops spots (.ok text) spots
  | first (before : List Spot) (last : Spot) (after : List Spot)
      (parts : spots = before ++ last :: after) (clear : ∀ spot ∈ before, ¬ stops spot)
      (stop : stops last) :
      Reaches stops spots (.error (.nestedGroups last.node)) (before ++ [last])

section Reaches

variable {stops : Spot → Prop} {spots reached : List Spot} {outcome : Except CompileError String}

theorem reaches_append_error (others : List Spot) (error : CompileError)
    (fails : Reaches stops spots (.error error) reached) :
    Reaches stops (spots ++ others) (.error error) reached := by
  cases fails with
  | first before last after parts clear stop =>
    apply Reaches.first before last (after ++ others) _ clear stop
    rw [parts, List.append_assoc, List.cons_append]

theorem reaches_append_ok (others more : List Spot) (text : String)
    (passes : Reaches stops spots (.ok text) reached) (goesOn : Reaches stops others outcome more) :
    Reaches stops (spots ++ others) outcome (reached ++ more) := by
  cases passes with
  | all _ clear =>
    cases goesOn with
    | all text clearOthers => exact .all text (List.forall_mem_append.mpr ⟨clear, clearOthers⟩)
    | first before last after parts clearBefore stop =>
      rw [← List.append_assoc]
      apply Reaches.first (spots ++ before) last after _ _ stop
      · rw [parts, List.append_assoc]
      · exact List.forall_mem_append.mpr ⟨clear, clearBefore⟩

theorem reaches_under (way : Place) (lower : Spot → Prop)
    (same : ∀ spot, stops (spot.under way) ↔ lower spot)
    (below : Reaches lower spots outcome reached) :
    Reaches stops (spots.map (·.under way)) outcome (reached.map (·.under way)) := by
  have clearUnder (part : List Spot) (clear : ∀ spot ∈ part, ¬ lower spot) :
      ∀ spot ∈ part.map (·.under way), ¬ stops spot := by
    intro spot member
    rcases List.mem_map.mp member with ⟨original, among, rfl⟩
    rw [same]
    exact clear original among
  cases below with
  | all text clear => exact .all text (clearUnder spots clear)
  | first before last after parts clear stop =>
    rw [List.map_append]
    apply Reaches.first (before.map (·.under way)) (last.under way) (after.map (·.under way)) _
      (clearUnder before clear) ((same last).mpr stop)
    rw [parts, List.map_append, List.map_cons]

theorem first_unique (before other after otherAfter : List Spot) (last otherLast : Spot)
    (same : before ++ last :: after = other ++ otherLast :: otherAfter)
    (clear : ∀ spot ∈ before, ¬ stops spot) (stop : stops last)
    (clearOther : ∀ spot ∈ other, ¬ stops spot) (stopOther : stops otherLast) :
    before ++ [last] = other ++ [otherLast] := by
  induction before generalizing other with
  | nil =>
    cases other with
    | nil =>
      cases same
      rfl
    | cons head other =>
      cases same
      exact absurd stop (clearOther last List.mem_cons_self)
  | cons spot before ih =>
    cases other with
    | nil =>
      cases same
      exact absurd stopOther (clear otherLast List.mem_cons_self)
    | cons head other =>
      rcases List.cons.inj same with ⟨sameHead, sameTail⟩
      have rest := ih other sameTail (List.forall_mem_cons.mp clear).2
        (List.forall_mem_cons.mp clearOther).2
      rw [List.cons_append, List.cons_append, rest, sameHead]

theorem reaches_unique {other : Except CompileError String} {otherReached : List Spot}
    (reaches : Reaches stops spots outcome reached)
    (again : Reaches stops spots other otherReached) : reached = otherReached := by
  have among (before after : List Spot) (last : Spot) (parts : spots = before ++ last :: after) :
      last ∈ spots := by
    rw [parts]
    exact List.mem_append_right before List.mem_cons_self
  cases reaches with
  | all text clear =>
    cases again with
    | all other clearOther => rfl
    | first other last after parts clearOther stop =>
      exact absurd stop (clear last (among other after last parts))
  | first before last after parts clear stop =>
    cases again with
    | all other clearOther => exact absurd stop (clearOther last (among before after last parts))
    | first other otherLast otherAfter otherParts clearOther stopOther =>
      exact first_unique before other after otherAfter last otherLast (parts.symm.trans otherParts)
        clear stop clearOther stopOther

end Reaches

namespace Pattern

def report (pattern : Pattern) (spot : Spot) : Event :=
  .visit ⟨spot.node.kind, pattern.depth spot.place⟩

def visitAt (pattern : Pattern) (above : Nat) (spot : Spot) : Visit :=
  ⟨spot.node.kind, pattern.depth spot.place + above⟩

theorem visits_under {pattern part : Pattern} {way : Place} (leads : Leads pattern way part)
    (above : Nat) (spots : List Spot) :
    (spots.map (·.under way)).map (pattern.visitAt above) =
      spots.map (part.visitAt (above + 1)) := by
  rw [List.map_map]
  apply List.map_congr_left
  intro spot _
  simp only [Function.comp_apply, visitAt, Spot.under, depth_under leads, Nat.add_assoc,
    Nat.add_comm 1 above]

theorem visitAt_entering (pattern : Pattern) (walk : Walk) :
    (walk.entering pattern.kind).visits.toList =
      walk.visits.toList ++ [pattern.visitAt walk.path.length ⟨[], pattern⟩] := by
  rw [Walk.entering, Array.toList_push, Nat.add_comm]
  rfl

/-- Whether the action records the visits of these spots in the pattern, as far as it comes. The
walk has `entered` nodes of the pattern on its path already. -/
def Reports (pattern : Pattern) (entered : Nat) (spots : List Spot) (action : WalkM String) :
    Prop :=
  ∀ (walk : Walk) (above : Nat), walk.path.length = above + entered → ∃ reached,
    Reaches (fun spot => NestedWithin walk.context.grouped pattern spot.place spot.node) spots
      (action.run.run walk).1 reached ∧
    (action.run.run walk).2.visits.toList =
      walk.visits.toList ++ reached.map (pattern.visitAt above)

theorem reports_pure (pattern : Pattern) (entered : Nat) (text : String) :
    Reports pattern entered [] (pure text) := by
  intro walk above level
  exact ⟨[], .all text (List.forall_mem_nil _), (List.append_nil _).symm⟩

theorem reports_bind {pattern : Pattern} {entered : Nat} {spots others : List Spot}
    {action : WalkM String} {outcome : Context → Except CompileError String}
    {next : String → WalkM String} (first : Reports pattern entered spots action)
    (follows : Walk.Follows action outcome)
    (second : ∀ text, Reports pattern entered others (next text)) :
    Reports pattern entered (spots ++ others) (action >>= next) := by
  intro walk above level
  rcases first walk above level with ⟨reached, reaches, recorded⟩
  rcases follows walk with ⟨visits, left⟩
  simp only [ExceptT.run_bind, StateT.run_bind]
  simp only [left] at reaches recorded ⊢
  cases result : outcome walk.context with
  | error error =>
    rw [result] at reaches
    exact ⟨reached, reaches_append_error others error reaches, recorded⟩
  | ok text =>
    rw [result] at reaches
    rcases second text { walk with visits := visits } above level with ⟨more, goesOn, recordedMore⟩
    refine ⟨reached ++ more, reaches_append_ok others more text reaches goesOn, ?_⟩
    rw [List.map_append, ← List.append_assoc, ← recorded]
    exact recordedMore

theorem reports_map {pattern : Pattern} {entered : Nat} {spots : List Spot} {action : WalkM String}
    {outcome : Context → Except CompileError String} (f : String → String)
    (first : Reports pattern entered spots action) (follows : Walk.Follows action outcome) :
    Reports pattern entered spots (do return f (← action)) := by
  have both := reports_bind first follows fun text => reports_pure pattern entered (f text)
  rw [List.append_nil] at both
  exact both

theorem reports_below {pattern part : Pattern} {way : Place} {action : WalkM String}
    (leads : Leads pattern way part) (ordinary : (pattern.kind == .group) = false)
    (below : Reports part 0 part.tour action) :
    Reports pattern 1 (part.tour.map (·.under way)) action := by
  intro walk above level
  rcases below walk (above + 1) level with ⟨reached, reaches, recorded⟩
  refine ⟨reached.map (·.under way), reaches_under way _ ?_ reaches, ?_⟩
  · intro spot
    rw [Spot.under, leads.nested, ordinary, Bool.or_false]
  · rw [recorded, visits_under leads]

theorem reaches_root {pattern : Pattern} {grouped : Bool} {spots reached : List Spot}
    {outcome : Except CompileError String} (free : (grouped && pattern.kind == .group) = false)
    (reaches : Reaches (fun spot => NestedWithin grouped pattern spot.place spot.node) spots outcome
      reached) :
    Reaches (fun spot => NestedWithin grouped pattern spot.place spot.node)
      (⟨[], pattern⟩ :: spots) outcome (⟨[], pattern⟩ :: reached) := by
  have clear : ∀ spot ∈ ([⟨[], pattern⟩] : List Spot),
      ¬ NestedWithin grouped pattern spot.place spot.node := by
    intro spot member nested
    rw [List.mem_singleton.mp member, nestedWithin_nil] at nested
    simp [nested.1, nested.2.1] at free
  exact reaches_append_ok spots reached "" (.all "" clear) reaches

theorem reports_visiting {pattern : Pattern} {spots : List Spot} {action : WalkM String}
    (ordinary : (pattern.kind == .group) = false) (tour : pattern.tour = ⟨[], pattern⟩ :: spots)
    (inside : Reports pattern 1 spots action) :
    Reports pattern 0 pattern.tour (Walk.visiting pattern.kind action) := by
  intro walk above level
  have base : walk.path.length = above := level
  rcases inside (walk.entering pattern.kind) above (congrArg (· + 1) base) with
    ⟨reached, reaches, recorded⟩
  refine ⟨⟨[], pattern⟩ :: reached, ?_, ?_⟩
  · rw [tour, Walk.run_visiting]
    exact reaches_root (by rw [ordinary, Bool.and_false]) reaches
  · rw [visitAt_entering, base, List.append_assoc] at recorded
    exact recorded

theorem reports_separated (pattern : Pattern) (entered : Nat) (ignored : Names)
    (separator : Separator) (name : String) :
    Reports pattern entered [] (separated ignored separator name) := by
  intro walk above level
  exact ⟨[], .all _ (List.forall_mem_nil _), (List.append_nil _).symm⟩

theorem reports_group (child : Pattern) {action : WalkM String}
    (below : Reports child 0 child.tour action) :
    Reports (group child) 0 (group child).tour (Walk.visiting .group do
      let walk ← get
      if 1 ≤ walk.groups then throw (.nestedGroups (group child))
      Walk.grouped action) := by
  intro walk above level
  have base : walk.path.length = above := level
  have leads : Leads (group child) [0] child := leads_child (group child) child 0 rfl fun _ => rfl
  have record := visitAt_entering (group child) walk
  rw [base] at record
  rw [Walk.run_visiting, tour_group]
  by_cases deep : 1 ≤ walk.groups
  · have inside : walk.context.grouped = true := decide_eq_true deep
    rw [Walk.run_refused child action (walk.entering .group) deep]
    refine ⟨[⟨[], group child⟩], ?_, record⟩
    apply Reaches.first [] ⟨[], group child⟩ _ rfl (List.forall_mem_nil _)
    exact (nestedWithin_nil _ _ _).mpr ⟨inside, rfl, rfl⟩
  · have outside : walk.context.grouped = false := decide_eq_false deep
    rw [Walk.run_outermost child action (walk.entering .group) deep]
    rcases below (walk.entering .group).deeper (above + 1) (congrArg (· + 1) base) with
      ⟨reached, reaches, recorded⟩
    refine ⟨⟨[], group child⟩ :: reached.map (·.under [0]), ?_, ?_⟩
    · apply reaches_root (by rw [outside, Bool.false_and])
      apply reaches_under [0] _ _ reaches
      intro spot
      have around : (walk.context.grouped || (group child).kind == .group) = true :=
        Bool.or_true _
      rw [Walk.context_deeper, Context.group, ← around]
      exact leads.nested walk.context.grouped spot.place spot.node
    · rw [List.map_cons, visits_under leads, List.append_cons, ← record]
      exact recorded

theorem reports_branches (ignored : Names) (done others : List Pattern)
    (below : ∀ branch ∈ others, Reports branch 0 branch.tour (branch.visit ignored)) :
    Reports (or (done ++ others)) 1
      ((branchSpots done.length others).filter fun spot => (or (done ++ others)).comesTo spot.place)
      (visitBranches ignored others) := by
  induction others generalizing done with
  | nil => exact reports_pure _ 1 ""
  | cons branch others ih =>
    have there : (or (done ++ branch :: others)).children[done.length]? = some branch := by
      simp [children]
    have leads : Leads (or (done ++ branch :: others)) [done.length] branch :=
      leads_child _ branch done.length there fun _ => rfl
    have head := reports_below leads rfl (below branch List.mem_cons_self)
    have tail := ih (done ++ [branch]) fun other member =>
      below other (List.mem_cons_of_mem branch member)
    rw [List.length_append, List.append_assoc] at tail
    rw [branchSpots, List.filter_append, filter_under leads]
    apply reports_bind head (follows_visit ignored branch)
    intro leading
    exact reports_map (leading ++ ·) tail (follows_visitBranches ignored others fun other _ =>
      follows_visit ignored other)

/-- A visit reports the tour. Operands that are taken in are not on it, so nothing has to be known
of them. -/
theorem reports_visit (ignored : Names) (pattern : Pattern) :
    Reports pattern 0 pattern.tour (visit ignored pattern) := by
  induction pattern using joint_induction with
  | literal text =>
    exact reports_visiting rfl (tour_terminal _ rfl) (reports_pure _ 1 text)
  | slash => exact reports_visiting rfl (tour_terminal _ rfl) (reports_pure _ 1 "/")
  | dot => exact reports_visiting rfl (tour_terminal _ rfl) (reports_pure _ 1 ".")
  | symbol name => exact reports_visiting rfl (tour_terminal _ rfl) (reports_pure _ 1 _)
  | star child ih =>
    have below := reports_below (leads_child (star child) child 0 rfl fun _ => rfl) rfl ih
    exact reports_visiting rfl (tour_only (star child) child rfl fun _ => rfl) below
  | separated separator name =>
    rw [visit_separated]
    exact reports_visiting rfl (tour_separated separator name)
      (reports_separated _ 1 ignored separator name)
  | splat child => exact reports_visiting rfl (tour_splat child) (reports_pure _ 1 _)
  | splatThen child rest ih =>
    have below := reports_below (leads_rest child rest) rfl ih
    exact reports_visiting rfl (tour_splatThen child rest)
      (reports_map _ below (follows_visit ignored rest))
  | thenSplat first second child ih =>
    have below := reports_below (leads_leading first second child) rfl ih
    exact reports_visiting rfl (tour_thenSplat first second child)
      (reports_map _ below (follows_visit ignored (cat first second)))
  | apart left right apart ihLeft ihRight =>
    have clear := takesIn_apart left right apart
    have leading :=
      reports_below (leads_child (cat left right) left 0 rfl fun _ => clear _) rfl ihLeft
    have following :=
      reports_below (leads_child (cat left right) right 1 rfl fun _ => clear _) rfl ihRight
    rw [visit_apart ignored left right apart]
    apply reports_visiting rfl (tour_apart left right apart)
    apply reports_bind leading (follows_visit ignored left)
    intro first
    exact reports_map (first ++ ·) following (follows_visit ignored right)
  | or branches ih =>
    have tour : (or branches).tour = ⟨[], or branches⟩ ::
        (branchSpots 0 branches).filter fun spot => (or branches).comesTo spot.place := by
      rw [Pattern.tour, spots, List.filter_cons_of_pos (by rw [comesTo])]
    exact reports_visiting rfl tour (reports_branches ignored [] branches ih)
  | group child ih => exact reports_group child ih

theorem firstNested_of_tour (pattern : Pattern) (before after : List Spot) (last : Spot)
    (parts : pattern.tour = before ++ last :: after)
    (clear : ∀ spot ∈ before, ¬ NestedWithin false pattern spot.place spot.node)
    (stop : NestedWithin false pattern last.place last.node) :
    pattern.FirstNested last.place last.node := by
  have nested := (nestedWithin_root pattern last.node last.place).mp stop
  refine ⟨nested.1, nested.2, ?_⟩
  intro place otherNested
  rcases otherNested.1.2 with ⟨child, here⟩
  have member : ⟨place, group child⟩ ∈ pattern.tour :=
    (mem_tour pattern _).mpr ⟨here, comesTo_visitedGroup pattern place otherNested.1⟩
  have ordered := tour_ordered pattern
  rw [parts] at member ordered
  rcases List.mem_append.mp member with early | late
  · exact absurd ((nestedWithin_root pattern _ place).mpr ⟨otherNested, here⟩) (clear _ early)
  · rcases List.mem_cons.mp late with same | later
    · rw [← same]
      exact noLater_refl place
    · exact (List.rel_of_pairwise_cons (List.pairwise_append.mp ordered).2.1 later).1

theorem compilePathLogged_reaches (options : Options) (pattern : Pattern) :
    ∃ reached,
      Reaches (fun spot => NestedWithin false pattern spot.place spot.node) pattern.tour
        (pattern.compilePathLogged options).outcome reached ∧
      (pattern.compilePathLogged options).events =
        reached.map pattern.report := by
  rcases reports_visit options.ignored pattern Walk.start 0 rfl with ⟨reached, reaches, recorded⟩
  refine ⟨reached, reaches, ?_⟩
  calc (pattern.compilePathLogged options).events
    _ = (pattern.walk options.ignored).2.visits.toList.map .visit := rfl
    _ = (reached.map (pattern.visitAt 0)).map .visit := congrArg (List.map Event.visit) recorded
    _ = reached.map pattern.report := List.map_map

/-- The tour has every node that is not taken in once, from left to right and each before what is
below it. A compilation reports the tour, whatever the options are, with the number of nodes on the
tour above each node. Where it fails, it has reported the tour up to the group that the error
tells, which is the first one that stands in another group. -/
theorem compilePathLogged_reports_tour (options : Options) (pattern : Pattern) :
    pattern.tour.Pairwise Spot.Before ∧
    (∀ spot, spot ∈ pattern.tour ↔
      pattern.node? spot.place = some spot.node ∧ pattern.comesTo spot.place = true) ∧
    (∀ text, (pattern.compilePathLogged options).outcome = .ok text →
      (pattern.compilePathLogged options).events =
        pattern.tour.map pattern.report) ∧
    (∀ error, (pattern.compilePathLogged options).outcome = .error error →
      ∃ before last after, pattern.tour = before ++ last :: after ∧
        pattern.FirstNested last.place last.node ∧ error = .nestedGroups last.node ∧
        (pattern.compilePathLogged options).events =
          (before ++ [last]).map pattern.report) ∧
    ∀ other : Options, (pattern.compilePathLogged other).events =
      (pattern.compilePathLogged options).events := by
  rcases compilePathLogged_reaches options pattern with ⟨reached, reaches, reported⟩
  refine ⟨tour_ordered pattern, mem_tour pattern, ?_, ?_, ?_⟩
  · intro text passed
    rw [passed] at reaches
    cases reaches with
    | all text clear => exact reported
  · intro error failed
    rw [failed] at reaches
    cases reaches with
    | first before last after parts clear stop =>
      have nested := firstNested_of_tour pattern before after last parts clear stop
      exact ⟨before, last, after, parts, nested, rfl, reported⟩
  · intro other
    rcases compilePathLogged_reaches other pattern with ⟨otherReached, otherReaches, otherReported⟩
    rw [reported, otherReported, reaches_unique reaches otherReaches]

/-- The slash, the star and the node that holds the star are taken in. What follows them is one
level higher in the walk than in the pattern. -/
example :
    ((cat slash (cat (star (symbol "path")) (group (cat dot (symbol "format"))))).compilePathLogged
      .default).events = [.visit ⟨.cat, 1⟩, .visit ⟨.group, 2⟩, .visit ⟨.cat, 3⟩] := rfl

end Pattern

end RouteTemplate
