import RouteTemplate.Proofs.Template.Visited

/-!
The walk, watched. A watched walk does what the walk does, and writes down how the walk stands as it
comes to each node, and whether its count of groups stays a number of 32 bits. So it can be said at
which place in the pattern the walk knows what.

In the walk over a whole pattern the node on top of the path is of the kind of the parent in the
pattern, although the walk may skip a level, and the count is the number of groups above the node,
of which there is never more than one.
-/

namespace RouteTemplate

/-- A node that the walk comes to, and how the walk stands before it enters the node. -/
structure Sight where
  place : Place
  kind : Kind
  walk : Walk

namespace Sight

def under (way : Place) (sight : Sight) : Sight := { sight with place := way ++ sight.place }

def visit (sight : Sight) : Visit := ⟨sight.kind, sight.walk.path.length + 1⟩

end Sight

structure Watch where
  walk : Walk
  sights : List Sight
  /-- Whether the count of groups has never gone past the largest number of 32 bits nor below
  zero. -/
  inRange : Bool

abbrev WatchM := ExceptT CompileError (StateM Watch)

namespace Watch

def start : Watch := ⟨.start, [], true⟩

def entering (watch : Watch) (kind : Kind) : Watch :=
  ⟨watch.walk.entering kind, watch.sights ++ [⟨[], kind, watch.walk⟩], watch.inRange⟩

def visiting (kind : Kind) (action : WatchM String) : WatchM String :=
  ExceptT.mk fun watch =>
    let (outcome, left) :=
      (action.run.run (watch.entering kind) : Except CompileError String × Watch)
    (outcome, { left with walk := { left.walk with path := left.walk.path.tail } })

def deeper (watch : Watch) : Watch :=
  { watch with
    walk := { watch.walk with groups := watch.walk.groups + 1 }
    inRange := watch.inRange && decide (watch.walk.groups + 1 < Nat.pow 2 32) }

def grouped (action : WatchM String) : WatchM String :=
  ExceptT.mk fun watch =>
    let (outcome, left) := (action.run.run watch.deeper : Except CompileError String × Watch)
    (outcome, { left with
      walk := { left.walk with groups := left.walk.groups - 1 }
      inRange := left.inRange && decide (1 ≤ left.walk.groups) })

def below (way : Place) (action : WatchM String) : WatchM String :=
  ExceptT.mk fun watch =>
    let (outcome, left) :=
      (action.run.run { watch with sights := [] } : Except CompileError String × Watch)
    (outcome, { left with sights := watch.sights ++ left.sights.map (·.under way) })

def separated (ignored : Names) (separator : Separator) (name : String) : WatchM String := do
  let watch ← get
  return placeholder ignored name
    (if watch.walk.fillsGroup then .carrying separator else .after separator)

end Watch

namespace Pattern

mutual

def watch (ignored : Names) : Pattern → WatchM String
  | literal text => Watch.visiting .literal (return text)
  | slash => Watch.visiting .slash (return "/")
  | dot => Watch.visiting .dot (return ".")
  | symbol name => Watch.visiting .symbol (return placeholder ignored name .bare)
  | star child => Watch.visiting .star (Watch.below [0] (watch ignored child))
  | cat left right => Watch.visiting .cat <|
    match left, right with
    | dot, symbol name => Watch.separated ignored .dot name
    | slash, symbol name => Watch.separated ignored .slash name
    | slash, star child => return placeholder ignored child.text .segments
    | slash, cat (star child) rest => do
      let following ← Watch.below [1, 1] (watch ignored rest)
      return placeholder ignored child.text .segments ++ following
    | cat first second, star child => do
      let leading ← Watch.below [0] (watch ignored (cat first second))
      return trimSlashes leading ++ placeholder ignored child.text .segments
    | left, right => do
      let leading ← Watch.below [0] (watch ignored left)
      let following ← Watch.below [1] (watch ignored right)
      return leading ++ following
  | or branches => Watch.visiting .or (watchBranches ignored 0 branches)
  | group child => Watch.visiting .group do
    let seen ← get
    if 1 ≤ seen.walk.groups then throw (.nestedGroups (group child))
    Watch.grouped (Watch.below [0] (watch ignored child))

def watchBranches (ignored : Names) (index : Nat) : List Pattern → WatchM String
  | [] => return ""
  | branch :: others => do
    let leading ← Watch.below [index] (watch ignored branch)
    let following ← watchBranches ignored (index + 1) others
    return leading ++ following

end

def parent? (pattern : Pattern) (place : Place) : Option Pattern :=
  if place = [] then none else pattern.node? place.dropLast

def groupsAbove : Pattern → Place → Nat
  | _, [] => 0
  | pattern, index :: place =>
    (if pattern.kind = .group then 1 else 0) +
      (pattern.children[index]?.map (·.groupsAbove place)).getD 0

theorem node?_append (pattern part : Pattern) (way place : Place)
    (found : pattern.node? way = some part) : pattern.node? (way ++ place) = part.node? place := by
  induction way generalizing pattern with
  | nil => exact congrArg (·.node? place) (Option.some.inj found)
  | cons index way ih =>
    simp only [node?, Option.bind_eq_some_iff] at found
    obtain ⟨child, here, found⟩ := found
    simp only [List.cons_append, node?, here, Option.bind_some]
    exact ih child found

theorem groupsAbove_append (pattern part : Pattern) (way place : Place)
    (found : pattern.node? way = some part) :
    pattern.groupsAbove (way ++ place) = pattern.groupsAbove way + part.groupsAbove place := by
  induction way generalizing pattern with
  | nil =>
    have same : pattern = part := Option.some.inj found
    simp [same, groupsAbove]
  | cons index way ih =>
    simp only [node?, Option.bind_eq_some_iff] at found
    obtain ⟨child, here, found⟩ := found
    simp only [List.cons_append, groupsAbove, here, Option.map_some, Option.getD_some]
    rw [ih child found, Nat.add_assoc]

theorem parent?_append (pattern part : Pattern) (way place : Place)
    (found : pattern.node? way = some part) (lower : place ≠ []) :
    pattern.parent? (way ++ place) = part.parent? place := by
  have longer : way ++ place ≠ [] := by simp [lower]
  rw [parent?, if_neg longer, parent?, if_neg lower, List.dropLast_append_of_ne_nil lower]
  exact node?_append pattern part way _ found

theorem watch_separated (ignored : Names) (separator : Separator) (name : String) :
    watch ignored (cat separator.pattern (symbol name)) =
      Watch.visiting .cat (Watch.separated ignored separator name) := by
  cases separator <;> simp only [Separator.pattern, watch]

theorem watch_apart (ignored : Names) (left right : Pattern) (apart : Apart left right) :
    watch ignored (cat left right) = Watch.visiting .cat do
      let leading ← Watch.below [0] (watch ignored left)
      let following ← Watch.below [1] (watch ignored right)
      return leading ++ following := by
  rw [watch] <;> (intros; subst_vars; exact apart)

/-- What holds of a sight in a pattern that stands below a node of the kind `above` and in so many
groups. -/
structure Sees (pattern : Pattern) (above : Option Kind) (groups : Nat) (sight : Sight) : Prop where
  sameKind : (pattern.node? sight.place).map kind = some sight.kind
  sameParent : sight.walk.path.head? =
    if sight.place = [] then above else (pattern.parent? sight.place).map kind
  counted : sight.walk.groups = groups + pattern.groupsAbove sight.place
  bounded : sight.walk.groups ≤ max 1 groups

end Pattern

namespace Watch

open Pattern (Sees)

/-- Whether the watched action does what the action does, records what the action records, keeps the
count in range, and only sees what it should. -/
def Watches (watched : WatchM String) (action : WalkM String) (seen : Walk → Sight → Prop) : Prop :=
  ∀ watch, ∃ sights,
    watched.run.run watch = ((action.run.run watch.walk).1,
      ⟨(action.run.run watch.walk).2, watch.sights ++ sights, watch.inRange⟩) ∧
    (action.run.run watch.walk).2.visits.toList =
      watch.walk.visits.toList ++ sights.map Sight.visit ∧
    ∀ sight ∈ sights, seen watch.walk sight

def Inside (pattern : Pattern) (walk : Walk) (sight : Sight) : Prop :=
  walk.path.head? = some pattern.kind →
    sight.place ≠ [] ∧ Sees pattern none walk.groups sight

def Outside (pattern : Pattern) (walk : Walk) (sight : Sight) : Prop :=
  Sees pattern walk.path.head? walk.groups sight

theorem watches_pure (value : String) (seen : Walk → Sight → Prop) :
    Watches (pure value) (pure value) seen := by
  intro watch
  refine ⟨[], ?_, ?_, ?_⟩
  · simp
    rfl
  · simp
    rfl
  · simp

theorem watches_bind {watched : WatchM String} {action : WalkM String} (pattern : Pattern)
    {outcome : Context → Except CompileError String}
    {watchedNext : String → WatchM String} {next : String → WalkM String}
    (first : Watches watched action (Inside pattern)) (follows : Walk.Follows action outcome)
    (second : ∀ value, Watches (watchedNext value) (next value) (Inside pattern)) :
    Watches (watched >>= watchedNext) (action >>= next) (Inside pattern) := by
  intro watch
  obtain ⟨sights, run, recorded, seen⟩ := first watch
  obtain ⟨visits, left⟩ := follows watch.walk
  simp only [ExceptT.run_bind, StateT.run_bind, run]
  simp only [left] at recorded ⊢
  cases outcome watch.walk.context with
  | error error => exact ⟨sights, rfl, recorded, seen⟩
  | ok value =>
    obtain ⟨more, run, recordedMore, seenMore⟩ :=
      second value ⟨{ watch.walk with visits := visits }, watch.sights ++ sights, watch.inRange⟩
    refine ⟨sights ++ more, ?_, ?_, ?_⟩
    · rw [← List.append_assoc]
      exact run
    · rw [List.map_append, ← List.append_assoc, ← recorded]
      exact recordedMore
    · intro sight member
      rcases List.mem_append.mp member with early | late
      · exact seen sight early
      · exact seenMore sight late

theorem run_visiting (kind : Kind) (watched : WatchM String) (watch : Watch) :
    (visiting kind watched).run.run watch =
      ((watched.run.run (watch.entering kind)).1,
        { (watched.run.run (watch.entering kind)).2 with
          walk := { (watched.run.run (watch.entering kind)).2.walk with
            path := (watched.run.run (watch.entering kind)).2.walk.path.tail } }) := rfl

theorem run_grouped (watched : WatchM String) (watch : Watch) :
    (grouped watched).run.run watch =
      ((watched.run.run watch.deeper).1,
        { (watched.run.run watch.deeper).2 with
          walk := { (watched.run.run watch.deeper).2.walk with
            groups := (watched.run.run watch.deeper).2.walk.groups - 1 }
          inRange := (watched.run.run watch.deeper).2.inRange &&
            decide (1 ≤ (watched.run.run watch.deeper).2.walk.groups) }) := rfl

theorem run_below (way : Place) (watched : WatchM String) (watch : Watch) :
    (below way watched).run.run watch =
      ((watched.run.run { watch with sights := [] }).1,
        { (watched.run.run { watch with sights := [] }).2 with
          sights := watch.sights ++
            (watched.run.run { watch with sights := [] }).2.sights.map (·.under way) }) := rfl

theorem watches_visiting (pattern : Pattern) {watched : WatchM String} {action : WalkM String}
    (inside : Watches watched action (Inside pattern)) :
    Watches (visiting pattern.kind watched) (Walk.visiting pattern.kind action)
      (Outside pattern) := by
  intro watch
  let sight : Sight := ⟨[], pattern.kind, watch.walk⟩
  obtain ⟨sights, run, recorded, seen⟩ := inside (watch.entering pattern.kind)
  refine ⟨sight :: sights, ?_, ?_, ?_⟩
  · rw [run_visiting, run, List.append_cons watch.sights sight sights]
    rfl
  · refine Eq.trans recorded ?_
    simp [entering, Walk.entering, sight, Sight.visit]
  · intro other member
    rcases List.mem_cons.mp member with rfl | later
    · exact ⟨rfl, rfl, rfl, Nat.le_max_right ..⟩
    · obtain ⟨lower, sees⟩ := seen other later rfl
      have parent := sees.sameParent
      rw [if_neg lower] at parent
      exact ⟨sees.sameKind, by rw [if_neg lower, parent], sees.counted, sees.bounded⟩

theorem sees_under (pattern part : Pattern) (way : Place) (groups : Nat) (sight : Sight)
    (found : pattern.node? way = some part) (lower : way ≠ [])
    (parent : (pattern.parent? way).map Pattern.kind = some pattern.kind)
    (sees : Sees part (some pattern.kind) (groups + pattern.groupsAbove way) sight)
    (bounded : groups + pattern.groupsAbove way ≤ max 1 groups) :
    (sight.under way).place ≠ [] ∧ Sees pattern none groups (sight.under way) := by
  have longer : way ++ sight.place ≠ [] := by simp [lower]
  refine ⟨longer, ?_, ?_, ?_, ?_⟩
  · show (pattern.node? (way ++ sight.place)).map _ = _
    rw [Pattern.node?_append pattern part way _ found]
    exact sees.sameKind
  · show sight.walk.path.head? = if way ++ sight.place = [] then none else
      (pattern.parent? (way ++ sight.place)).map Pattern.kind
    rw [if_neg longer, sees.sameParent]
    by_cases here : sight.place = []
    · rw [if_pos here, here, List.append_nil, parent]
    · rw [if_neg here, Pattern.parent?_append pattern part way _ found here]
  · show sight.walk.groups = groups + pattern.groupsAbove (way ++ sight.place)
    rw [Pattern.groupsAbove_append pattern part way _ found, ← Nat.add_assoc]
    exact sees.counted
  · have := sees.bounded
    show sight.walk.groups ≤ _
    omega

theorem watches_below (pattern part : Pattern) (way : Place) {watched : WatchM String}
    {action : WalkM String} (outside : Watches watched action (Outside part))
    (found : pattern.node? way = some part) (lower : way ≠ [])
    (parent : (pattern.parent? way).map Pattern.kind = some pattern.kind)
    (apart : pattern.groupsAbove way = 0) :
    Watches (below way watched) action (Inside pattern) := by
  intro watch
  obtain ⟨sights, run, recorded, seen⟩ := outside { watch with sights := [] }
  refine ⟨sights.map (·.under way), ?_, ?_, ?_⟩
  · rw [run_below, run]
    rfl
  · rw [recorded, List.map_map]
    rfl
  · intro sight member entered
    obtain ⟨original, among, rfl⟩ := List.mem_map.mp member
    have sees := seen original among
    simp only [Outside, entered] at sees
    apply sees_under pattern part way _ original found lower parent
    · rw [apart]
      exact sees
    · omega

theorem watches_separated (pattern : Pattern) (ignored : Names) (separator : Separator)
    (name : String) :
    Watches (separated ignored separator name) (RouteTemplate.separated ignored separator name)
      (Inside pattern) := by
  intro watch
  refine ⟨[], ?_, ?_, ?_⟩
  · simp
    rfl
  · simp
    rfl
  · simp

theorem watches_group (child : Pattern) {watched : WatchM String} {action : WalkM String}
    {outcome : Context → Except CompileError String} (follows : Walk.Follows action outcome)
    (outside : Watches watched action (Outside child)) :
    Watches (do
        let seen ← get
        if 1 ≤ seen.walk.groups then throw (.nestedGroups (.group child))
        grouped (below [0] watched))
      (do
        let walk ← get
        if 1 ≤ walk.groups then throw (.nestedGroups (.group child))
        Walk.grouped action)
      (Inside (.group child)) := by
  intro watch
  have guardedWatch : (do
      let seen ← get
      if 1 ≤ seen.walk.groups then throw (.nestedGroups (.group child))
      grouped (below [0] watched) : WatchM String).run.run watch =
      (if 1 ≤ watch.walk.groups then throw (.nestedGroups (.group child))
        else grouped (below [0] watched) : WatchM String).run.run watch := rfl
  rw [guardedWatch]
  by_cases deep : 1 ≤ watch.walk.groups
  · rw [if_pos deep, Walk.run_refused child action watch.walk deep]
    refine ⟨[], ?_, ?_, ?_⟩
    · rw [List.append_nil]
      rfl
    · rw [List.map_nil, List.append_nil]
    · simp
  · rw [if_neg deep, Walk.run_outermost child action watch.walk deep]
    have outermost : watch.walk.groups = 0 := by omega
    obtain ⟨sights, run, recorded, seen⟩ := outside { watch.deeper with sights := [] }
    obtain ⟨visits, left⟩ := follows watch.walk.deeper
    refine ⟨sights.map (·.under [0]), ?_, ?_, ?_⟩
    · rw [run_grouped, run_below, run]
      rw [Walk.deeper] at left
      simp only [deeper, Walk.deeper, left]
      simp [outermost]
    · rw [List.map_map]
      exact recorded
    · intro sight member entered
      obtain ⟨original, among, rfl⟩ := List.mem_map.mp member
      have sees := seen original among
      have once : (Pattern.group child).groupsAbove [0] = 1 := rfl
      apply sees_under (.group child) child [0] _ original rfl (List.cons_ne_nil _ _) rfl
      · rw [Outside] at sees
        exact entered ▸ sees
      · omega

theorem watches_watchBranches (ignored : Names) (done others : List Pattern)
    (below : ∀ branch ∈ others,
      Watches (branch.watch ignored) (branch.visit ignored) (Outside branch)) :
    Watches (Pattern.watchBranches ignored done.length others)
      (Pattern.visitBranches ignored others) (Inside (.or (done ++ others))) := by
  induction others generalizing done with
  | nil => exact watches_pure "" _
  | cons branch others ih =>
    have found : (Pattern.or (done ++ branch :: others)).node? [done.length] = some branch := by
      simp [Pattern.node?, Pattern.children]
    have alone : (Pattern.or (done ++ branch :: others)).groupsAbove [done.length] = 0 := by
      simp [Pattern.groupsAbove, Pattern.children, Pattern.kind]
    have head := watches_below _ branch [done.length] (below branch List.mem_cons_self) found
      (List.cons_ne_nil _ _) rfl alone
    have tail := ih (done ++ [branch]) fun other member =>
      below other (List.mem_cons_of_mem branch member)
    rw [List.length_append, List.append_assoc] at tail
    exact watches_bind _ head (Pattern.follows_visit ignored branch) fun leading =>
      watches_bind _ tail (Pattern.follows_visitBranches ignored others fun other _ =>
        Pattern.follows_visit ignored other) fun following => watches_pure _ _

end Watch

namespace Pattern

open Watch (Watches Outside watches_pure watches_bind watches_visiting watches_below)

theorem watches_watch (ignored : Names) (pattern : Pattern) :
    Watches (watch ignored pattern) (visit ignored pattern) (Outside pattern) := by
  induction pattern using joint_induction with
  | literal text => exact watches_visiting (.literal text) (watches_pure text _)
  | slash => exact watches_visiting .slash (watches_pure "/" _)
  | dot => exact watches_visiting .dot (watches_pure "." _)
  | symbol name => exact watches_visiting (.symbol name) (watches_pure _ _)
  | star child ih =>
    exact watches_visiting (.star child)
      (watches_below _ child [0] ih rfl (List.cons_ne_nil _ _) rfl rfl)
  | separated separator name =>
    rw [watch_separated, visit_separated]
    exact watches_visiting (.cat _ _) (Watch.watches_separated _ ignored separator name)
  | splat child => exact watches_visiting (.cat _ _) (watches_pure _ _)
  | splatThen child rest ih =>
    -- The walk skips the inner node, which is a `cat` like the outer one and no group.
    have below := watches_below (cat slash (cat (.star child) rest)) rest [1, 1] ih rfl
      (List.cons_ne_nil _ _) rfl rfl
    exact watches_visiting (.cat _ _) (watches_bind _ below (follows_visit ignored rest)
      fun following => watches_pure _ _)
  | thenSplat first second child ih =>
    have below := watches_below (cat (cat first second) (.star child)) (cat first second) [0] ih rfl
      (List.cons_ne_nil _ _) rfl rfl
    exact watches_visiting (.cat _ _) (watches_bind _ below
      (follows_visit ignored (cat first second)) fun leading => watches_pure _ _)
  | apart left right apart ihLeft ihRight =>
    rw [watch_apart ignored left right apart, visit_apart ignored left right apart]
    have leading :=
      watches_below (cat left right) left [0] ihLeft rfl (List.cons_ne_nil _ _) rfl rfl
    have following := watches_below (cat left right) right [1] ihRight rfl (List.cons_ne_nil _ _)
      rfl rfl
    exact watches_visiting (.cat _ _) (watches_bind _ leading (follows_visit ignored left)
      fun first => watches_bind _ following (follows_visit ignored right)
        fun second => watches_pure _ _)
  | or branches ih =>
    exact watches_visiting (.or branches) (Watch.watches_watchBranches ignored [] branches ih)
  | group child ih =>
    exact watches_visiting (.group child)
      (Watch.watches_group child (follows_visit ignored child) ih)

theorem fillsGroup_entering_iff (walk : Walk) (kind : Kind) :
    (walk.entering kind).fillsGroup = true ↔ kind = .cat ∧ walk.path.head? = some .group := by
  obtain ⟨path, groups, visits⟩ := walk
  cases path with
  | nil => cases kind <;> simp [Walk.entering, Walk.fillsGroup]
  | cons above path =>
    cases kind <;> cases above <;> simp [Walk.entering, Walk.fillsGroup]

theorem sees_root_parent (pattern : Pattern) (groups : Nat) (sight : Sight)
    (sees : Sees pattern none groups sight) :
    sight.walk.path.head? = (pattern.parent? sight.place).map kind := by
  rw [sees.sameParent]
  by_cases here : sight.place = []
  · rw [if_pos here, parent?, if_pos here]
    rfl
  · rw [if_neg here]

/-- A visit is a plain recursion. From any walk it gives what `render` gives for the two questions
whether a group stands right above and whether one stands anywhere above, and it leaves the path and
the count of groups as they were, also where it fails.

In the walk over a whole pattern the answers are those of the pattern. The walk ends as it has
begun, every visit that it records has its sight, and wherever it comes, it takes a `cat` to make up
a group exactly if the parent in the pattern is a group, and its count is the number of groups above
the node, at most one. -/
theorem visit_refines_render (ignored : Names) (pattern : Pattern) :
    (∀ walk : Walk, ∃ visits, (pattern.visit ignored).run.run walk =
      (pattern.render ignored ⟨walk.path.head? == some .group, 1 ≤ walk.groups⟩,
        { walk with visits := visits })) ∧
    ∃ sights, (pattern.watch ignored).run.run Watch.start =
        ((pattern.walk ignored).1, ⟨(pattern.walk ignored).2, sights, true⟩) ∧
      (pattern.walk ignored).2.path = [] ∧ (pattern.walk ignored).2.groups = 0 ∧
      (pattern.walk ignored).2.visits.toList = sights.map Sight.visit ∧
      ∀ sight ∈ sights,
        (pattern.node? sight.place).map kind = some sight.kind ∧
        ((sight.walk.entering sight.kind).fillsGroup = true ↔
          sight.kind = .cat ∧ (pattern.parent? sight.place).map kind = some .group) ∧
        sight.walk.groups = pattern.groupsAbove sight.place ∧ sight.walk.groups ≤ 1 := by
  refine ⟨follows_visit ignored pattern, ?_⟩
  obtain ⟨sights, run, recorded, seen⟩ := watches_watch ignored pattern Watch.start
  obtain ⟨visits, left⟩ := follows_visit ignored pattern Walk.start
  refine ⟨sights, run, congrArg (·.2.path) left, congrArg (·.2.groups) left, recorded, ?_⟩
  intro sight member
  have sees := seen sight member
  refine ⟨sees.sameKind, ?_, ?_, ?_⟩
  · rw [fillsGroup_entering_iff, sees_root_parent pattern 0 sight sees]
  · exact sees.counted.trans (Nat.zero_add _)
  · exact sees.bounded

def everyForm : Pattern :=
  cat (symbol ":a") (cat slash (cat (star (symbol "*b")) (cat (group (cat slash (symbol ":c")))
    (cat (group (cat dot (symbol ":d"))) (cat slash (symbol ":e"))))))

/-- The forms of a placeholder, which are empty for an ignored name, and a visit that fails because
it has come from inside a group. -/
theorem visit_refines_render_forms :
    (∃ visits, (everyForm.visit .empty).run.run .start =
      (.ok "\x7ba\x7d\x7b/b*\x7d\x7b/c\x7d\x7b.d\x7d/\x7be\x7d", ⟨[], 0, visits⟩)) ∧
    (∃ visits, (everyForm.visit (.ofList ["b", "c", "e"])).run.run ⟨[.or], 0, #[]⟩ =
      (.ok "\x7ba\x7d\x7b.d\x7d", ⟨[.or], 0, visits⟩)) ∧
    ∃ visits, (everyForm.visit .empty).run.run ⟨[.star, .group], 1, #[]⟩ =
      (.error (.nestedGroups (group (cat slash (symbol ":c")))), ⟨[.star, .group], 1, visits⟩) := by
  have written : everyForm.render .empty .root =
      .ok "\x7ba\x7d\x7b/b*\x7d\x7b/c\x7d\x7b.d\x7d/\x7be\x7d" := by decide +kernel
  have ignoring : everyForm.render (.ofList ["b", "c", "e"]) .root = .ok "\x7ba\x7d\x7b.d\x7d" := by
    decide +kernel
  have refused : everyForm.render .empty ⟨false, true⟩ =
      .error (.nestedGroups (group (cat slash (symbol ":c")))) := by decide +kernel
  refine ⟨?_, ?_, ?_⟩
  · obtain ⟨visits, run⟩ := (visit_refines_render .empty everyForm).1 .start
    exact ⟨visits, run.trans (congrArg (·, _) written)⟩
  · obtain ⟨visits, run⟩ := (visit_refines_render (.ofList ["b", "c", "e"]) everyForm).1
      ⟨[.or], 0, #[]⟩
    exact ⟨visits, run.trans (congrArg (·, _) ignoring)⟩
  · obtain ⟨visits, run⟩ := (visit_refines_render .empty everyForm).1 ⟨[.star, .group], 1, #[]⟩
    exact ⟨visits, run.trans (congrArg (·, _) refused)⟩

end Pattern

end RouteTemplate
