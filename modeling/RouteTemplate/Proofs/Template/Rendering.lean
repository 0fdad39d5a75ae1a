import Mathlib.Data.List.DropRight
import RouteTemplate.Proofs.Pattern.Nodes
import RouteTemplate.Template.Walk

/-!
The walk over a pattern as a plain recursion, a table with one row for each kind of node and for
each pair that is written together. What a visit gives depends on the walk in two respects only:
whether the node right above is a group, and whether there is a group above at all. A visit leaves
both as they were, whether it fails or not.
-/

namespace RouteTemplate

def Separator.pattern : Separator → Pattern
  | slash => .slash
  | dot => .dot

namespace Pattern

/-- Whether a `cat` of the two writes each of them by itself. -/
def Apart : Pattern → Pattern → Prop
  | dot, symbol _ => False
  | slash, symbol _ => False
  | slash, star _ => False
  | slash, cat (star _) _ => False
  | cat _ _, star _ => False
  | _, _ => True

/-- Induction with one case for each way to write a `cat`. Where the operands are written together,
nothing is assumed of the ones that are not visited. -/
@[elab_as_elim]
theorem joint_induction {motive : Pattern → Prop}
    (literal : ∀ text, motive (literal text)) (slash : motive slash) (dot : motive dot)
    (symbol : ∀ name, motive (symbol name))
    (star : ∀ child, motive child → motive (star child))
    (separated : ∀ (separator : Separator) name, motive (cat separator.pattern (.symbol name)))
    (splat : ∀ child, motive (cat .slash (.star child)))
    (splatThen : ∀ child rest, motive rest → motive (cat .slash (cat (.star child) rest)))
    (thenSplat : ∀ first second child, motive (cat first second) →
      motive (cat (cat first second) (.star child)))
    (apart : ∀ left right, Apart left right → motive left → motive right → motive (cat left right))
    (or : ∀ branches, (∀ branch ∈ branches, motive branch) → motive (or branches))
    (group : ∀ child, motive child → motive (group child)) (pattern : Pattern) :
    motive pattern := by
  refine visit.induct motive (fun branches => ∀ branch ∈ branches, motive branch)
    literal slash dot symbol star ?_ or group ?_ ?_ pattern
  · intro left right below
    split at below
    · exact separated .dot _
    · exact separated .slash _
    · exact splat _
    · exact splatThen _ _ below
    · exact thenSplat _ _ _ below
    · refine apart left right ?_ below.1 below.2
      unfold Apart
      split <;> simp_all
  · simp
  · intro branch others head tail
    exact List.forall_mem_cons.mpr ⟨head, tail⟩

end Pattern

/-- What the template of a node depends on, apart from the node. -/
structure Context where
  fillsGroup : Bool
  grouped : Bool
  deriving DecidableEq, Repr

namespace Context

def root : Context := ⟨false, false⟩

def group : Context := ⟨true, true⟩

def within (context : Context) : Context := ⟨false, context.grouped⟩

def form (context : Context) (separator : Separator) : Form :=
  if context.fillsGroup then .carrying separator else .after separator

end Context

namespace Pattern

/-- A name without the marks that it carries in a route. -/
def bareName (letters : List Char) : String :=
  String.ofList (letters.filter fun c => c ≠ '*' ∧ c ≠ ':')

/-- An expression for the name that the letters write; nothing at all if the name is ignored. -/
def expression (ignored : Names) (letters : List Char) (before after : String) : String :=
  if bareName letters ∈ ignored.toList then "" else before ++ bareName letters ++ after

mutual

def render (ignored : Names) (context : Context) : Pattern → Except CompileError String
  | literal text => .ok text
  | slash => .ok "/"
  | dot => .ok "."
  | symbol name => .ok (expression ignored name.toList "\x7b" "\x7d")
  | star child => render ignored context.within child
  | cat left right =>
    match left, right with
    | dot, symbol name =>
      if context.fillsGroup then .ok (expression ignored name.toList "\x7b." "\x7d")
      else .ok (expression ignored name.toList ".\x7b" "\x7d")
    | slash, symbol name =>
      if context.fillsGroup then .ok (expression ignored name.toList "\x7b/" "\x7d")
      else .ok (expression ignored name.toList "/\x7b" "\x7d")
    | slash, star child => .ok (expression ignored child.letters "\x7b/" "*\x7d")
    | slash, cat (star child) rest => do
      let following ← render ignored context.within rest
      return expression ignored child.letters "\x7b/" "*\x7d" ++ following
    | cat first second, star child => do
      let leading ← render ignored context.within (cat first second)
      return String.ofList (leading.toList.rdropWhile (· == '/')) ++
        expression ignored child.letters "\x7b/" "*\x7d"
    | left, right => do
      let leading ← render ignored context.within left
      let following ← render ignored context.within right
      return leading ++ following
  | or branches => renderBranches ignored context.within branches
  | group child =>
    if context.grouped then .error (.nestedGroups (group child)) else render ignored .group child

def renderBranches (ignored : Names) (context : Context) :
    List Pattern → Except CompileError String
  | [] => .ok ""
  | branch :: others => do
    let leading ← render ignored context branch
    let following ← renderBranches ignored context others
    return leading ++ following

end

variable (ignored : Names) (context : Context)

theorem visit_separated (separator : Separator) (name : String) :
    visit ignored (cat separator.pattern (symbol name)) =
      Walk.visiting .cat (separated ignored separator name) := by
  cases separator <;> simp only [Separator.pattern, visit]

theorem visit_apart (left right : Pattern) (apart : Apart left right) :
    visit ignored (cat left right) = Walk.visiting .cat do
      let leading ← visit ignored left
      let following ← visit ignored right
      return leading ++ following := by
  rw [visit] <;> (intros; subst_vars; exact apart)

theorem placeholder_eq (name before after : String) (form : Form)
    (written : ∀ bare, form.write bare = before ++ bare ++ after) :
    placeholder ignored name form = expression ignored name.toList before after := by
  have marks : undecorated name = bareName name.toList := by
    rw [undecorated, bareName]
    congr 2
    funext c
    simp [isMark, beq_eq_decide]
  rw [placeholder, expression, written, marks]
  simp only [Names.contains, List.contains_iff_mem]

theorem render_symbol (name : String) :
    render ignored context (symbol name) = .ok (placeholder ignored name .bare) := by
  rw [render, placeholder_eq ignored name _ _ .bare fun _ => rfl]

theorem placeholder_splat (child : Pattern) :
    placeholder ignored child.text .segments =
      expression ignored child.letters "\x7b/" "*\x7d" := by
  rw [placeholder_eq ignored child.text _ _ .segments fun _ => rfl, text_letters]

theorem render_splat (child : Pattern) :
    render ignored context (cat slash (star child)) =
      .ok (placeholder ignored child.text .segments) := by
  rw [render, placeholder_splat]

theorem render_splatThen (child rest : Pattern) :
    render ignored context (cat slash (cat (star child) rest)) = (do
      let following ← render ignored context.within rest
      return placeholder ignored child.text .segments ++ following) := by
  rw [render, placeholder_splat]

theorem render_thenSplat (first second child : Pattern) :
    render ignored context (cat (cat first second) (star child)) = (do
      let leading ← render ignored context.within (cat first second)
      return trimSlashes leading ++ placeholder ignored child.text .segments) := by
  rw [render, placeholder_splat]
  rfl

theorem render_separated (separator : Separator) (name : String) :
    render ignored context (cat separator.pattern (symbol name)) =
      .ok (placeholder ignored name (context.form separator)) := by
  cases separator <;> cases fills : context.fillsGroup
  all_goals
    rw [Separator.pattern, render, Context.form, fills]
    apply congrArg Except.ok
    symm
    apply placeholder_eq
    intro bare
    rfl

theorem render_apart (left right : Pattern) (apart : Apart left right) :
    render ignored context (cat left right) = (do
      let leading ← render ignored context.within left
      let following ← render ignored context.within right
      return leading ++ following) := by
  rw [render] <;> (intros; subst_vars; exact apart)

end Pattern

namespace Walk

def context (walk : Walk) : Context := ⟨walk.path.head? == some .group, 1 ≤ walk.groups⟩

variable {α β : Type}

/-- Whether the outcome of the action is a matter of the context alone, and the action leaves the
path and the count of groups as they were. -/
def Follows (action : WalkM α) (outcome : Context → Except CompileError α) : Prop :=
  ∀ walk, ∃ visits, action.run.run walk = (outcome walk.context, { walk with visits := visits })

theorem follows_pure (value : α) : Follows (pure value) fun _ => .ok value := by
  intro walk
  exact ⟨walk.visits, rfl⟩

theorem follows_bind {action : WalkM α} {outcome : Context → Except CompileError α}
    {next : α → WalkM β} {nextOutcome : α → Context → Except CompileError β}
    (first : Follows action outcome)
    (second : ∀ value, Follows (next value) (nextOutcome value)) :
    Follows (action >>= next) fun context => outcome context >>= (nextOutcome · context) := by
  intro walk
  obtain ⟨visits, run⟩ := first walk
  simp only [ExceptT.run_bind, StateT.run_bind, run]
  cases outcome walk.context with
  | error error => exact ⟨visits, rfl⟩
  | ok value => exact second value { walk with visits := visits }

def entering (walk : Walk) (kind : Kind) : Walk :=
  ⟨kind :: walk.path, walk.groups, walk.visits.push ⟨kind, walk.path.length + 1⟩⟩

theorem run_visiting (kind : Kind) (action : WalkM String) (walk : Walk) :
    (visiting kind action).run.run walk =
      ((action.run.run (walk.entering kind)).1,
        { (action.run.run (walk.entering kind)).2 with
          path := (action.run.run (walk.entering kind)).2.path.tail }) := rfl

theorem context_entering (walk : Walk) (kind : Kind) :
    (walk.entering kind).context = ⟨kind == .group, walk.context.grouped⟩ := rfl

theorem fillsGroup_entering_cat (walk : Walk) :
    (walk.entering .cat).fillsGroup = walk.context.fillsGroup := by
  obtain ⟨path, groups, visits⟩ := walk
  cases path with
  | nil => rfl
  | cons above path => cases above <;> rfl

theorem follows_visiting (kind : Kind) (ordinary : kind ≠ .group) {action : WalkM String}
    {outcome : Context → Except CompileError String} (follows : Follows action outcome) :
    Follows (visiting kind action) fun context => outcome context.within := by
  intro walk
  obtain ⟨visits, run⟩ := follows (walk.entering kind)
  have outside : (kind == .group) = false := beq_eq_false_iff_ne.mpr ordinary
  refine ⟨visits, ?_⟩
  rw [run_visiting, run, context_entering, outside]
  rfl

theorem follows_separated (ignored : Names) (separator : Separator) (name : String) :
    Follows (visiting .cat (separated ignored separator name)) fun context =>
      .ok (placeholder ignored name (context.form separator)) := by
  intro walk
  refine ⟨(walk.entering .cat).visits, ?_⟩
  simp only [Context.form, ← fillsGroup_entering_cat walk]
  rfl

def deeper (walk : Walk) : Walk := { walk with groups := walk.groups + 1 }

theorem run_guarded (child : Pattern) (action : WalkM String) (walk : Walk) :
    (do
      let walk ← get
      if 1 ≤ walk.groups then throw (.nestedGroups (.group child))
      grouped action : WalkM String).run.run walk =
    (if 1 ≤ walk.groups then throw (.nestedGroups (.group child))
      else grouped action : WalkM String).run.run walk := rfl

theorem run_refused (child : Pattern) (action : WalkM String) (walk : Walk)
    (deep : 1 ≤ walk.groups) :
    (do
      let walk ← get
      if 1 ≤ walk.groups then throw (.nestedGroups (.group child))
      grouped action : WalkM String).run.run walk =
    (.error (.nestedGroups (.group child)), walk) := by
  rw [run_guarded, if_pos deep]
  rfl

theorem run_outermost (child : Pattern) (action : WalkM String) (walk : Walk)
    (outermost : ¬ 1 ≤ walk.groups) :
    (do
      let walk ← get
      if 1 ≤ walk.groups then throw (.nestedGroups (.group child))
      grouped action : WalkM String).run.run walk =
    ((action.run.run walk.deeper).1, { (action.run.run walk.deeper).2 with
      groups := (action.run.run walk.deeper).2.groups - 1 }) := by
  rw [run_guarded, if_neg outermost]
  rfl

theorem context_deeper (walk : Walk) : (walk.entering .group).deeper.context = .group := by
  simp [deeper, entering, context, Context.group]

theorem follows_group (child : Pattern) {action : WalkM String}
    {outcome : Context → Except CompileError String} (follows : Follows action outcome) :
    Follows (visiting .group do
        let walk ← get
        if 1 ≤ walk.groups then throw (.nestedGroups (.group child))
        grouped action) fun context =>
      if context.grouped then .error (.nestedGroups (.group child)) else outcome .group := by
  intro walk
  rw [run_visiting]
  by_cases deep : 1 ≤ walk.groups
  · have inside : walk.context.grouped = true := decide_eq_true deep
    refine ⟨(walk.entering .group).visits, ?_⟩
    rw [run_refused child action (walk.entering .group) deep]
    simp only [inside, if_true]
    rfl
  · have outside : walk.context.grouped = false := decide_eq_false deep
    -- The count goes up on the way in and down on the way out, so the action starts here.
    obtain ⟨visits, run⟩ := follows (walk.entering .group).deeper
    refine ⟨visits, ?_⟩
    rw [run_outermost child action (walk.entering .group) deep, run, context_deeper]
    simp only [outside, Bool.false_eq_true, if_false]
    rfl

end Walk

namespace Pattern

open Walk (Follows follows_pure follows_bind follows_visiting)

theorem follows_visitBranches (ignored : Names) (branches : List Pattern)
    (below : ∀ branch ∈ branches, Follows (visit ignored branch) fun context =>
      render ignored context branch) :
    Follows (visitBranches ignored branches) fun context =>
      renderBranches ignored context branches := by
  induction branches with
  | nil => exact follows_pure ""
  | cons branch others ih =>
    have head := below branch List.mem_cons_self
    have tail := ih fun other member => below other (List.mem_cons_of_mem branch member)
    exact follows_bind head fun leading =>
      follows_bind tail fun following => follows_pure (leading ++ following)

theorem follows_visit (ignored : Names) (pattern : Pattern) :
    Follows (visit ignored pattern) fun context => render ignored context pattern := by
  induction pattern using joint_induction with
  | literal text => exact follows_visiting .literal (by decide) (follows_pure text)
  | slash => exact follows_visiting .slash (by decide) (follows_pure "/")
  | dot => exact follows_visiting .dot (by decide) (follows_pure ".")
  | symbol name =>
    simp only [render_symbol]
    exact follows_visiting .symbol (by decide) (follows_pure _)
  | star child ih => exact follows_visiting .star (by decide) ih
  | separated separator name =>
    rw [visit_separated]
    simp only [render_separated]
    exact Walk.follows_separated ignored separator name
  | splat child =>
    simp only [render_splat]
    exact follows_visiting .cat (by decide) (follows_pure _)
  | splatThen child rest ih =>
    simp only [render_splatThen]
    exact follows_visiting .cat (by decide) (follows_bind ih fun following => follows_pure _)
  | thenSplat first second child ih =>
    simp only [render_thenSplat]
    exact follows_visiting .cat (by decide) (follows_bind ih fun leading => follows_pure _)
  | apart left right apart ihLeft ihRight =>
    rw [visit_apart ignored left right apart]
    simp only [render_apart ignored _ left right apart]
    exact follows_visiting .cat (by decide)
      (follows_bind ihLeft fun leading =>
        follows_bind ihRight fun following => follows_pure (leading ++ following))
  | or branches ih =>
    exact follows_visiting .or (by decide) (follows_visitBranches ignored branches ih)
  | group child ih => exact Walk.follows_group child ih

theorem compilePath_eq_render (ignored : Names) (pattern : Pattern) :
    pattern.compilePath ignored = pattern.render ignored .root := by
  obtain ⟨visits, run⟩ := follows_visit ignored pattern Walk.start
  exact congrArg Prod.fst run

end Pattern

end RouteTemplate
