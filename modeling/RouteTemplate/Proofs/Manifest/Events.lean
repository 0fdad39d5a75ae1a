import RouteTemplate.Proofs.Manifest.Templates
import RouteTemplate.Proofs.Registry.Entries
import RouteTemplate.Proofs.Template.Visits

namespace RouteTemplate

namespace Logged

variable {ε α β : Type} (first : Logged ε α) (next : α → Logged ε β)

theorem events_bind_pure (change : α → β) :
    (first >>= fun value => pure (change value)).events = first.events := by
  rcases first with ⟨outcome, events⟩
  cases outcome with
  | error error => rfl
  | ok value => exact List.append_nil events

theorem events_bind_ok (value : α) (passed : first.outcome = .ok value) :
    (first >>= next).events = first.events ++ (next value).events := by
  rcases first with ⟨outcome, events⟩
  cases passed
  rfl

theorem events_bind_error (error : ε) (failed : first.outcome = .error error) :
    (first >>= next).events = first.events := by
  rcases first with ⟨outcome, events⟩
  cases failed
  rfl

end Logged

namespace Compiler

variable (compiler : Compiler) (pattern : Pattern)

theorem compile_events_ok (template : Template)
    (passed : (compiler.compile pattern).outcome = .ok template) :
    (compiler.compile pattern).events = (pattern.compilePathLogged compiler.options).events ++
      compiler.queryNames.events ++ [.compiledRoute pattern.text template.text] := by
  have names := compiler.queryNames_outcome
  have outcome := compiler.compile_outcome pattern
  rw [passed] at outcome
  cases compiled : pattern.compilePath compiler.options.ignored with
  | error found =>
    rw [compiled] at outcome
    cases outcome
  | ok path =>
    rw [compiled] at outcome
    cases outcome
    rw [compile, Logged.events_bind_ok _ _ path compiled, Logged.events_bind_ok _ _ _ names,
      List.append_assoc]
    rfl

theorem compile_events_error (error : CompileError)
    (failed : (compiler.compile pattern).outcome = .error error) :
    (compiler.compile pattern).events =
      (pattern.compilePathLogged compiler.options).events := by
  have outcome := compiler.compile_outcome pattern
  cases compiled : pattern.compilePath compiler.options.ignored with
  | error found => exact Logged.events_bind_error _ _ found compiled
  | ok path =>
    rw [compiled] at outcome
    cases outcome.symm.trans failed

end Compiler

namespace Manifest

def visits (options : Options) (route : Route) : List Event :=
  (route.path.compilePathLogged options).events

/-- Whether a query is wanted and the route leads to an action that has no names. -/
structure Unregistered (manifest : Manifest) (options : Options) (route : Route)
    (action : Action) : Prop where
  wanted : options.params = true
  leads : route.Leads action
  absent : action ∉ manifest.params.keys

variable (manifest : Manifest) (options : Options)

def notices (route : Route) : List Event :=
  match route.target? with
  | some action =>
    if options.params = true ∧ action ∉ manifest.params.keys then [.unregisteredAction action]
    else []
  | none => []

def told (route : Route × Template) : List Event :=
  visits options route.1 ++ manifest.notices options route.1 ++
    [.compiledRoute route.1.path.text route.2.text]

theorem notices_of_unregistered (route : Route) (action : Action)
    (unregistered : manifest.Unregistered options route action) :
    manifest.notices options route = [.unregisteredAction action] := by
  have target := (route.target?_eq_some action).mpr unregistered.leads
  rw [notices, target]
  exact if_pos ⟨unregistered.wanted, unregistered.absent⟩

theorem notices_of_none (route : Route)
    (none : ∀ action, ¬ manifest.Unregistered options route action) :
    manifest.notices options route = [] := by
  rw [notices]
  cases target : route.target? with
  | none => rfl
  | some action =>
    apply if_neg
    intro due
    exact none action ⟨due.1, (route.target?_eq_some action).mp target, due.2⟩

theorem queryNames_events (route : Route) :
    (Compiler.mk options (some manifest.params.namesFor?) route.target?).queryNames.events =
      manifest.notices options route := by
  rcases options with ⟨ignored, params⟩
  rw [notices]
  cases target : route.target? with
  | none => cases params <;> rfl
  | some action =>
    have leads := (route.target?_eq_some action).mp target
    have complete := (Action.isComplete_iff action).mpr leads.complete
    cases params with
    | false => rfl
    | true =>
      have unknown := Registry.namesFor?_eq_none manifest.params action
      rw [Compiler.queryNames]
      cases names : manifest.params.namesFor? action with
      | none => simp [complete, names, unknown.mp names]; rfl
      | some listed =>
        have known : action ∈ manifest.params.keys := by
          by_contra absent
          cases names.symm.trans (unknown.mpr absent)
        simp [complete, names, known]; rfl

theorem compileRoute_events_ok (route : Route) (template : Template)
    (passed : manifest.own options route = .ok template) :
    (manifest.compileRoute options route).events = manifest.told options (route, template) := by
  rw [compileRoute, Route.compile, Compiler.compile_events_ok _ route.path template passed,
    queryNames_events]
  rfl

theorem compileRoute_events_error (route : Route) (error : CompileError)
    (failed : manifest.own options route = .error error) :
    (manifest.compileRoute options route).events = visits options route :=
  Compiler.compile_events_error _ route.path error failed

theorem templatesOf_events (before others : List Route) (templates : List Template)
    (each : before.map (manifest.own options) = templates.map .ok) :
    (manifest.templatesOf options (before ++ others)).events =
      (before.zip templates).flatMap (manifest.told options) ++
        (manifest.templatesOf options others).events := by
  induction before generalizing templates with
  | nil => rfl
  | cons route before ih =>
    rcases List.map_eq_cons_iff.mp each.symm with ⟨template, rest, rfl, passed, same⟩
    have later := ih rest same.symm
    have own := manifest.compileRoute_events_ok options route template passed.symm
    calc
      (manifest.templatesOf options (route :: before ++ others)).events =
          (manifest.compileRoute options route).events ++
            (manifest.templatesOf options (before ++ others)).events := by
        rw [List.cons_append, templatesOf, Logged.events_bind_ok _ _ template passed.symm,
          Logged.events_bind_pure]
      _ = manifest.told options (route, template) ++
          ((before.zip rest).flatMap (manifest.told options) ++
            (manifest.templatesOf options others).events) := by rw [own, later]
      _ = _ := by rw [List.zip_cons_cons, List.flatMap_cons, List.append_assoc]

theorem templates_events :
    (manifest.templates options).events = .compilingSet manifest.routes.length ::
      (manifest.templatesOf options manifest.routes).events := by
  rw [templates, Logged.events_bind_ok _ _ () rfl]
  rfl

theorem templates_events_ok (templates : List Template)
    (passed : (manifest.templates options).outcome = .ok templates) :
    manifest.routes.map (manifest.own options) = templates.map .ok ∧
      (manifest.templates options).events = .compilingSet manifest.routes.length ::
        (manifest.routes.zip templates).flatMap (manifest.told options) := by
  rw [templates_outcome, mapM_eq_ok] at passed
  have whole := manifest.templatesOf_events options manifest.routes [] templates passed
  have nothing : (manifest.templatesOf options []).events = [] := rfl
  rw [List.append_nil, nothing, List.append_nil] at whole
  exact ⟨passed, by rw [templates_events, whole]⟩

theorem templates_events_error (error : CompileError)
    (failed : (manifest.templates options).outcome = .error error) :
    ∃ before route after templates, manifest.routes = before ++ route :: after ∧
      before.map (manifest.own options) = templates.map .ok ∧
      manifest.own options route = .error error ∧
      (manifest.templates options).events = .compilingSet manifest.routes.length ::
        ((before.zip templates).flatMap (manifest.told options) ++ visits options route) := by
  rw [templates_outcome, mapM_eq_error] at failed
  rcases failed with ⟨before, route, after, parts, passed, failed⟩
  rcases (exists_mapM (manifest.own options) before).mpr passed with ⟨templates, each⟩
  rw [mapM_eq_ok] at each
  have last : (manifest.templatesOf options (route :: after)).events = visits options route := by
    rw [templatesOf, Logged.events_bind_error _ _ error failed,
      manifest.compileRoute_events_error options route error failed]
  have whole := manifest.templatesOf_events options before (route :: after) templates each
  rw [← parts, last] at whole
  exact ⟨before, route, after, templates, parts, each, failed, by rw [templates_events, whole]⟩

theorem not_incomplete_visits (route : Route) (action : Action) :
    .incompleteAction action ∉ visits options route := by
  intro member
  rcases route.path.compilePathLogged_reaches options with ⟨reached, _, reported⟩
  rw [visits, reported] at member
  rcases List.mem_map.mp member with ⟨spot, _, same⟩
  cases same

theorem not_incomplete_told (route : Route × Template) (action : Action) :
    .incompleteAction action ∉ manifest.told options route := by
  intro member
  rcases List.mem_append.mp member with early | last
  · rcases List.mem_append.mp early with visited | noticed
    · exact not_incomplete_visits options route.1 action visited
    · unfold notices at noticed
      split at noticed
      · split at noticed <;> simp at noticed
      · simp at noticed
  · simp at last

theorem not_incomplete_templates (action : Action) :
    .incompleteAction action ∉ (manifest.templates options).events := by
  have untold (routes : List (Route × Template)) :
      .incompleteAction action ∉ routes.flatMap (manifest.told options) := by
    intro member
    rcases List.mem_flatMap.mp member with ⟨route, _, told⟩
    exact manifest.not_incomplete_told options route action told
  intro member
  cases outcome : (manifest.templates options).outcome with
  | ok templates =>
    rw [(manifest.templates_events_ok options templates outcome).2] at member
    rcases List.mem_cons.mp member with start | told
    · cases start
    · exact untold _ told
  | error error =>
    rcases manifest.templates_events_error options error outcome with
      ⟨before, route, after, templates, _, _, _, events⟩
    rw [events] at member
    rcases List.mem_cons.mp member with start | later
    · cases start
    · rcases List.mem_append.mp later with told | visited
      · exact untold _ told
      · exact not_incomplete_visits options route action visited

/-- How the events of compiling all routes are made up. A route that compiles is told with its
template. The first one that does not is seen in its visits alone, and no later one at all. -/
structure Reports : Prop where
  all : ∀ templates, (manifest.templates options).outcome = .ok templates →
    manifest.routes.map (manifest.own options) = templates.map .ok ∧
    (manifest.templates options).events = .compilingSet manifest.routes.length ::
      (manifest.routes.zip templates).flatMap (manifest.told options)
  untilFirst : ∀ error, (manifest.templates options).outcome = .error error →
    ∃ before route after templates, manifest.routes = before ++ route :: after ∧
      before.map (manifest.own options) = templates.map .ok ∧
      manifest.own options route = .error error ∧
      (manifest.templates options).events = .compilingSet manifest.routes.length ::
        ((before.zip templates).flatMap (manifest.told options) ++ visits options route)
  visited : ∀ route, ∃ reached,
    Reaches (fun spot => Pattern.NestedWithin false route.path spot.place spot.node)
      route.path.tour (route.path.compilePath options.ignored) reached ∧
    visits options route = reached.map route.path.report
  noticed : ∀ route action, manifest.Unregistered options route action →
    manifest.notices options route = [.unregisteredAction action]
  unnoticed : ∀ route, (∀ action, ¬ manifest.Unregistered options route action) →
    manifest.notices options route = []
  complete : ∀ action, .incompleteAction action ∉ (manifest.templates options).events

theorem templates_report : manifest.Reports options where
  all := manifest.templates_events_ok options
  untilFirst := manifest.templates_events_error options
  visited route := route.path.compilePathLogged_reaches options
  noticed := manifest.notices_of_unregistered options
  unnoticed := manifest.notices_of_none options
  complete := manifest.not_incomplete_templates options

example :
    let stray : Route := ⟨none, .slash, ⟨some "u", some "i"⟩⟩
    let bad : Route := ⟨none, .group (.group .slash), {}⟩
    ((ofRoutes [stray, bad, stray]).templates .default).events =
      [.compilingSet 3, .visit ⟨.slash, 1⟩, .unregisteredAction ⟨"u", "i"⟩,
        .compiledRoute "/" "/", .visit ⟨.group, 1⟩, .visit ⟨.group, 2⟩] := rfl

end Manifest

end RouteTemplate
