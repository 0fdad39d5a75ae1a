import RouteTemplate.Proofs.FirstFailure
import RouteTemplate.Proofs.OrderedMap
import RouteTemplate.Proofs.Route.Compiling

namespace RouteTemplate

namespace Manifest

/-- The template of a route by itself. -/
def own (manifest : Manifest) (options : Options) (route : Route) : Except CompileError Template :=
  (manifest.compileRoute options route).outcome

theorem templatesOf_outcome (manifest : Manifest) (options : Options) (routes : List Route) :
    (manifest.templatesOf options routes).outcome = routes.mapM (manifest.own options) := by
  induction routes with
  | nil => rfl
  | cons route routes ih =>
    rw [templatesOf, List.mapM_cons, Logged.outcome_bind]
    simp only [Logged.outcome_bind, ih]
    rfl

theorem templates_outcome (manifest : Manifest) (options : Options) :
    (manifest.templates options).outcome = manifest.routes.mapM (manifest.own options) := by
  rw [templates, Logged.outcome_bind, templatesOf_outcome]
  rfl

def namedRoutes (routes : List Route) : List Route := routes.filter fun route => route.name.isSome

def named (routes : List Route) : List (String × Route) :=
  routes.filterMap fun route => route.name.map fun name => (name, route)

theorem namedTemplatesOf_outcome (manifest : Manifest) (options : Options) (routes : List Route)
    (found : OrderedMap String Template) :
    (manifest.namedTemplatesOf options found routes).outcome = (do
      let templates ← ((named routes).map Prod.snd).mapM (manifest.own options)
      return found.insertAll (((named routes).map Prod.fst).zip templates)) := by
  induction routes generalizing found with
  | nil => rfl
  | cons route routes ih =>
    obtain ⟨name, path, defaults⟩ := route
    cases name with
    | none => exact ih found
    | some name =>
      show (manifest.compileRoute options ⟨some name, path, defaults⟩ >>= fun template =>
        manifest.namedTemplatesOf options (found.insert name template) routes).outcome = _
      have first : named (⟨some name, path, defaults⟩ :: routes) =
        (name, ⟨some name, path, defaults⟩) :: named routes := rfl
      rw [Logged.outcome_bind, first, List.map_cons, List.mapM_cons, bind_assoc]
      congr 1
      funext template
      rw [ih, bind_assoc]
      rfl

theorem lastValue?_named (manifest : Manifest) (name : String) :
    lastValue? (named manifest.routes) name = manifest.route? name := by
  obtain ⟨routes, params⟩ := manifest
  show lastValue? (named routes) name = routes.reverse.find? fun route => route.name == some name
  -- The last route decides for both sides, so the list is taken apart from its end.
  induction routes using List.reverseRecOn with
  | nil => rfl
  | append_singleton earlier last ih =>
    have split : named (earlier ++ [last]) = named earlier ++ named [last] := List.filterMap_append
    rw [List.reverse_concat, List.find?_cons, split, ← ih]
    obtain ⟨given, path, defaults⟩ := last
    cases given with
    | none => exact congrArg (lastValue? · name) (List.append_nil _)
    | some given =>
      have single : named [⟨some given, path, defaults⟩] =
        [(given, ⟨some given, path, defaults⟩)] := rfl
      rw [single, lastValue?_concat]
      by_cases same : given = name
      · simp [same]
      · simp [same, beq_eq_false_iff_ne.mpr same]

theorem named_names (routes : List Route) :
    (named routes).map Prod.fst = routes.filterMap Route.name := by
  rw [named, List.map_filterMap]
  congr 1
  funext route
  cases route.name <;> rfl

theorem named_routes (routes : List Route) :
    (named routes).map Prod.snd = namedRoutes routes := by
  rw [named, namedRoutes, List.map_filterMap, ← List.filterMap_eq_filter]
  congr 1
  funext route
  cases given : route.name <;> simp [Option.guard, given]

theorem templateFor_outcome (manifest : Manifest) (options : Options) (name : String) :
    (manifest.templateFor options name).outcome =
      match manifest.route? name with
      | some route => (manifest.own options route).mapError .compile
      | none => .error (.unknownRoute name) := by
  rw [templateFor]
  cases manifest.route? name <;> rfl

/-- Whether the route is the last one of that name. -/
def IsLast (routes : List Route) (name : String) (route : Route) : Prop :=
  ∃ before after, routes = before ++ route :: after ∧ route.name = some name ∧
    ∀ later ∈ after, later.name ≠ some name

theorem route?_eq_some (manifest : Manifest) (name : String) (route : Route) :
    manifest.route? name = some route ↔ IsLast manifest.routes name route := by
  rw [route?, List.find?_eq_some_iff_append]
  simp only [beq_iff_eq, List.reverse_eq_append_iff, Bool.not_eq_eq_eq_not, Bool.not_true,
    beq_eq_false_iff_ne]
  constructor
  · intro found
    obtain ⟨here, after, before, split, later⟩ := found
    refine ⟨before.reverse, after.reverse, ?_, here, ?_⟩
    · rw [split, List.reverse_cons, List.append_assoc, List.singleton_append]
    · intro route member
      exact later route (List.mem_reverse.mp member)
  · intro found
    obtain ⟨before, after, split, here, later⟩ := found
    refine ⟨here, after.reverse, before.reverse, ?_, ?_⟩
    · rw [split, List.reverse_cons, List.reverse_reverse, List.reverse_reverse, List.append_assoc,
        List.singleton_append]
    · intro route member
      exact later route (List.mem_reverse.mp member)

theorem route?_eq_none (manifest : Manifest) (name : String) :
    manifest.route? name = none ↔ ∀ route ∈ manifest.routes, route.name ≠ some name := by
  rw [route?, List.find?_eq_none]
  simp

theorem namedTemplates_outcome (manifest : Manifest) (options : Options) :
    (manifest.namedTemplates options).outcome = (do
      let templates ← (namedRoutes manifest.routes).mapM (manifest.own options)
      return OrderedMap.empty.insertAll
        ((manifest.routes.filterMap Route.name).zip templates)) := by
  rw [namedTemplates, namedTemplatesOf_outcome, named_names, named_routes]

theorem namedTemplates_eq_error (manifest : Manifest) (options : Options) (error : CompileError) :
    (manifest.namedTemplates options).outcome = .error error ↔
      FirstFailure (manifest.own options) (namedRoutes manifest.routes) error := by
  rw [namedTemplates_outcome, ← mapM_eq_error]
  cases (namedRoutes manifest.routes).mapM (manifest.own options) <;>
    simp [bind, Except.bind, pure, Except.pure]

theorem namedTemplates_eq_ok (manifest : Manifest) (options : Options)
    (found : OrderedMap String Template) :
    (manifest.namedTemplates options).outcome = .ok found ↔
      ∃ templates, (namedRoutes manifest.routes).map (manifest.own options) = templates.map .ok ∧
        found = OrderedMap.empty.insertAll
          ((manifest.routes.filterMap Route.name).zip templates) := by
  simp only [namedTemplates_outcome, ← mapM_eq_ok]
  cases (namedRoutes manifest.routes).mapM (manifest.own options) <;>
    simp [bind, Except.bind, pure, Except.pure, eq_comm]

theorem entries_own (manifest : Manifest) (options : Options) (templates : List Template)
    (each : (namedRoutes manifest.routes).map (manifest.own options) = templates.map .ok) :
    ((manifest.routes.filterMap Route.name).zip templates).map
        (fun entry => (entry.1, (Except.ok entry.2 : Except CompileError Template))) =
      (named manifest.routes).map fun entry => (entry.1, manifest.own options entry.2) := by
  calc
    _ = (manifest.routes.filterMap Route.name).zip (templates.map .ok) := by
      rw [List.zip_map_right]
      rfl
    _ = ((named manifest.routes).map Prod.fst).zip
        (((named manifest.routes).map Prod.snd).map (manifest.own options)) := by
      rw [named_names, named_routes, each]
    _ = _ := by
      rw [List.map_map, List.zip_map']
      rfl

theorem namedTemplates_keys (manifest : Manifest) (options : Options)
    (found : OrderedMap String Template)
    (accepted : (manifest.namedTemplates options).outcome = .ok found) :
    found.keys = (manifest.routes.filterMap Route.name).eraseDups := by
  obtain ⟨templates, each, rfl⟩ := (namedTemplates_eq_ok manifest options found).mp accepted
  have names := congrArg (List.map Prod.fst) (entries_own manifest options templates each)
  rw [List.map_map, List.map_map] at names
  rw [OrderedMap.keys_insertAll, ← named_names]
  rw [← named_names] at names
  exact congrArg List.eraseDups names

theorem namedTemplates_find? (manifest : Manifest) (options : Options)
    (found : OrderedMap String Template)
    (accepted : (manifest.namedTemplates options).outcome = .ok found) (name : String) :
    (found.find? name).map .ok = (manifest.route? name).map (manifest.own options) := by
  obtain ⟨templates, each, rfl⟩ := (namedTemplates_eq_ok manifest options found).mp accepted
  have last := congrArg (lastValue? · name) (entries_own manifest options templates each)
  simp only [lastValue?_map, lastValue?_named] at last
  rw [OrderedMap.find?_insertAll, ← last]
  exact congrArg _ Option.or_none

theorem templateFor_eq_ok (manifest : Manifest) (options : Options) (name : String)
    (template : Template) :
    (manifest.templateFor options name).outcome = .ok template ↔
      ∃ route, manifest.route? name = some route ∧ manifest.own options route = .ok template := by
  rw [templateFor_outcome]
  cases manifest.route? name with
  | none => simp
  | some route =>
    show (manifest.own options route).mapError ManifestError.compile = .ok template ↔ _
    simp only [mapError_eq_ok, Option.some.injEq, exists_eq_left']

theorem templateFor_eq_unknownRoute (manifest : Manifest) (options : Options)
    (name other : String) :
    (manifest.templateFor options name).outcome = .error (.unknownRoute other) ↔
      name = other ∧ ∀ route ∈ manifest.routes, route.name ≠ some name := by
  rw [templateFor_outcome, ← route?_eq_none]
  cases manifest.route? name with
  | none => simp
  | some route =>
    show (manifest.own options route).mapError ManifestError.compile =
      .error (.unknownRoute other) ↔ _
    simp [mapError_eq_error]

/-- How the templates of a manifest, those of its named routes and that of one name hang together.
Of the routes of one name only the last gives a template, but all of them have to compile for the
named routes to do so. -/
structure Agree (manifest : Manifest) (options : Options) : Prop where
  each : (∃ templates, (manifest.templates options).outcome = .ok templates) ↔
    ∀ route ∈ manifest.routes, ∃ template, manifest.own options route = .ok template
  all : ∀ templates, (manifest.templates options).outcome = .ok templates ↔
    manifest.routes.map (manifest.own options) = templates.map .ok
  firstOfAll : ∀ error, (manifest.templates options).outcome = .error error ↔
    FirstFailure (manifest.own options) manifest.routes error
  named : (∃ found, (manifest.namedTemplates options).outcome = .ok found) ↔
    ∀ route ∈ manifest.routes, route.name ≠ none →
      ∃ template, manifest.own options route = .ok template
  firstOfNamed : ∀ error, (manifest.namedTemplates options).outcome = .error error ↔
    FirstFailure (manifest.own options) (namedRoutes manifest.routes) error
  names : ∀ found, (manifest.namedTemplates options).outcome = .ok found →
    found.keys = (manifest.routes.filterMap Route.name).eraseDups
  values : ∀ found, (manifest.namedTemplates options).outcome = .ok found →
    ∀ name template, found.find? name = some template ↔
      (manifest.templateFor options name).outcome = .ok template
  last : ∀ name route, IsLast manifest.routes name route →
    (manifest.templateFor options name).outcome =
      (manifest.own options route).mapError .compile
  unknown : ∀ name other, (manifest.templateFor options name).outcome =
    .error (.unknownRoute other) ↔
      name = other ∧ ∀ route ∈ manifest.routes, route.name ≠ some name
  follow : ∀ templates, (manifest.templates options).outcome = .ok templates →
    (∃ found, (manifest.namedTemplates options).outcome = .ok found) ∧
    ∀ before route after name, manifest.routes = before ++ route :: after →
      route.name = some name → (∀ later ∈ after, later.name ≠ some name) →
      ∃ template, templates[before.length]? = some template ∧
        (manifest.templateFor options name).outcome = .ok template
  only : ∀ (other : Manifest) name route, other.params = manifest.params →
    IsLast manifest.routes name route → IsLast other.routes name route →
    other.templateFor options name = manifest.templateFor options name

theorem exists_namedTemplates (manifest : Manifest) (options : Options) :
    (∃ found, (manifest.namedTemplates options).outcome = .ok found) ↔
      ∀ route ∈ manifest.routes, route.name ≠ none →
        ∃ template, manifest.own options route = .ok template := by
  have named : (∃ found, (manifest.namedTemplates options).outcome = .ok found) ↔
      ∃ templates, (namedRoutes manifest.routes).mapM (manifest.own options) = .ok templates := by
    simp only [namedTemplates_eq_ok, mapM_eq_ok]
    constructor
    · intro accepted
      obtain ⟨_, templates, each, _⟩ := accepted
      exact ⟨templates, each⟩
    · intro accepted
      obtain ⟨templates, each⟩ := accepted
      exact ⟨_, templates, each, rfl⟩
  rw [named, exists_mapM]
  simp only [namedRoutes, List.mem_filter, and_imp, Option.isSome_iff_ne_none]

theorem templates_get (manifest : Manifest) (options : Options) (templates : List Template)
    (each : manifest.routes.map (manifest.own options) = templates.map .ok)
    (before after : List Route) (route : Route)
    (split : manifest.routes = before ++ route :: after) :
    ∃ template, templates[before.length]? = some template ∧
      manifest.own options route = .ok template := by
  have here := congrArg (·[before.length]?) each
  simp only [List.getElem?_map] at here
  have there : manifest.routes[before.length]? = some route := by
    rw [split, List.getElem?_append_right (Nat.le_refl _), Nat.sub_self]
    rfl
  rw [there] at here
  obtain ⟨template, found, same⟩ := Option.map_eq_some_iff.mp here.symm
  exact ⟨template, found, same.symm⟩

theorem templateFor_only (manifest other : Manifest) (options : Options) (name : String)
    (route : Route) (same : other.params = manifest.params)
    (last : IsLast manifest.routes name route) (lastOther : IsLast other.routes name route) :
    other.templateFor options name = manifest.templateFor options name := by
  rw [templateFor, templateFor, (route?_eq_some manifest name route).mpr last,
    (route?_eq_some other name route).mpr lastOther]
  show (other.compileRoute options route).mapError _ =
    (manifest.compileRoute options route).mapError _
  rw [compileRoute, compileRoute, same]

theorem templates_agree (manifest : Manifest) (options : Options) : manifest.Agree options where
  each := by
    rw [templates_outcome]
    exact exists_mapM (manifest.own options) manifest.routes
  all templates := by
    rw [templates_outcome, mapM_eq_ok]
  firstOfAll error := by
    rw [templates_outcome, mapM_eq_error]
  named := exists_namedTemplates manifest options
  firstOfNamed := namedTemplates_eq_error manifest options
  names := namedTemplates_keys manifest options
  values := by
    intro found accepted name template
    have same := namedTemplates_find? manifest options found accepted name
    rw [templateFor_eq_ok, ← Option.map_eq_some_iff, ← same]
    simp
  last := by
    intro name route last
    rw [templateFor_outcome, (route?_eq_some manifest name route).mpr last]
  unknown := templateFor_eq_unknownRoute manifest options
  follow := by
    intro templates accepted
    rw [templates_outcome] at accepted
    have each := (mapM_eq_ok _ _ _).mp accepted
    refine ⟨(exists_namedTemplates manifest options).mpr ?_, ?_⟩
    · intro route member _
      exact (exists_mapM _ _).mp ⟨templates, accepted⟩ route member
    · intro before route after name split given later
      obtain ⟨template, found, own⟩ :=
        templates_get manifest options templates each before after route split
      have last := (route?_eq_some manifest name route).mpr ⟨before, after, split, given, later⟩
      exact ⟨template, found,
        (templateFor_eq_ok manifest options name template).mpr ⟨route, last, own⟩⟩
  only := by
    intro other name route same last lastOther
    exact templateFor_only manifest other options name route same last lastOther

/-- A route that does not compile, and a later one of the same name. -/
theorem templates_agree_shadowed :
    ∃ (manifest : Manifest) (error : CompileError),
      (manifest.templates .default).outcome = .error error ∧
      (manifest.namedTemplates .default).outcome = .error error ∧
      (manifest.templateFor .default "a").outcome = .ok ⟨"/"⟩ := by
  let bad : Route := ⟨some "a", .group (.group .slash), {}⟩
  let good : Route := ⟨some "a", .slash, {}⟩
  let manifest := ofRoutes [bad, good]
  have agree := templates_agree manifest .default
  have failed : manifest.own .default bad = .error (.nestedGroups (.group .slash)) := rfl
  have first : FirstFailure (manifest.own .default) [bad, good] (.nestedGroups (.group .slash)) :=
    ⟨[], bad, [good], rfl, fun _ member => absurd member List.not_mem_nil, failed⟩
  have last : IsLast manifest.routes "a" good :=
    ⟨[bad], [], rfl, rfl, fun _ member => absurd member List.not_mem_nil⟩
  exact ⟨manifest, _, (agree.firstOfAll _).mpr first, (agree.firstOfNamed _).mpr first,
    agree.last "a" good last⟩

end Manifest

end RouteTemplate
