import RouteTemplate.Manifest
import RouteTemplate.Proofs.Action

namespace RouteTemplate

namespace Logged

variable {ε α β : Type}

theorem outcome_bind (first : Logged ε α) (next : α → Logged ε β) :
    (first >>= next).outcome = first.outcome >>= fun value => (next value).outcome := by
  obtain ⟨outcome, events⟩ := first
  cases outcome <;> rfl

end Logged

structure Route.Leads (route : Route) (action : Action) : Prop where
  controller : route.defaults.controller = some action.controller
  name : route.defaults.action = some action.name
  complete : action.controller ≠ "" ∧ action.name ≠ ""

theorem Route.target?_eq_some (route : Route) (action : Action) :
    route.target? = some action ↔ route.Leads action := by
  obtain ⟨routeName, path, controller, name⟩ := route
  have target (controller name : String) :
      target? ⟨routeName, path, some controller, some name⟩ =
        if (Action.mk controller name).isComplete = true then some ⟨controller, name⟩
        else none := by
    show ((if (Action.mk controller name).isComplete = true then some () else none).bind fun _ =>
      some (Action.mk controller name)) = _
    split <;> rfl
  cases controller with
  | none => exact iff_of_false (by rintro ⟨⟩) fun leads => by cases leads.controller
  | some controller =>
    cases name with
    | none => exact iff_of_false (by rintro ⟨⟩) fun leads => by cases leads.name
    | some name =>
      rw [target]
      simp only [Action.isComplete_iff, Option.ite_none_right_eq_some]
      constructor
      · intro given
        obtain ⟨complete, same⟩ := given
        cases same
        exact ⟨rfl, rfl, complete⟩
      · intro leads
        obtain ⟨sameController, sameName, complete⟩ := leads
        cases sameController
        cases sameName
        exact ⟨complete, rfl⟩

namespace Compiler

/-- The names that a compilation finds for the action, if it may look up any and the action is
complete. -/
def found (params : Bool) : Option ParamSource → Option Action → List String
  | some source, some action =>
    if params && action.isComplete then (source action).getD [] else []
  | _, _ => []

theorem queryNames_outcome (compiler : Compiler) :
    compiler.queryNames.outcome =
      .ok (found compiler.options.params compiler.source compiler.action) := by
  rcases compiler with ⟨⟨ignored, params⟩, source, action⟩
  cases params with
  | false => cases source <;> cases action <;> rfl
  | true =>
    cases source with
    | none => rfl
    | some source =>
      cases action with
      | none => rfl
      | some action =>
        rw [queryNames]
        cases complete : action.isComplete <;> cases looked : source action <;>
          simp [found, complete, looked] <;> rfl

theorem compile_outcome (compiler : Compiler) (pattern : Pattern) :
    (compiler.compile pattern).outcome = (do
      let path ← pattern.compilePath compiler.options.ignored
      return ⟨withQuery path (found compiler.options.params compiler.source compiler.action)⟩) := by
  rw [compile, Logged.outcome_bind]
  simp only [Logged.outcome_bind, queryNames_outcome]
  rfl

end Compiler

namespace Manifest

def queryNames (manifest : Manifest) (options : Options) (route : Route) : List String :=
  if options.params then (route.target?.bind manifest.params.namesFor?).getD [] else []

theorem compileRoute_outcome (manifest : Manifest) (options : Options) (route : Route) :
    (manifest.compileRoute options route).outcome = (do
      let path ← route.path.compilePath options.ignored
      return ⟨withQuery path (manifest.queryNames options route)⟩) := by
  have complete (action : Action) (target : route.target? = some action) :
      action.isComplete = true :=
    (Action.isComplete_iff action).mpr ((route.target?_eq_some action).mp target).complete
  have names : Compiler.found options.params (some manifest.params.namesFor?) route.target? =
      manifest.queryNames options route := by
    cases target : route.target? with
    | none => simp [Compiler.found, queryNames, target]
    | some action => simp [Compiler.found, queryNames, target, complete action target]
  rw [compileRoute, Route.compile, Compiler.compile_outcome, names]

variable (manifest : Manifest) (options : Options) (wanted : options.params = true) (route : Route)
  (path : String) (compiled : route.path.compilePath options.ignored = .ok path)

include wanted compiled

theorem compileRoute_leads (action : Action) (leads : route.Leads action) :
    (manifest.compileRoute options route).outcome =
      .ok ⟨withQuery path ((manifest.params.namesFor? action).getD [])⟩ := by
  rw [compileRoute_outcome, compiled, queryNames, wanted,
    (route.target?_eq_some action).mpr leads]
  rfl

theorem compileRoute_nowhere (nowhere : ∀ action, ¬ route.Leads action) :
    (manifest.compileRoute options route).outcome = .ok ⟨path⟩ := by
  have target : route.target? = none := by
    rw [Option.eq_none_iff_forall_ne_some]
    intro action target
    exact nowhere action ((route.target?_eq_some action).mp target)
  rw [compileRoute_outcome, compiled, queryNames, wanted, target]
  rfl

end Manifest

end RouteTemplate
