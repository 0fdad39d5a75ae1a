import RouteTemplate.Proofs.Route.Compiling

namespace RouteTemplate

/-- Whether a query with these names is due. The action is looked up as the pair that it is, however
it is written. -/
structure Queried (params : Bool) (source : Option ParamSource) (action : Option Action)
    (names : List String) : Prop where
  wanted : params = true
  listed : ∃ lookup target, source = some lookup ∧ action = some target ∧
    target.controller ≠ "" ∧ target.name ≠ "" ∧ lookup target = some names
  nonempty : names ≠ []

theorem withQuery_eq_append (path : String) (names : List String) :
    withQuery path names = path ++ withQuery "" names := by
  cases names with
  | nil => simp [withQuery]
  | cons name names => simp [withQuery, String.append_assoc]

theorem withQuery_ne_empty (names : List String) (any : names ≠ []) : withQuery "" names ≠ "" := by
  simp [withQuery, any]

theorem Registry.namesFor?_nodup (registry : Registry) (action : Action) (names : List String)
    (registered : registry.namesFor? action = some names) : names.Nodup := by
  rw [namesFor?, Option.map_eq_some_iff] at registered
  rcases registered with ⟨stored, _, rfl⟩
  exact stored.nodup

namespace Compiler

variable {params : Bool} {source : Option ParamSource} {action : Option Action}

theorem found_listed (lookup : ParamSource) (target : Action) (names : List String)
    (same : found params (some lookup) (some target) = names) (any : names ≠ []) :
    params = true ∧ target.isComplete = true ∧ lookup target = some names := by
  rw [found] at same
  by_cases due : (params && target.isComplete) = true
  · rw [if_pos due] at same
    rcases Bool.and_eq_true_iff.mp due with ⟨wanted, complete⟩
    cases looked : lookup target with
    | none =>
      rw [looked] at same
      exact absurd same.symm any
    | some listed =>
      rw [looked] at same
      exact ⟨wanted, complete, congrArg some same⟩
  · rw [if_neg due] at same
    exact absurd same.symm any

theorem queried_iff (names : List String) :
    Queried params source action names ↔ found params source action = names ∧ names ≠ [] := by
  constructor
  · intro queried
    rcases queried with ⟨rfl, ⟨lookup, target, rfl, rfl, controller, name, looked⟩, any⟩
    have complete := (Action.isComplete_iff target).mpr ⟨controller, name⟩
    simp [found, complete, looked, any]
  · intro both
    rcases both with ⟨same, any⟩
    cases source with
    | none => exact absurd same.symm any
    | some lookup =>
      cases action with
      | none => exact absurd same.symm any
      | some target =>
        rcases found_listed lookup target names same any with ⟨wanted, complete, looked⟩
        rcases (Action.isComplete_iff target).mp complete with ⟨controller, name⟩
        exact ⟨wanted, ⟨lookup, target, rfl, rfl, controller, name, looked⟩, any⟩

theorem withQuery_found (names : List String) (queried : Queried params source action names) :
    withQuery "" (found params source action) = "\x7b?" ++ ",".intercalate names ++ "\x7d" := by
  rcases (queried_iff names).mp queried with ⟨same, any⟩
  simp [withQuery, same, any]

theorem withQuery_found_eq_empty :
    withQuery "" (found params source action) = "" ↔
      ∀ names, ¬ Queried params source action names := by
  constructor
  · intro nothing names queried
    rcases (queried_iff names).mp queried with ⟨same, any⟩
    rw [same] at nothing
    exact withQuery_ne_empty names any nothing
  · intro undue
    have nothing : found params source action = [] := by
      by_contra any
      exact undue _ ((queried_iff _).mpr ⟨rfl, any⟩)
    rw [nothing]
    rfl

theorem compile_eq_error (compiler : Compiler) (pattern : Pattern) (error : CompileError) :
    (compiler.compile pattern).outcome = .error error ↔
      pattern.compilePath compiler.options.ignored = .error error := by
  rw [compile_outcome]
  cases pattern.compilePath compiler.options.ignored with
  | error actual =>
    constructor <;>
      · intro failed
        cases failed
        rfl
  | ok path => exact iff_of_false nofun nofun

theorem compile_eq_ok (compiler : Compiler) (pattern : Pattern) (template : Template) :
    (compiler.compile pattern).outcome = .ok template ↔
      ∃ path, pattern.compilePath compiler.options.ignored = .ok path ∧ template.text = path ++
        withQuery "" (found compiler.options.params compiler.source compiler.action) := by
  rcases template with ⟨text⟩
  rw [compile_outcome]
  cases pattern.compilePath compiler.options.ignored with
  | error error =>
    apply iff_of_false nofun
    intro compiled
    rcases compiled with ⟨path, same, _⟩
    cases same
  | ok path =>
    constructor
    · intro compiled
      cases compiled
      exact ⟨path, rfl, withQuery_eq_append path _⟩
    · intro compiled
      rcases compiled with ⟨_, same, written⟩
      cases same
      exact congrArg (Except.ok ∘ Template.mk) ((withQuery_eq_append path _).trans written.symm)

/-- A compilation fails exactly if the path is refused, and as the path is. Otherwise it gives the
path and a suffix that is the same for all patterns and all ignored names: the query if one is due,
and else nothing. The names may be looked up in a registry, in a map (`map.find?`) or in any other
way. A registry never repeats a name in a query. -/
theorem compile_factors (params : Bool) (source : Option ParamSource) (action : Option Action) :
    ∃ suffix : String,
      (∀ (ignored : Names) (pattern : Pattern),
        (∀ error, ((Compiler.mk ⟨ignored, params⟩ source action).compile pattern).outcome =
            .error error ↔ pattern.compilePath ignored = .error error) ∧
        ∀ template, ((Compiler.mk ⟨ignored, params⟩ source action).compile pattern).outcome =
            .ok template ↔
          ∃ path, pattern.compilePath ignored = .ok path ∧ template.text = path ++ suffix) ∧
      (∀ names, Queried params source action names →
        suffix = "\x7b?" ++ ",".intercalate names ++ "\x7d") ∧
      (suffix = "" ↔ ∀ names, ¬ Queried params source action names) ∧
      ∀ (registry : Registry) (names : List String), source = some registry.namesFor? →
        Queried params source action names → names.Nodup := by
  refine ⟨withQuery "" (found params source action), ?_, withQuery_found,
    withQuery_found_eq_empty, ?_⟩
  · intro ignored pattern
    exact ⟨compile_eq_error _ pattern, compile_eq_ok _ pattern⟩
  · intro registry names registered queried
    rcases queried.listed with ⟨lookup, target, same, _, _, _, looked⟩
    cases same.symm.trans registered
    exact registry.namesFor?_nodup target names looked

example :
    let registry := Registry.ofList [(⟨"a#b", "c"⟩, ["x", "y", "x"])]
    ((Compiler.mk .default (some registry.namesFor?) (some ⟨"a#b", "c"⟩)).compile .slash).outcome =
      .ok ⟨"/\x7b?x,y\x7d"⟩ := rfl

end Compiler

end RouteTemplate
