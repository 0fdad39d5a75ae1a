import RouteTemplate.Manifest
import RouteTemplate.Proofs.Json.Records
import RouteTemplate.Proofs.Pattern.Decoding
import RouteTemplate.Proofs.Registry.Decoding

namespace RouteTemplate

open Json

theorem optional_null (value : Option String) : Datum.null = .optional value ↔ value = none := by
  cases value <;> simp [Datum.optional, Datum.string]

theorem join_eq_getD {α : Type} (kept : Option (Option α)) : kept.join = kept.getD none := by
  cases kept <;> rfl

namespace Defaults

def keys : List String := ["controller", "action"]

structure Denotes (datum : Datum) (defaults : Defaults) : Prop where
  record : datum.IsRecord keys
  controller : (datum.part? keys "controller").getD .null = .optional defaults.controller
  action : (datum.part? keys "action").getD .null = .optional defaults.action

def controllerSlot : Slot Given where
  key := "controller"
  Kept := Option String
  kept := (·.controller)
  keep given value := { given with controller := some value }
  read := Draft.optionalString
  meaning datum value := datum = .optional value

def actionSlot : Slot Given where
  key := "action"
  Kept := Option String
  kept := (·.action)
  keep given value := { given with action := some value }
  read := Draft.optionalString
  meaning datum value := datum = .optional value

theorem whole : Slot.Whole [controllerSlot, actionSlot] where
  reads := by
    simp only [forall_mem_pair]
    exact ⟨Draft.optionalString_reads, Draft.optionalString_reads⟩
  kept_keep := by
    simp only [forall_mem_pair]
    exact ⟨fun _ _ => rfl, fun _ _ => rfl⟩
  apart := List.pairwise_pair.mpr ⟨by decide, fun _ _ => rfl, fun _ _ => rfl⟩
  ext first second same := by
    simp only [forall_mem_pair] at same
    obtain ⟨controller, action⟩ := same
    cases first
    cases second
    congr

theorem record_reads (draft : Draft) (given : Given) :
    draft.record none .defaults fields {} = .ok given ↔
      ∃ datum, draft.datum? = some datum ∧ datum.IsRecord keys ∧
        controllerSlot.Agrees given (datum.part? keys "controller") ∧
        actionSlot.Agrees given (datum.part? keys "action") := by
  have empty : ∀ slot ∈ [controllerSlot, actionSlot], slot.kept {} = none := by
    simp only [forall_mem_pair]
    exact ⟨rfl, rfl⟩
  have record := Slot.record_eq_ok whole none none rfl .defaults fields rfl {} empty draft given
  simp only [forall_mem_pair] at record
  exact record

theorem decode_reads : Reads (decode none) Denotes := by
  intro draft defaults
  simp only [decode, bind_eq_ok, record_reads, join_eq_getD]
  constructor
  · intro accepted
    obtain ⟨given, ⟨datum, known, isRecord, controller, action⟩, same⟩ := accepted
    cases same
    exact ⟨datum, known, isRecord,
      controllerSlot.meaning_of_agrees .null none optional_null given _ controller,
      actionSlot.meaning_of_agrees .null none optional_null given _ action⟩
  · intro found
    obtain ⟨datum, known, denotes⟩ := found
    obtain ⟨controller, sameController, agreesController⟩ :=
      controllerSlot.agrees_of_meaning .null none optional_null _ _ denotes.controller
    obtain ⟨action, sameAction, agreesAction⟩ :=
      actionSlot.agrees_of_meaning .null none optional_null _ _ denotes.action
    refine ⟨⟨controller, action⟩, ⟨datum, known, denotes.record, agreesController _ rfl,
      agreesAction _ rfl⟩, ?_⟩
    show Except.ok (Defaults.mk (controller.getD none) (action.getD none)) = _
    rw [sameController, sameAction]

theorem denotes_empty (defaults : Defaults) : Denotes (.object []) defaults ↔ defaults = {} := by
  constructor
  · intro denotes
    obtain ⟨controller, action⟩ := defaults
    rw [(optional_null controller).mp denotes.controller, (optional_null action).mp denotes.action]
  · intro same
    rw [same]
    refine ⟨⟨fun _ listed => absurd listed List.not_mem_nil, fun _ _ => Nat.zero_le 1⟩, rfl, rfl⟩

end Defaults

namespace Route

def keys : List String := ["name", "path", "defaults"]

structure Denotes (datum : Datum) (route : Route) : Prop where
  record : datum.IsRecord keys
  name : (datum.part? keys "name").getD .null = .optional route.name
  path : ∃ body, datum.part? keys "path" = some body ∧ Pattern.Denotes body route.path
  defaults : Defaults.Denotes ((datum.part? keys "defaults").getD (.object [])) route.defaults

def nameSlot : Slot Given where
  key := "name"
  Kept := Option String
  kept := (·.name)
  keep given value := { given with name := some value }
  read := Draft.optionalString
  meaning datum value := datum = .optional value

def pathSlot : Slot Given where
  key := "path"
  Kept := Pattern
  kept := (·.path)
  keep given value := { given with path := some value }
  read := Pattern.decode none
  meaning := Pattern.Denotes

def defaultsSlot : Slot Given where
  key := "defaults"
  Kept := Defaults
  kept := (·.defaults)
  keep given value := { given with defaults := some value }
  read := Defaults.decode none
  meaning := Defaults.Denotes

theorem whole : Slot.Whole [nameSlot, pathSlot, defaultsSlot] where
  reads := by
    simp only [forall_mem_triple]
    exact ⟨Draft.optionalString_reads, Pattern.decode_eq_ok, Defaults.decode_reads⟩
  kept_keep := by
    simp only [forall_mem_triple]
    exact ⟨fun _ _ => rfl, fun _ _ => rfl, fun _ _ => rfl⟩
  apart := by
    rw [List.pairwise_cons, forall_mem_pair, List.pairwise_pair]
    exact ⟨⟨⟨by decide, fun _ _ => rfl, fun _ _ => rfl⟩,
      ⟨by decide, fun _ _ => rfl, fun _ _ => rfl⟩⟩, ⟨by decide, fun _ _ => rfl, fun _ _ => rfl⟩⟩
  ext first second same := by
    simp only [forall_mem_triple] at same
    obtain ⟨name, path, defaults⟩ := same
    cases first
    cases second
    congr

theorem record_reads (draft : Draft) (given : Given) :
    draft.record none .route fields {} = .ok given ↔
      ∃ datum, draft.datum? = some datum ∧ datum.IsRecord keys ∧
        nameSlot.Agrees given (datum.part? keys "name") ∧
        pathSlot.Agrees given (datum.part? keys "path") ∧
        defaultsSlot.Agrees given (datum.part? keys "defaults") := by
  have empty : ∀ slot ∈ [nameSlot, pathSlot, defaultsSlot], slot.kept {} = none := by
    simp only [forall_mem_triple]
    exact ⟨rfl, rfl, rfl⟩
  have record := Slot.record_eq_ok whole none none rfl .route fields rfl {} empty draft given
  simp only [forall_mem_triple] at record
  exact record

theorem decode_eq_ok (draft : Draft) (route : Route) :
    decode none draft = .ok route ↔
      ∃ given path, draft.record none .route fields {} = .ok given ∧ given.path = some path ∧
        route = ⟨given.name.getD none, path, given.defaults.getD {}⟩ := by
  rw [decode, bind_eq_ok]
  constructor
  · intro accepted
    obtain ⟨given, recorded, finished⟩ := accepted
    cases there : given.path with
    | none =>
      rw [there] at finished
      cases finished
    | some path =>
      rw [there] at finished
      cases finished
      exact ⟨given, path, recorded, there, by rw [join_eq_getD]⟩
  · intro found
    obtain ⟨given, path, recorded, there, rfl⟩ := found
    refine ⟨given, recorded, ?_⟩
    rw [there, ← join_eq_getD]
    rfl

theorem decode_reads : Reads (decode none) Denotes := by
  intro draft route
  simp only [decode_eq_ok, record_reads]
  constructor
  · intro accepted
    obtain ⟨given, path, ⟨datum, known, isRecord, name, agrees, defaults⟩, there, rfl⟩ := accepted
    have written : ∃ body, datum.part? keys "path" = some body ∧ Pattern.Denotes body path := by
      cases part : datum.part? keys "path" with
      | none =>
        rw [part] at agrees
        exact absurd (agrees.symm.trans there) (by simp)
      | some body =>
        rw [part] at agrees
        obtain ⟨value, kept, meant⟩ := agrees
        cases kept.symm.trans there
        exact ⟨body, rfl, meant⟩
    exact ⟨datum, known, isRecord,
      nameSlot.meaning_of_agrees .null none optional_null given _ name, written,
      defaultsSlot.meaning_of_agrees (.object []) {} Defaults.denotes_empty given _ defaults⟩
  · intro found
    obtain ⟨datum, known, denotes⟩ := found
    obtain ⟨name, sameName, agreesName⟩ :=
      nameSlot.agrees_of_meaning .null none optional_null _ _ denotes.name
    obtain ⟨body, part, meant⟩ := denotes.path
    obtain ⟨defaults, sameDefaults, agreesDefaults⟩ :=
      defaultsSlot.agrees_of_meaning (.object []) {} Defaults.denotes_empty _ _ denotes.defaults
    refine ⟨⟨name, some route.path, defaults⟩, route.path, ⟨datum, known, denotes.record,
      agreesName _ rfl, ?_, agreesDefaults _ rfl⟩, rfl, ?_⟩
    · rw [part]
      exact ⟨route.path, rfl, meant⟩
    · show route = ⟨name.getD none, route.path, defaults.getD {}⟩
      rw [sameName, sameDefaults]

end Route

namespace Manifest

def keys : List String := ["routes", "params"]

def ListsRoutes (datum : Datum) (routes : List Route) : Prop :=
  ∃ data, datum = .list data ∧ List.Forall₂ Route.Denotes data routes

structure Denotes (datum : Datum) (manifest : Manifest) : Prop where
  record : datum.IsRecord keys
  routes : ListsRoutes ((datum.part? keys "routes").getD (.list [])) manifest.routes
  params : Registry.Denotes ((datum.part? keys "params").getD (.object [])) manifest.params

def routesSlot : Slot Given where
  key := "routes"
  Kept := List Route
  kept := (·.routes)
  keep given value := { given with routes := some value }
  read := decodeRoutes none
  meaning := ListsRoutes

def paramsSlot : Slot Given where
  key := "params"
  Kept := Registry
  kept := (·.params)
  keep given value := { given with params := some value }
  read := Registry.decode none
  meaning := Registry.Denotes

theorem decodeRoutes_reads : Reads (decodeRoutes none) ListsRoutes := by
  intro draft routes
  fun_cases decodeRoutes none draft with
  | case1 items =>
    refine (Route.decode_reads.mapM items routes).trans ?_
    constructor
    · intro found
      obtain ⟨data, known, each⟩ := found
      exact ⟨.list data, (Draft.list_datum items data).mpr known, data, rfl, each⟩
    · intro found
      obtain ⟨_, known, data, rfl, each⟩ := found
      exact ⟨data, (Draft.list_datum items data).mp known, each⟩
  | case2 _ other =>
    refine iff_of_false (reject_ne_ok .sequence draft routes) ?_
    intro found
    obtain ⟨_, known, data, rfl, _⟩ := found
    obtain ⟨items, same, _⟩ := (Draft.datum_eq_some _ _).mp known
    exact other items same

theorem whole : Slot.Whole [routesSlot, paramsSlot] where
  reads := by
    simp only [forall_mem_pair]
    exact ⟨decodeRoutes_reads, Registry.decode_reads none trivial⟩
  kept_keep := by
    simp only [forall_mem_pair]
    exact ⟨fun _ _ => rfl, fun _ _ => rfl⟩
  apart := List.pairwise_pair.mpr ⟨by decide, fun _ _ => rfl, fun _ _ => rfl⟩
  ext first second same := by
    simp only [forall_mem_pair] at same
    obtain ⟨routes, params⟩ := same
    cases first
    cases second
    congr

theorem record_reads (draft : Draft) (given : Given) :
    draft.record none .routeSet fields {} = .ok given ↔
      ∃ datum, draft.datum? = some datum ∧ datum.IsRecord keys ∧
        routesSlot.Agrees given (datum.part? keys "routes") ∧
        paramsSlot.Agrees given (datum.part? keys "params") := by
  have empty : ∀ slot ∈ [routesSlot, paramsSlot], slot.kept {} = none := by
    simp only [forall_mem_pair]
    exact ⟨rfl, rfl⟩
  have record := Slot.record_eq_ok whole none none rfl .routeSet fields rfl {} empty draft given
  simp only [forall_mem_pair] at record
  exact record

theorem listsRoutes_empty (routes : List Route) : ListsRoutes (.list []) routes ↔ routes = [] := by
  constructor
  · intro lists
    obtain ⟨_, same, each⟩ := lists
    cases same
    cases each
    rfl
  · intro same
    exact ⟨[], rfl, same ▸ .nil⟩

theorem decode_reads : Reads (decode none) Denotes := by
  intro draft manifest
  simp only [decode, bind_eq_ok, record_reads]
  constructor
  · intro accepted
    obtain ⟨given, ⟨datum, known, isRecord, routes, params⟩, same⟩ := accepted
    cases same
    exact ⟨datum, known, isRecord,
      routesSlot.meaning_of_agrees (.list []) [] listsRoutes_empty given _ routes,
      paramsSlot.meaning_of_agrees (.object []) .empty Registry.denotes_empty given _ params⟩
  · intro found
    obtain ⟨datum, known, denotes⟩ := found
    obtain ⟨routes, sameRoutes, agreesRoutes⟩ :=
      routesSlot.agrees_of_meaning (.list []) [] listsRoutes_empty _ _ denotes.routes
    obtain ⟨params, sameParams, agreesParams⟩ :=
      paramsSlot.agrees_of_meaning (.object []) .empty Registry.denotes_empty _ _ denotes.params
    refine ⟨⟨routes, params⟩, ⟨datum, known, denotes.record, agreesRoutes _ rfl,
      agreesParams _ rfl⟩, ?_⟩
    show Except.ok (Manifest.mk (routes.getD []) (params.getD .empty)) = _
    rw [sameRoutes, sameParams]

theorem read_eq_ok (text : String) (manifest : Manifest) :
    read text = .ok manifest ↔ ∃ datum, Padded datum text.toList ∧ Denotes datum manifest :=
  read_eq_ok_iff (decode none) Denotes decode_reads text manifest

end Manifest

end RouteTemplate
