import RouteTemplate.Proofs.Manifest.RoundTrip
import RouteTemplate.Proofs.Route.Compiling

namespace RouteTemplate

open Json

namespace Registry

theorem readable_of_lists (members : List (List Nat × Datum))
    (entries : List (Action × List String)) (lists : Lists members entries) :
    ∀ entry ∈ entries, entry.1.Readable := by
  induction lists with
  | nil => exact fun _ member => absurd member List.not_mem_nil
  | cons parsed following ih =>
    exact List.forall_mem_cons.mpr ⟨((Action.parse_eq_ok_iff _ _).mp parsed).1, ih⟩

theorem valuesOf_lists (members : List (List Nat × Datum)) (entries : List (Action × List String))
    (lists : Lists members entries) (action : Action) (readable : action.Readable) :
    valuesOf action.text members =
      ((entries.filter fun entry => entry.1 = action).map Prod.snd).map Datum.strings := by
  induction lists with
  | nil => rfl
  | @cons key found names members entries parsed following ih =>
    obtain ⟨readableFound, same⟩ := (Action.parse_eq_ok_iff key found).mp parsed
    by_cases equal : found = action
    · subst equal
      rw [← same, valuesOf_same, ih, List.filter_cons_of_pos (by simp)]
      rfl
    · have different : action.text ≠ key := by
        intro alike
        exact equal (Action.text_injOn found action readableFound readable (same.trans alike.symm))
      rw [valuesOf_other action.text key _ _ different, ih,
        List.filter_cons_of_neg (by simpa using equal)]

theorem namesFor?_lists (members : List (List Nat × Datum)) (entries : List (Action × List String))
    (lists : Lists members entries) (action : Action) (readable : action.Readable) :
    ∃ names : Option (List String),
      (valuesOf action.text members).getLast? = names.map Datum.strings ∧
      (ofList entries).namesFor? action = names.map List.eraseDups := by
  refine ⟨lastValue? entries action, ?_, namesFor?_ofList entries action⟩
  rw [valuesOf_lists members entries lists action readable, List.getLast?_map,
    ← lastValue?_eq_getLast?]

theorem namesFor?_unreadable (members : List (List Nat × Datum))
    (entries : List (Action × List String)) (lists : Lists members entries) (action : Action)
    (unreadable : ¬ action.Readable) : (ofList entries).namesFor? action = none := by
  have absent : action ∉ entries.map Prod.fst := by
    intro member
    obtain ⟨entry, listed, rfl⟩ := List.mem_map.mp member
    exact unreadable (readable_of_lists members entries lists entry listed)
  rw [namesFor?_ofList, (lastValue?_eq_none entries action).mpr absent]
  rfl

end Registry

namespace Manifest

theorem withQuery_eraseDups (path : String) (names : List String) :
    withQuery path names.eraseDups =
      if names = [] then path
      else path ++ "\x7b?" ++ ",".intercalate names.eraseDups ++ "\x7d" := by
  cases names with
  | nil => rfl
  | cons first others =>
    rw [withQuery, List.eraseDups_cons]
    rfl

/-- The template of a route of a manifest that was read, from the text. -/
theorem read_compiles_query (text : String) (manifest : Manifest)
    (accepted : read text = .ok manifest) :
    ∃ datum members, Padded datum text.toList ∧
      ListsRoutes ((datum.part? keys "routes").getD (.list [])) manifest.routes ∧
      (datum.part? keys "params").getD (.object []) = .object members ∧
      ∀ (options : Options) (route : Route) (path : String), options.params = true →
        route ∈ manifest.routes → route.path.compilePath options.ignored = .ok path →
        (∀ action, route.Leads action → '#' ∉ action.controller.toList →
          (valuesOf action.text members = [] →
            (manifest.compileRoute options route).outcome = .ok ⟨path⟩) ∧
          ∀ last, (valuesOf action.text members).getLast? = some last →
            ∃ names, last = .strings names ∧ (manifest.compileRoute options route).outcome =
              .ok ⟨if names = [] then path
                else path ++ "\x7b?" ++ ",".intercalate names.eraseDups ++ "\x7d"⟩) ∧
        (∀ action, route.Leads action → '#' ∈ action.controller.toList →
          (manifest.compileRoute options route).outcome = .ok ⟨path⟩) ∧
        ((∀ action, ¬ route.Leads action) →
          (manifest.compileRoute options route).outcome = .ok ⟨path⟩) := by
  obtain ⟨datum, padded, denotes⟩ := (read_eq_ok text manifest).mp accepted
  obtain ⟨members, entries, given, lists, made⟩ := denotes.params
  refine ⟨datum, members, padded, denotes.routes, given, ?_⟩
  intro options route path wanted _ compiled
  refine ⟨?_, ?_, manifest.compileRoute_nowhere options wanted route path compiled⟩
  · intro action leads plain
    have readable : action.Readable := ⟨leads.complete.1, plain, leads.complete.2⟩
    obtain ⟨names, last, found⟩ :=
      Registry.namesFor?_lists members entries lists action readable
    rw [manifest.compileRoute_leads options wanted route path compiled action leads, made, found,
      last]
    constructor
    · intro absent
      rw [absent] at last
      rw [Option.map_eq_none_iff.mp last.symm]
      rfl
    · intro value known
      obtain ⟨names, rfl, rfl⟩ := Option.map_eq_some_iff.mp known
      refine ⟨names, rfl, ?_⟩
      rw [← withQuery_eraseDups]
      rfl
  · intro action leads separated
    have unreadable : ¬ action.Readable := fun readable => readable.2.1 separated
    rw [manifest.compileRoute_leads options wanted route path compiled action leads, made,
      Registry.namesFor?_unreadable members entries lists action unreadable]
    rfl

theorem read_compiles_query_repeated :
    ∃ (text : String) (manifest : Manifest) (route : Route), read text = .ok manifest ∧
      (manifest.compileRoute .default route).outcome = .ok ⟨"/{?q}"⟩ := by
  let route : Route := ⟨none, .slash, ⟨some "u", some "i"⟩⟩
  let entries : List (Action × List String) := [(⟨"u", "i"⟩, ["p"]), (⟨"u", "i"⟩, ["q", "q"])]
  let members : List (List Nat × Datum) :=
    [(units "u#i", .strings ["p"]), (units "u#i", .strings ["q", "q"])]
  let value : Value := .object [("routes", .list [route.toJson]),
    ("params", .object [("u#i", .list [.text "p"]), ("u#i", .list [.text "q", .text "q"])])]
  have parsed : Action.parse "u#i" = .ok ⟨"u", "i"⟩ :=
    (Action.parse_eq_ok_iff _ _).mpr ⟨by decide, by decide⟩
  have lists : Registry.Lists members entries := .cons parsed (.cons parsed .nil)
  have part : value.datum.part? keys "params" = some (.object members) := by
    rw [Value.object_part?]
    rfl
  have denotes : Denotes value.datum ⟨[route], Registry.ofList entries⟩ :=
    ⟨Value.object_isRecord keys _ (by simp), routes_denote [route],
      members, entries, by rw [part]; rfl, lists, rfl⟩
  have padded : Padded value.datum value.compact.toList := value.compact_spells.padded
  have accepted : read value.compact = .ok ⟨[route], Registry.ofList entries⟩ :=
    (read_eq_ok _ _).mpr ⟨_, padded, denotes⟩
  obtain ⟨datum, found, again, _, given, compiles⟩ := read_compiles_query _ _ accepted
  rw [← padded_unique _ _ _ padded again, part] at given
  cases given
  obtain ⟨plain, _, _⟩ := compiles .default route "/" rfl List.mem_cons_self (by decide)
  obtain ⟨_, last⟩ := plain ⟨"u", "i"⟩ ⟨rfl, rfl, by decide⟩ (by decide)
  have values := Registry.valuesOf_lists members entries lists ⟨"u", "i"⟩ (by decide)
  obtain ⟨names, same, outcome⟩ := last (.strings ["q", "q"]) (by rw [values]; rfl)
  rw [← Datum.strings_injective same] at outcome
  exact ⟨_, _, route, accepted, outcome⟩

end Manifest

end RouteTemplate
