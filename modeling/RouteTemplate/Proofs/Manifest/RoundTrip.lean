import RouteTemplate.Proofs.Manifest.Decoding
import RouteTemplate.Proofs.Pattern.Decoding
import RouteTemplate.Proofs.Registry.RoundTrip

/-!
Writing a manifest as JSON and reading it again. The routes come back as they are, whatever they
hold. The parameters come back if all their actions can be read, and only then
(`Manifest.read_compact_iff`).
-/

namespace RouteTemplate

open Json

theorem Defaults.toJson_denotes (defaults : Defaults) : Denotes defaults.toJson.datum defaults := by
  obtain ⟨controller, action⟩ := defaults
  have distinct : ((optionalMember "controller" controller ++
      optionalMember "action" action).map Prod.fst).Nodup := by
    cases controller <;> cases action <;> simp [optionalMember]
  constructor
  · exact Value.object_isRecord keys _ distinct
  · rw [toJson, Value.object_part?]
    cases controller <;> cases action <;> rfl
  · rw [toJson, Value.object_part?]
    cases controller <;> cases action <;> rfl

theorem Route.toJson_denotes (route : Route) : Denotes route.toJson.datum route := by
  obtain ⟨name, path, defaults⟩ := route
  have distinct : ((optionalMember "name" name ++
      [("path", path.toJson), ("defaults", defaults.toJson)]).map Prod.fst).Nodup := by
    cases name <;> simp [optionalMember]
  constructor
  · exact Value.object_isRecord keys _ distinct
  · rw [toJson, Value.object_part?]
    cases name <;> rfl
  · refine ⟨path.toJson.datum, ?_, path.toJson_denotes⟩
    rw [toJson, Value.object_part?]
    cases name <;> rfl
  · have part : (toJson ⟨name, path, defaults⟩).datum.part? keys "defaults" =
        some defaults.toJson.datum := by
      rw [toJson, Value.object_part?]
      cases name <;> rfl
    rw [part]
    exact defaults.toJson_denotes

namespace Manifest

theorem routes_datum (routes : List Route) :
    (Value.list (routes.map Route.toJson)).datum =
      .list (routes.map fun route => route.toJson.datum) := by
  rw [Value.datum, Value.itemData_eq_map, List.map_map]
  rfl

theorem routes_denote (routes : List Route) :
    ListsRoutes (Value.list (routes.map Route.toJson)).datum routes := by
  refine ⟨_, routes_datum routes, List.forall₂_map_left_iff.mpr (List.forall₂_same.mpr ?_)⟩
  intro route _
  exact route.toJson_denotes

theorem part_routes (manifest : Manifest) :
    manifest.toJson.datum.part? keys "routes" =
      some (Value.list (manifest.routes.map Route.toJson)).datum := by
  rw [toJson, Value.object_part?]
  rfl

theorem part_params (manifest : Manifest) :
    manifest.toJson.datum.part? keys "params" = some manifest.params.toJson.datum := by
  rw [toJson, Value.object_part?]
  rfl

theorem denotes_of_params (manifest : Manifest) (params : Registry)
    (denotes : Registry.Denotes manifest.params.toJson.datum params) :
    Denotes manifest.toJson.datum ⟨manifest.routes, params⟩ where
  record := Value.object_isRecord keys _ (by simp)
  routes := by
    rw [part_routes]
    exact routes_denote manifest.routes
  params := by
    rw [part_params]
    exact denotes

theorem read_compact_eq_ok (manifest other : Manifest) :
    read manifest.toJson.compact = .ok other ↔
      other.routes = manifest.routes ∧
        Registry.Denotes manifest.params.toJson.datum other.params := by
  have padded : Padded manifest.toJson.datum manifest.toJson.compact.toList :=
    manifest.toJson.compact_spells.padded
  have accepted (params : Registry)
      (denotes : Registry.Denotes manifest.params.toJson.datum params) :
      read manifest.toJson.compact = .ok ⟨manifest.routes, params⟩ :=
    (read_eq_ok _ _).mpr ⟨_, padded, denotes_of_params manifest params denotes⟩
  constructor
  · intro found
    obtain ⟨datum, again, denotes⟩ := (read_eq_ok _ _).mp found
    rw [← padded_unique _ _ _ padded again] at denotes
    have params : Registry.Denotes manifest.params.toJson.datum other.params := by
      have given := denotes.params
      rwa [part_params] at given
    have same := Except.ok.inj (found.symm.trans (accepted other.params params))
    rw [same]
    exact ⟨rfl, params⟩
  · intro same
    obtain ⟨routes, params⟩ := same
    rw [accepted other.params params, ← routes]

theorem decode_of_routes (key other : Lexeme) (listed value : Draft) (routes : List Route)
    (knownKey : key.units? = some (units "routes"))
    (knownOther : other.units? = some (units "params"))
    (decoded : decodeRoutes none listed = .ok routes) :
    decode none (.object (.member key listed (.member other value (.stop .closed)))) = (do
      return ⟨routes, ← Registry.decode none value⟩) := by
  have first := Slot.takeMembers_member whole routesSlot List.mem_cons_self {} rfl key listed
    (.member other value (.stop .closed)) knownKey
  have second := Slot.takeMembers_member whole paramsSlot
    (List.mem_cons_of_mem _ List.mem_cons_self) { routes := some routes } rfl other value
    (.stop .closed) knownOther
  have recorded : Draft.record none .routeSet fields {}
      (.object (.member key listed (.member other value (.stop .closed)))) =
      (do return { routes := some routes, params := some (← Registry.decode none value) }) := by
    refine first.trans ?_
    show (decodeRoutes none listed >>= _) = _
    rw [decoded]
    exact second
  rw [decode, recorded]
  cases Registry.decode none value <;> rfl

theorem read_compact_cases (manifest : Manifest) :
    (∃ other, read manifest.toJson.compact = .ok other) ∨
      ∃ action ∈ manifest.params.keys,
        read manifest.toJson.compact = .error (.badAction (.emptyHalf action.text)) := by
  obtain ⟨root, document, known⟩ :=
    (Document.ofText_iff _ _).mpr manifest.toJson.compact_spells.padded
  rw [read, read_root (decode none) _ root document]
  obtain ⟨members, rfl, knownMembers⟩ := (Draft.datum_eq_some _ _).mp known
  obtain ⟨key, listed, _, knownKey, knownListed, knownRest, rfl⟩ :=
    members_data_cons members _ _ _ knownMembers
  obtain ⟨other, value, last, knownOther, knownValue, knownLast, rfl⟩ :=
    members_data_cons _ _ _ _ knownRest
  have decoded : decodeRoutes none listed = .ok manifest.routes :=
    (decodeRoutes_reads listed manifest.routes).mpr ⟨_, knownListed, routes_denote manifest.routes⟩
  rw [(members_data_nil last).mp knownLast,
    decode_of_routes key other listed value manifest.routes knownKey knownOther decoded]
  rcases manifest.params.decode_written none trivial value knownValue with accepted | refused
  · obtain ⟨params, taken⟩ := accepted
    rw [taken]
    exact Or.inl ⟨_, rfl⟩
  · obtain ⟨action, member, taken⟩ := refused
    rw [taken]
    exact Or.inr ⟨action, member, rfl⟩

theorem read_compact_same (manifest : Manifest) :
    read manifest.toJson.compact = .ok manifest ↔
      ∀ action ∈ manifest.params.keys, action.Readable := by
  rw [read_compact_eq_ok, Registry.denotes_written]
  constructor
  · intro back
    obtain ⟨_, found, retold, same⟩ := back
    rw [same]
    exact retold.keys_readable
  · intro readable
    have each : ∀ entry ∈ manifest.params.toList, entry.1.Readable := by
      intro entry member
      apply readable entry.1
      rw [← Registry.toList_keys]
      exact List.mem_map_of_mem member
    exact ⟨rfl, manifest.params.toList, ⟨each, rfl⟩, (Registry.ofList_toList _).symm⟩

theorem read_compact_other (manifest other : Manifest)
    (back : read manifest.toJson.compact = .ok other) :
    other.routes = manifest.routes ∧ (∀ action ∈ other.params.keys, action.Readable) ∧
      other.params.keys.map Action.text =
        (manifest.params.keys.map Action.text).eraseDups := by
  obtain ⟨routes, params⟩ := (read_compact_eq_ok manifest other).mp back
  obtain ⟨found, retold, made⟩ := (Registry.denotes_written _ _).mp params
  refine ⟨routes, made ▸ retold.keys_readable, ?_⟩
  calc
    other.params.keys.map Action.text =
        (manifest.params.toList.map fun entry => entry.1.text).eraseDups := by
      rw [made]
      exact retold.keys_text
    _ = (manifest.params.keys.map Action.text).eraseDups := by
      rw [← Registry.toList_keys, List.map_map]
      rfl

theorem isSame_of_unreadable (manifest other : Manifest)
    (readable : ∀ action ∈ other.params.keys, action.Readable) (action : Action)
    (member : action ∈ manifest.params.keys) (unreadable : ¬ action.Readable) :
    manifest.isSame other = false ∧ other.isSame manifest = false := by
  obtain ⟨different, differentBack⟩ := Registry.sameEntries_of_unreadable manifest.params
    other.params readable action member unreadable
  rw [isSame, isSame, different, differentBack, Bool.and_false, Bool.and_false]
  exact ⟨rfl, rfl⟩

/-- A manifest comes back from its text just as it is, order included, if and only if all its
actions can be read. Otherwise one of them is refused, or what comes back is another manifest: the
routes are the same, but actions that are written alike have become one. -/
theorem read_compact_iff (manifest : Manifest) :
    (read manifest.toJson.compact = .ok manifest ↔
      ∀ action ∈ manifest.params.keys, action.Readable) ∧
    ((∃ action ∈ manifest.params.keys, ¬ action.Readable) →
      (∃ action ∈ manifest.params.keys,
        read manifest.toJson.compact = .error (.badAction (.emptyHalf action.text))) ∨
      ∃ other, read manifest.toJson.compact = .ok other ∧ manifest.isSame other = false ∧
        other.isSame manifest = false ∧ other.routes = manifest.routes ∧
        other.params.keys.map Action.text =
          (manifest.params.keys.map Action.text).eraseDups) := by
  refine ⟨read_compact_same manifest, ?_⟩
  intro found
  obtain ⟨action, member, unreadable⟩ := found
  rcases read_compact_cases manifest with accepted | refused
  · obtain ⟨other, accepted⟩ := accepted
    obtain ⟨routes, readable, texts⟩ := read_compact_other manifest other accepted
    obtain ⟨different, differentBack⟩ :=
      isSame_of_unreadable manifest other readable action member unreadable
    exact Or.inr ⟨other, accepted, different, differentBack, routes, texts⟩
  · exact Or.inl refused

/-- Two actions that are written alike come back as one. -/
theorem read_compact_iff_alike :
    ∃ manifest other : Manifest, manifest.params.keys = [⟨"a#b", "c"⟩, ⟨"a", "b#c"⟩] ∧
      read manifest.toJson.compact = .ok other ∧ manifest.isSame other = false ∧
      other.params.keys.map Action.text = ["a#b#c"] := by
  let manifest : Manifest := ⟨[], Registry.ofList [(⟨"a#b", "c"⟩, ["x"]), (⟨"a", "b#c"⟩, ["y"])]⟩
  let found : List (Action × List String) := [(⟨"a", "b#c"⟩, ["x"]), (⟨"a", "b#c"⟩, ["y"])]
  have retold : Registry.Retold manifest.params.toList found := ⟨by decide, by decide⟩
  have accepted : read manifest.toJson.compact = .ok ⟨[], Registry.ofList found⟩ :=
    (read_compact_eq_ok manifest _).mpr
      ⟨rfl, (Registry.denotes_written _ _).mpr ⟨found, retold, rfl⟩⟩
  have unreadable : ∃ action ∈ manifest.params.keys, ¬ action.Readable :=
    ⟨⟨"a#b", "c"⟩, by decide, by decide⟩
  rcases (read_compact_iff manifest).2 unreadable with refused | changed
  · obtain ⟨_, _, refused⟩ := refused
    cases accepted.symm.trans refused
  · obtain ⟨other, read, different, _, _, texts⟩ := changed
    exact ⟨manifest, other, by decide, read, different, texts⟩

end Manifest

end RouteTemplate
